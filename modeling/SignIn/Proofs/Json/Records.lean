import SignIn.Proofs.Json.Layout
import SignIn.Proofs.Json.Numbers

/-!
# Records are read back as they were written

Each kind of value is read back, and so is a record whose fields have different names: its members
fill its fields one by one, in the order in which they were written. The same goes for a word of an
enumeration. So no two values of a type are written alike.
-/

namespace SignIn.Json

variable {l : Layout} {rest : Bytes}

/-! ## Values -/

theorem EndsValue.endsNumber (h : EndsValue rest) : EndsNumber rest := by
  obtain ⟨b, bs, rfl, hb⟩ := h
  intro c hc
  cases hc
  rcases hb with rfl | rfl | rfl | rfl <;> decide

theorem Kind.read_behind (k : Kind) (bs : Bytes) : k.read (l.behind ++ bs) = k.read bs := by
  cases k <;> simp [Kind.read, textValue, flagValue, textsValue, optionalValue]

theorem flagValue_write (b : Bool) : flagValue (writeBool b ++ rest) = .ok (b, rest) := by
  cases b <;> rfl

theorem optionalValue_some {α : Type} {value : Bytes → Outcome α} {bs : Bytes} {a : α}
    (hspace : skipSpace bs = bs) (hnone : bs.head? ≠ some 110) (h : value bs = .ok (a, rest)) :
    optionalValue value bs = .ok (some a, rest) := by
  rw [optionalValue, hspace]
  split
  case h_1 => exact absurd rfl hnone
  case h_2 => rw [h]; rfl

theorem exists_integer_eq_cons (n : Int) :
    ∃ b bs, Bytes.integer n = b :: bs ∧ (b = 45 ∨ isDigit b = true) := by
  cases n with
  | ofNat n =>
    obtain ⟨b, bs, hdigits, hdigit, -⟩ := exists_decimal_eq_cons n
    exact ⟨b, bs, hdigits, .inr hdigit⟩
  | negSucc n => exact ⟨45, _, rfl, .inl rfl⟩

theorem ends_of_first {b : UInt8} (h : b = 45 ∨ isDigit b = true) :
    isSpace b = false ∧ b ≠ 110 := by
  rcases h with rfl | h
  · decide
  · exact ⟨(isSpace_of_isDigit h).1, by rintro rfl; cases h⟩

/-- A value of any kind is read back, in either layout. -/
theorem Kind.read_write (k : Kind) (v : k.Carrier) (h : EndsValue rest) :
    k.read (l.write (k.write v) ++ rest) = .ok (v, rest) := by
  cases k with
  | text =>
    change textValue (l.write (.text v) ++ rest) = _
    rw [l.write_text]
    exact textValue_writeText v rest
  | flag =>
    change flagValue (l.write (.bool v) ++ rest) = _
    rw [l.write_bool]
    exact flagValue_write v
  | texts => exact textsValue_write l v rest
  | optionalText =>
    cases v with
    | none =>
      change optionalValue textValue (l.write .null ++ rest) = _
      rw [l.write_null]
      rfl
    | some s =>
      change optionalValue textValue (l.write (.text s) ++ rest) = _
      rw [l.write_text]
      exact optionalValue_some rfl (by simp [writeText]) (textValue_writeText s rest)
  | optionalInteger =>
    cases v with
    | none =>
      change optionalValue integerValue (l.write .null ++ rest) = _
      rw [l.write_null]
      rfl
    | some n =>
      change optionalValue integerValue (l.write (.number (.whole n.toInt)) ++ rest) = _
      rw [l.write_number]
      have hread := integerValue_integer n h.endsNumber
      obtain ⟨b, bs, hinteger, hfirst⟩ := exists_integer_eq_cons n.toInt
      obtain ⟨hspace, hnull⟩ := ends_of_first hfirst
      rw [writeNumber]
      rw [hinteger] at hread ⊢
      exact optionalValue_some (skipSpace_of_first hspace _) (by simpa using hnull) hread

theorem isText_decimal (n : Nat) : Bytes.IsText (Bytes.decimal n) := by
  refine Bytes.isText_of_ascii fun b hb => ?_
  have table : ∀ n < 256, isDigit (UInt8.ofNat n) = true → UInt8.ofNat n < 128 := by decide +kernel
  have hdigit := table b.toNat b.toNat_lt
  rw [UInt8.ofNat_toNat] at hdigit
  exact hdigit (isDigit_of_mem_decimal n b hb)

theorem isText_integer (n : Int) : Bytes.IsText (Bytes.integer n) := by
  cases n with
  | ofNat n => exact isText_decimal n
  | negSucc n => exact (isText_decimal (n + 1)).cons (by decide)

theorem Kind.isText_write (k : Kind) (v : k.Carrier) : Bytes.IsText (l.write (k.write v)) := by
  have htext : ∀ s, Bytes.IsText (l.write (.text s)) := fun s => by
    rw [l.write_text]
    exact isText_writeText s
  have hnull : Bytes.IsText (l.write .null) := by
    rw [l.write_null]
    exact Bytes.isText_of_ascii (by simp [writeNull])
  cases k with
  | text => exact htext v
  | flag =>
    change Bytes.IsText (l.write (.bool v))
    rw [l.write_bool]
    cases v <;> exact Bytes.isText_of_ascii (by simp [writeBool])
  | texts =>
    refine l.isText_list fun x hx => ?_
    obtain ⟨s, -, rfl⟩ := List.mem_map.1 hx
    rw [Layout.write_text]
    exact isText_writeText s
  | optionalText =>
    cases v with
    | none => exact hnull
    | some s => exact htext s
  | optionalInteger =>
    cases v with
    | none => exact hnull
    | some n =>
      change Bytes.IsText (l.write (.number (.whole n.toInt)))
      rw [l.write_number]
      exact isText_integer n.toInt

/-! ## Fields -/

def Gathered.full : (fs : List Field) → Values fs → Gathered fs
  | [], _ => ()
  | _ :: fs, (v, vs) => (some v, Gathered.full fs vs)

theorem complete_full (fs : List Field) (vs : Values fs) :
    complete fs (Gathered.full fs vs) = .ok vs := by
  induction fs with
  | nil => rfl
  | cons f fs ih =>
    obtain ⟨v, vs⟩ := vs
    change Except.map (fun vs => (v, vs)) (complete fs (Gathered.full fs vs)) = _
    rw [ih vs]
    rfl

theorem putMember_first (f : Field) (fs : List Field) (values : Gathered fs) (v : f.kind.Carrier)
    (h : EndsValue rest) :
    putMember (f :: fs) f.name (none, values)
        (58 :: (l.behind ++ (l.inner.write (f.kind.write v) ++ rest))) =
      .ok (.ok (some v, values), rest) := by
  have hcolon : ∀ bs, colon (58 :: bs) = .ok bs := fun _ => rfl
  rw [putMember, if_pos rfl, hcolon]
  simp only [Option.isSome_none, Bool.false_eq_true, if_false, Kind.read_behind,
    Kind.read_write _ v h, Except.map]

theorem Gathers.putMember_rest {f : Field} {fs : List Field} {o : Option f.kind.Carrier}
    {ms : List (String × Json)} {values values' : Gathered fs}
    (h : Gathers l (putMember fs) values ms values') (hname : ∀ m ∈ ms, m.1 ≠ f.name) :
    Gathers l (putMember (f :: fs)) (o, values) ms (o, values') := by
  induction h with
  | nil acc => exact .nil _
  | @cons key value ms acc acc' final h hrest ih =>
    refine .cons (fun rest hends => ?_) (ih fun m hm => hname m (List.mem_cons_of_mem _ hm))
    rw [putMember, if_neg (hname _ List.mem_cons_self), h rest hends]
    rfl

theorem name_of_mem_writeMembers {fs : List Field} {vs : Values fs} {m : String × Json}
    (h : m ∈ writeMembers fs vs) : m.1 ∈ fs.map Field.name := by
  induction fs with
  | nil => cases h
  | cons f fs ih =>
    rcases List.mem_cons.1 h with rfl | h
    · exact List.mem_cons_self
    · exact List.mem_cons_of_mem _ (ih h)

theorem gathers_writeMembers {fs : List Field} (h : (fs.map Field.name).Nodup) (vs : Values fs) :
    Gathers l (putMember fs) (Gathered.empty fs) (writeMembers fs vs) (Gathered.full fs vs) := by
  induction fs with
  | nil => exact .nil _
  | cons f fs ih =>
    obtain ⟨v, vs⟩ := vs
    obtain ⟨hname, hnames⟩ := List.nodup_cons.1 h
    refine .cons (fun rest hends => putMember_first f fs _ v hends) ?_
    refine (ih hnames vs).putMember_rest fun m hm hsame => ?_
    rw [← hsame] at hname
    exact hname (name_of_mem_writeMembers hm)

/-- A record is read back, whatever follows it. -/
theorem readRecord_write (title : String) {fs : List Field} (h : (fs.map Field.name).Nodup)
    (vs : Values fs) (rest : Bytes) :
    readRecord title fs (l.write (writeRecord fs vs) ++ rest) = .ok (vs, rest) := by
  obtain ⟨inside, hwritten, hinside⟩ := (gathers_writeMembers (l := l) h vs).objectOf_write rest
  rw [readRecord, writeRecord, hwritten, show skipSpace (123 :: inside) = 123 :: inside from rfl]
  simp only [hinside, Except.map, Except.bind, complete_full]
  rfl

theorem whole_of_read {α : Type} {reader : Bytes → Outcome α} {bs : Bytes} {a : α}
    (h : reader bs = .ok (a, [])) : whole reader bs = .ok a := by
  rw [whole, h]
  rfl

theorem decodeRecord_write (title : String) {fs : List Field} (h : (fs.map Field.name).Nodup)
    (vs : Values fs) : decodeRecord title fs (l.write (writeRecord fs vs)) = .ok vs := by
  have hread := readRecord_write (l := l) title h vs []
  rw [List.append_nil] at hread
  exact whole_of_read hread

theorem isText_writeRecord (fs : List Field) (vs : Values fs) :
    Bytes.IsText (l.write (writeRecord fs vs)) := by
  have hvalues : ∀ m ∈ writeMembers fs vs, Bytes.IsText (l.inner.write m.2) := by
    intro m hm
    induction fs with
    | nil => cases hm
    | cons f fs ih =>
      rcases List.mem_cons.1 hm with rfl | hm
      · exact f.kind.isText_write vs.1
      · exact ih vs.2 hm
  obtain ⟨s, hs⟩ := l.exists_write_object hvalues
  exact ⟨_, hs⟩

/-! ## Key-value lists of texts -/

theorem gathers_keepMember (l : Layout) (acc ps : List (String × String)) :
    Gathers l (keepMember textValue) acc (ps.map fun (k, v) => (k, .text v)) (acc ++ ps) := by
  induction ps generalizing acc with
  | nil =>
    rw [List.append_nil]
    exact .nil acc
  | cons p ps ih =>
    have happend : acc ++ p :: ps = (acc ++ [p]) ++ ps := by simp
    rw [happend]
    refine .cons (fun rest _ => ?_) (ih _)
    have hcolon : ∀ bs, colon (58 :: bs) = .ok bs := fun _ => rfl
    have hvalue : textValue (l.behind ++ (l.inner.write (.text p.2) ++ rest)) =
        .ok (p.2, rest) := by
      rw [l.inner.write_text]
      exact (Kind.read_behind .text _).trans (textValue_writeText p.2 rest)
    rw [keepMember, hcolon]
    simp only [hvalue]

/-- What is written of a sorted list of texts is read as that list. -/
theorem decodeTexts_write (l : Layout) {ps : List (String × String)} (h : KeyValue.Sorted ps) :
    decodeTexts (l.write (writeTexts ps)) = .ok ps := by
  obtain ⟨inside, hwritten, hinside⟩ := (gathers_keepMember l [] ps).objectOf_write []
  rw [List.append_nil] at hwritten
  have hsorted : ps.foldl (fun acc m => KeyValue.insert m.1 m.2 acc) [] = ps :=
    KeyValue.foldl_insert (l := []) h
  have hread : readTexts (l.write (writeTexts ps)) = .ok (ps, []) := by
    rw [readTexts, writeTexts, hwritten, show skipSpace (123 :: inside) = 123 :: inside from rfl]
    simp only [if_true, hinside, close, objectEnd, show skipSpace [125] = [125] from rfl,
      Except.map, List.nil_append, hsorted]
  exact whole_of_read hread

theorem exists_writeTexts (l : Layout) (ps : List (String × String)) :
    ∃ s, l.write (writeTexts ps) = Bytes.ofText ("\x7b" ++ s) := by
  refine l.exists_write_object fun m hm => ?_
  obtain ⟨p, -, rfl⟩ := List.mem_map.1 hm
  exact Kind.isText_write .text p.2

/-! ## Words -/

theorem readVariant_writeText {α : Type} {known : List (String × α)} {word : String} {a : α}
    (h : known.lookup word = some a) (rest : Bytes) :
    readVariant known (writeText word ++ rest) = .ok (a, rest) := by
  rw [readVariant, skipSpace_writeText]
  simp only [if_true, skipSpace_quote, readText_escaped, h]

theorem decodeVariant_write {α : Type} {known : List (String × α)} {word : String} {a : α}
    (h : known.lookup word = some a) : decodeVariant known (l.write (.text word)) = .ok a := by
  have hread := readVariant_writeText h []
  rw [List.append_nil] at hread
  rw [l.write_text]
  exact whole_of_read hread

/-! ## Types -/

/-- Every value of a type is read back from what is written of it, in either layout. -/
def ReadBack {α : Type} (toJson : α → Json) (decode : Bytes → Except Refusal α) : Prop :=
  ∀ (l : Layout) (a : α), decode (l.write (toJson a)) = .ok a

/-- No two values are written alike. -/
theorem ReadBack.injective {α : Type} {toJson : α → Json} {decode : Bytes → Except Refusal α}
    (h : ReadBack toJson decode) (l : Layout) : Function.Injective fun a => l.write (toJson a) := by
  intro a b hsame
  have hread := (h l a).symm.trans ((congrArg decode hsame).trans (h l b))
  exact Except.ok.inj hread

/-- What is written of a type, compact or indented, tells its values apart and is read back as
them. -/
structure Faithful {α : Type} (toJson : α → Json) (decode : Bytes → Except Refusal α) : Prop where
  compact : ∀ a, decode (toJson a).compact = .ok a
  pretty : ∀ a, decode (toJson a).pretty = .ok a
  injective : Function.Injective fun a => (toJson a).compact
  injective_pretty : Function.Injective fun a => (toJson a).pretty

theorem ReadBack.faithful {α : Type} {toJson : α → Json} {decode : Bytes → Except Refusal α}
    (h : ReadBack toJson decode) : Faithful toJson decode where
  compact := h .compact
  pretty := h (.indented 0)
  injective := h.injective .compact
  injective_pretty := h.injective (.indented 0)

end SignIn.Json
