import SignIn.Proofs.Json.Texts

/-!
# Layouts

A value is written compact, or indented at a level. Both layouts put the same tokens in the same
order and differ in the space between them, which a reader skips. So one statement tells for both
how the inside of a container is read.
-/

namespace SignIn.Json

inductive Layout where
  | compact
  | indented (level : Nat)
  deriving DecidableEq

namespace Layout

def inner : Layout → Layout
  | compact => compact
  | indented level => indented (level + 1)

def before : Layout → Bytes
  | compact => []
  | indented level => newline (level + 1)

/-- The space before the end of a container that is not empty. -/
def last : Layout → Bytes
  | compact => []
  | indented level => newline level

/-- The space behind a colon. -/
def behind : Layout → Bytes
  | compact => []
  | indented _ => [32]

def write : Layout → Json → Bytes
  | compact => Json.compact
  | indented level => Json.indented level

def itemsAfter : Layout → List Json → Bytes
  | compact => compactItems
  | indented level => indentedItems level

def membersAfter : Layout → List (String × Json) → Bytes
  | compact => compactMembers
  | indented level => indentedMembers level

def member (l : Layout) (m : String × Json) : Bytes :=
  writeText m.1 ++ 58 :: (l.behind ++ l.inner.write m.2)

variable (l : Layout)

attribute [local simp] Json.compact compactItems compactMembers Json.indented indentedItems
  indentedMembers

@[simp] theorem write_null : l.write .null = writeNull := by
  cases l <;> simp [write]

@[simp] theorem write_bool (b : Bool) : l.write (.bool b) = writeBool b := by
  cases l <;> simp [write]

@[simp] theorem write_number (n : Number) : l.write (.number n) = writeNumber n := by
  cases l <;> simp [write]

@[simp] theorem write_text (s : String) : l.write (.text s) = writeText s := by
  cases l <;> simp [write]

theorem write_list_nil : l.write (.list []) = [91, 93] := by
  cases l <;> simp [write]

theorem write_list_cons (x : Json) (xs : List Json) :
    l.write (.list (x :: xs)) = 91 :: (l.before ++ (l.inner.write x ++ l.itemsAfter xs)) := by
  cases l <;> simp [write, inner, before, itemsAfter]

theorem itemsAfter_nil : l.itemsAfter [] = l.last ++ [93] := by
  cases l <;> simp [last, itemsAfter]

theorem itemsAfter_cons (x : Json) (xs : List Json) :
    l.itemsAfter (x :: xs) = 44 :: (l.before ++ (l.inner.write x ++ l.itemsAfter xs)) := by
  cases l <;> simp [write, inner, before, itemsAfter]

theorem write_object_nil : l.write (.object []) = [123, 125] := by
  cases l <;> simp [write]

theorem write_object_cons (m : String × Json) (ms : List (String × Json)) :
    l.write (.object (m :: ms)) = 123 :: (l.before ++ (l.member m ++ l.membersAfter ms)) := by
  cases l <;> simp [write, inner, before, behind, member, membersAfter]

theorem membersAfter_nil : l.membersAfter [] = l.last ++ [125] := by
  cases l <;> simp [last, membersAfter]

theorem membersAfter_cons (m : String × Json) (ms : List (String × Json)) :
    l.membersAfter (m :: ms) = 44 :: (l.before ++ (l.member m ++ l.membersAfter ms)) := by
  cases l <;> simp [write, inner, before, behind, member, membersAfter]

/-! ## Space -/

theorem skipSpace_newline (level : Nat) (bs : Bytes) :
    skipSpace (newline level ++ bs) = skipSpace bs := by
  have spaces : ∀ n, skipSpace (List.replicate n 32 ++ bs) = skipSpace bs := by
    intro n
    induction n with
    | zero => rfl
    | succ n ih => exact ih
  exact spaces (2 * level)

@[simp] theorem skipSpace_before (bs : Bytes) : skipSpace (l.before ++ bs) = skipSpace bs := by
  cases l with
  | compact => rfl
  | indented level => exact skipSpace_newline (level + 1) bs

@[simp] theorem skipSpace_last (bs : Bytes) : skipSpace (l.last ++ bs) = skipSpace bs := by
  cases l with
  | compact => rfl
  | indented level => exact skipSpace_newline level bs

@[simp] theorem skipSpace_behind (bs : Bytes) : skipSpace (l.behind ++ bs) = skipSpace bs := by
  cases l <;> rfl

end Layout

/-- A value ends before these bytes: a comma, the end of a container or of its last line. -/
def EndsValue (rest : Bytes) : Prop :=
  ∃ b bs, rest = b :: bs ∧ (b = 44 ∨ b = 10 ∨ b = 93 ∨ b = 125)

theorem Layout.endsValue_last (l : Layout) {b : UInt8} (h : b = 93 ∨ b = 125) (rest : Bytes) :
    EndsValue (l.last ++ b :: rest) := by
  cases l with
  | compact => exact ⟨b, rest, rfl, .inr (.inr h)⟩
  | indented level => exact ⟨10, _, rfl, .inr (.inl rfl)⟩

theorem Layout.endsValue_membersAfter (l : Layout) (ms : List (String × Json)) (rest : Bytes) :
    EndsValue (l.membersAfter ms ++ rest) := by
  cases ms with
  | nil =>
    rw [membersAfter_nil, List.append_assoc]
    exact l.endsValue_last (.inr rfl) rest
  | cons m ms =>
    rw [membersAfter_cons]
    exact ⟨44, _, rfl, .inl rfl⟩

variable (l : Layout)

/-! ## Written values are texts -/

theorem isText_newline (level : Nat) : Bytes.IsText (newline level) := by
  refine Bytes.isText_of_ascii fun b hb => ?_
  rcases List.mem_cons.1 hb with rfl | hb
  · decide
  · rw [List.eq_of_mem_replicate hb]
    decide

namespace Layout

theorem isText_before : Bytes.IsText l.before := by
  cases l with
  | compact => exact Bytes.isText_ofText ""
  | indented level => exact isText_newline (level + 1)

theorem isText_last : Bytes.IsText l.last := by
  cases l with
  | compact => exact Bytes.isText_ofText ""
  | indented level => exact isText_newline level

theorem isText_behind : Bytes.IsText l.behind := by
  cases l with
  | compact => exact Bytes.isText_ofText ""
  | indented level => exact Bytes.isText_of_ascii (by simp [behind])

theorem isText_itemsAfter {xs : List Json} (h : ∀ x ∈ xs, Bytes.IsText (l.inner.write x)) :
    Bytes.IsText (l.itemsAfter xs) := by
  induction xs with
  | nil =>
    rw [itemsAfter_nil]
    exact l.isText_last.append (Bytes.isText_of_ascii (by simp))
  | cons x xs ih =>
    rw [itemsAfter_cons]
    have hitem := h x List.mem_cons_self
    have hitems := ih fun y hy => h y (List.mem_cons_of_mem _ hy)
    exact (l.isText_before.append (hitem.append hitems)).cons (by decide)

theorem isText_list {xs : List Json} (h : ∀ x ∈ xs, Bytes.IsText (l.inner.write x)) :
    Bytes.IsText (l.write (.list xs)) := by
  cases xs with
  | nil =>
    rw [write_list_nil]
    exact Bytes.isText_of_ascii (by simp)
  | cons x xs =>
    rw [write_list_cons]
    have hitem := h x List.mem_cons_self
    have hitems := l.isText_itemsAfter fun y hy => h y (List.mem_cons_of_mem _ hy)
    exact (l.isText_before.append (hitem.append hitems)).cons (by decide)

theorem isText_member {m : String × Json} (h : Bytes.IsText (l.inner.write m.2)) :
    Bytes.IsText (l.member m) :=
  (isText_writeText m.1).append ((l.isText_behind.append h).cons (by decide))

theorem isText_membersAfter {ms : List (String × Json)}
    (h : ∀ m ∈ ms, Bytes.IsText (l.inner.write m.2)) : Bytes.IsText (l.membersAfter ms) := by
  induction ms with
  | nil =>
    rw [membersAfter_nil]
    exact l.isText_last.append (Bytes.isText_of_ascii (by simp))
  | cons m ms ih =>
    rw [membersAfter_cons]
    have hmember := l.isText_member (h m List.mem_cons_self)
    have hmembers := ih fun y hy => h y (List.mem_cons_of_mem _ hy)
    exact (l.isText_before.append (hmember.append hmembers)).cons (by decide)

theorem exists_write_object {ms : List (String × Json)}
    (h : ∀ m ∈ ms, Bytes.IsText (l.inner.write m.2)) :
    ∃ s, l.write (.object ms) = Bytes.ofText ("\x7b" ++ s) := by
  have hbrace : Bytes.ofText "\x7b" = [123] := by decide
  have hinside : ∃ bs, l.write (.object ms) = 123 :: bs ∧ Bytes.IsText bs := by
    cases ms with
    | nil => exact ⟨[125], l.write_object_nil, Bytes.isText_of_ascii (by simp)⟩
    | cons m ms =>
      have hmember := l.isText_member (h m List.mem_cons_self)
      have hmembers := l.isText_membersAfter fun y hy => h y (List.mem_cons_of_mem _ hy)
      exact ⟨_, l.write_object_cons m ms, l.isText_before.append (hmember.append hmembers)⟩
  obtain ⟨bs, hwritten, s, rfl⟩ := hinside
  exact ⟨s, by rw [hwritten, Bytes.ofText_append, hbrace]; rfl⟩

end Layout

/-! ## Lists of texts -/

theorem length_itemsAfter (xs : List Json) : xs.length < (l.itemsAfter xs).length := by
  induction xs with
  | nil => simp [l.itemsAfter_nil]
  | cons x xs ih =>
    rw [l.itemsAfter_cons]
    simp only [List.length_cons, List.length_append]
    omega

/-- An item is read, and reading goes on behind it. -/
theorem items_item {first : Bool} {bs rest : Bytes} {s : String} (fuel : Nat)
    (h : nextItem first bs = .ok (true, writeText s ++ rest)) :
    items textValue (fuel + 1) first bs =
      (items textValue fuel false rest).map fun (ss, rest) => (s :: ss, rest) := by
  rw [items, h]
  simp only [textValue_writeText]
  cases items textValue fuel false rest <;> rfl

theorem nextItem_first (s : String) (rest : Bytes) :
    nextItem true (l.before ++ (writeText s ++ rest)) = .ok (true, writeText s ++ rest) := by
  rw [nextItem, l.skipSpace_before]
  rfl

theorem nextItem_next (s : String) (rest : Bytes) :
    nextItem false (44 :: (l.before ++ (writeText s ++ rest))) =
      .ok (true, writeText s ++ rest) := by
  rw [nextItem, show skipSpace (44 :: (l.before ++ (writeText s ++ rest))) =
    44 :: (l.before ++ (writeText s ++ rest)) by rfl]
  simp only [show (44 : UInt8) ≠ 93 by decide, if_false, if_true, Bool.false_eq_true,
    l.skipSpace_before]
  rfl

theorem items_itemsAfter {fuel : Nat} (ss : List String) (rest : Bytes) (h : ss.length < fuel) :
    items textValue fuel false (l.itemsAfter (ss.map .text) ++ rest) = .ok (ss, 93 :: rest) := by
  induction ss generalizing fuel with
  | nil =>
    obtain ⟨fuel, rfl⟩ : ∃ n, fuel = n + 1 := ⟨fuel - 1, by simp at h; omega⟩
    rw [List.map_nil, l.itemsAfter_nil, List.append_assoc, items, nextItem, l.skipSpace_last]
    rfl
  | cons s ss ih =>
    obtain ⟨fuel, rfl⟩ : ∃ n, fuel = n + 1 := ⟨fuel - 1, by simp at h; omega⟩
    rw [List.map_cons, l.itemsAfter_cons, l.inner.write_text, List.cons_append, List.append_assoc,
      List.append_assoc, items_item fuel (nextItem_next l s _), ih (by simpa using h)]
    rfl

theorem textsValue_write (ss : List String) (rest : Bytes) :
    textsValue (l.write (.list (ss.map .text)) ++ rest) = .ok (ss, rest) := by
  have hlist : ∃ inside, l.write (.list (ss.map .text)) ++ rest = 91 :: inside ∧
      items textValue (inside.length + 1) true inside = .ok (ss, 93 :: rest) := by
    cases ss with
    | nil => exact ⟨93 :: rest, by rw [List.map_nil, l.write_list_nil]; rfl, rfl⟩
    | cons s ss =>
      refine ⟨l.before ++ (writeText s ++ (l.itemsAfter (ss.map .text) ++ rest)), ?_, ?_⟩
      · rw [List.map_cons, l.write_list_cons, l.inner.write_text]
        simp
      · rw [items_item _ (nextItem_first l s _), items_itemsAfter]
        · rfl
        · have := length_itemsAfter l (ss.map .text)
          simp only [List.length_append, List.length_map] at this ⊢
          omega
  obtain ⟨inside, hwritten, hitems⟩ := hlist
  rw [textsValue, hwritten, show skipSpace (91 :: inside) = 91 :: inside by rfl]
  simp only [if_true, listOf, hitems, Except.map]
  rfl

/-! ## Members of an object -/

/-- Written members are worked one after the other into what is gathered. -/
inductive Gathers {β : Type} (member : String → β → Bytes → Contents β) :
    β → List (String × Json) → β → Prop
  | nil (acc : β) : Gathers member acc [] acc
  | cons {key : String} {value : Json} {ms : List (String × Json)} {acc acc' final : β}
      (h : ∀ rest, EndsValue rest →
        member key acc (58 :: (l.behind ++ (l.inner.write value ++ rest))) = .ok (.ok acc', rest))
      (hrest : Gathers member acc' ms final) : Gathers member acc ((key, value) :: ms) final

variable {l} {β : Type} {member : String → β → Bytes → Contents β} {acc acc' start final : β}

theorem members_step {first : Bool} {bs rest : Bytes} {key : String} {value : Json} (fuel : Nat)
    (hrest : EndsValue rest)
    (h : nextKey first bs = .ok (true, (l.member (key, value) ++ rest).tail))
    (hmember : ∀ rest, EndsValue rest →
      member key acc (58 :: (l.behind ++ (l.inner.write value ++ rest))) = .ok (.ok acc', rest)) :
    members member (fuel + 1) first acc bs = members member fuel false acc' rest := by
  have hinside : (l.member (key, value) ++ rest).tail =
      (Bytes.ofText key).flatMap escapeByte ++
        34 :: (58 :: (l.behind ++ (l.inner.write value ++ rest))) := by
    simp [Layout.member, writeText]
  rw [members, h, hinside]
  simp only [readText_escaped, hmember rest hrest]

variable (l)

theorem nextKey_before (m : String × Json) (rest : Bytes) :
    nextKey true (l.before ++ (l.member m ++ rest)) = .ok (true, (l.member m ++ rest).tail) := by
  rw [nextKey, l.skipSpace_before]
  rfl

theorem nextKey_comma (m : String × Json) (rest : Bytes) :
    nextKey false (44 :: (l.before ++ (l.member m ++ rest))) =
      .ok (true, (l.member m ++ rest).tail) := by
  rw [nextKey, show skipSpace (44 :: (l.before ++ (l.member m ++ rest))) =
    44 :: (l.before ++ (l.member m ++ rest)) by rfl]
  simp only [show (44 : UInt8) ≠ 125 by decide, if_false, if_true, Bool.false_eq_true,
    l.skipSpace_before]
  rfl

variable {l}

theorem Gathers.members_membersAfter {ms : List (String × Json)}
    (h : Gathers l member acc ms final) (rest : Bytes) {fuel : Nat} (hfuel : ms.length < fuel) :
    members member fuel false acc (l.membersAfter ms ++ rest) = .ok (.ok final, 125 :: rest) := by
  induction h generalizing fuel with
  | nil acc =>
    obtain ⟨fuel, rfl⟩ : ∃ n, fuel = n + 1 := ⟨fuel - 1, by simp at hfuel; omega⟩
    rw [l.membersAfter_nil, List.append_assoc, members, nextKey, l.skipSpace_last]
    rfl
  | @cons key value ms acc acc' final h hrest ih =>
    obtain ⟨fuel, rfl⟩ : ∃ n, fuel = n + 1 := ⟨fuel - 1, by simp at hfuel; omega⟩
    rw [l.membersAfter_cons, List.cons_append, List.append_assoc, List.append_assoc,
      members_step fuel (l.endsValue_membersAfter ms rest) (nextKey_comma l _ _) h,
      ih (by simpa using hfuel)]

theorem length_membersAfter (ms : List (String × Json)) :
    ms.length < (l.membersAfter ms).length := by
  induction ms with
  | nil => simp [l.membersAfter_nil]
  | cons m ms ih =>
    rw [l.membersAfter_cons]
    simp only [List.length_cons, List.length_append]
    omega

/-- What is written of an object begins with a brace, and its inside is read as far as the
closing one. -/
theorem Gathers.objectOf_write {ms : List (String × Json)} (h : Gathers l member start ms final)
    (rest : Bytes) :
    ∃ inside, l.write (.object ms) ++ rest = 123 :: inside ∧
      objectOf member start inside = .ok (.ok final, 125 :: rest) := by
  cases h with
  | nil => exact ⟨125 :: rest, by rw [l.write_object_nil]; rfl, rfl⟩
  | @cons key value ms _ acc' _ h hrest =>
    refine ⟨l.before ++ (l.member (key, value) ++ (l.membersAfter ms ++ rest)), ?_, ?_⟩
    · rw [l.write_object_cons]
      simp
    · rw [objectOf, members_step _ (l.endsValue_membersAfter ms rest) (nextKey_before l _ _) h,
        hrest.members_membersAfter]
      have := length_membersAfter (l := l) ms
      simp only [List.length_append]
      omega

end SignIn.Json
