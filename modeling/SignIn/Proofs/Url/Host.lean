import SignIn.Proofs.Domain.Name
import SignIn.Proofs.Url.Address
import SignIn.Proofs.Url.Encoding
import SignIn.Url.Host

/-!
# Hosts are read back as they were written

Whatever a host was read from, what it is written as is read as the same host. It is written with
characters that neither end an authority nor part it, colons between brackets apart.
-/

namespace SignIn.Host

open SignIn.Text SignIn.Url

/-- Reads a host by the rules of a special scheme or by those of the others. -/
def read (special : Bool) (cs : List Char) : Except UrlFault (Option Host) :=
  if special then (Host.special cs).map some else Host.plain cs

/-- Characters that part a URL at its authority or in it. -/
def partsAuthority (c : Char) : Bool :=
  c.toNat ≤ 32 || 127 ≤ c.toNat || ['/', '\\', '?', '#', '@'].contains c

/-- A host that is read back from what it is written as. -/
structure Settled (special : Bool) (h : Host) : Prop where
  again : read special h.text.toList = .ok (some h)
  chars : ∀ c ∈ h.text.toList, partsAuthority c = false
  ne_nil : h.text.toList ≠ []
  colons : (∃ inside, h.text.toList = '[' :: (inside ++ [']']) ∧ ∀ c ∈ inside, c ≠ ']') ∨
    ∀ c ∈ h.text.toList, c ∉ [':', '[', ']', '|']

theorem read_special_eq_ok_iff {cs : List Char} {host : Option Host} :
    read true cs = .ok host ↔ ∃ h, Host.special cs = .ok h ∧ some h = host := by
  rw [read, if_pos rfl]
  cases Host.special cs with
  | error fault => simp [Except.map]
  | ok h => simp [Except.map]

/-! ## Addresses -/

theorem bracketed_text {ps : List Nat} (hlen : ps.length = 8) (h : PiecesFit ps) :
    bracketed (Host.v6 ps).text.toList = .ok (.v6 ps) := by
  have htext : (Host.v6 ps).text.toList = '[' :: ((v6Text ps).toList ++ [']']) := by
    simp [text]
  unfold bracketed
  rw [htext, List.drop_one, List.tail_cons, ← List.cons_append, List.getLast?_concat]
  simp only [List.dropLast_concat, v6Pieces?_v6Text hlen h]

theorem settled_v6 {special : Bool} {ps : List Nat} (hlen : ps.length = 8) (h : PiecesFit ps) :
    (Host.v6 ps).Settled special := by
  have htext : (Host.v6 ps).text.toList = '[' :: ((v6Text ps).toList ++ [']']) := by
    simp [text]
  have hhead : (Host.v6 ps).text.toList.head? = some '[' := by rw [htext]; rfl
  have hchars : ∀ c ∈ ':' :: hexDigitChars, partsAuthority c = false ∧ c ≠ ']' :=
    forall_of_all (by decide)
  constructor
  · unfold read
    split
    · rw [Host.special, if_pos hhead, bracketed_text hlen h]
      rfl
    · rw [Host.plain, if_pos hhead, bracketed_text hlen h]
      rfl
  · intro c hc
    rw [htext, List.mem_cons, List.mem_append, List.mem_singleton] at hc
    rcases hc with rfl | hc | rfl
    · decide
    · exact (hchars c (mem_v6Text c hc)).1
    · decide
  · simp [htext]
  · exact .inl ⟨_, htext, fun c hc => (hchars c (mem_v6Text c hc)).2⟩

theorem settled_of_bracketed {special : Bool} {cs : List Char} {h : Host}
    (hread : bracketed cs = .ok h) : h.Settled special := by
  unfold bracketed at hread
  split at hread
  · split at hread
    · next ps hps =>
      cases hread
      obtain ⟨hlen, hfit⟩ := eight_of_v6Pieces? hps
      exact settled_v6 hlen hfit
    · cases hread
  · cases hread

theorem special_of_toAscii? {ascii : List Char} (hself : Domain.toAscii? ascii = some ascii)
    (hne : ascii ≠ []) (hforbidden : ∀ c ∈ ascii, Domain.forbidden c = false) :
    Host.special ascii =
      if endsInNumber ascii then
        match v4Address? ascii with
        | some a => .ok (.v4 a)
        | none => .error .badV4Address
      else .ok (.name (String.ofList ascii)) := by
  have hpercent : ∀ c ∈ ascii, c ≠ '%' := by
    rintro c hc rfl
    cases hforbidden _ hc
  have hbracket : ascii.head? ≠ some '[' := by
    intro hhead
    cases hforbidden _ (List.mem_of_mem_head? hhead)
  unfold Host.special
  rw [if_neg hbracket, percentDecode_of_forall_ne hpercent, Bytes.text?_ofText, Option.bind_some,
    String.toList_ofList, hself]
  cases ascii with
  | nil => exact absurd rfl hne
  | cons c cs => rfl

theorem settled_v4 (a : UInt32) : (Host.v4 a).Settled true := by
  have hdigit : ∀ c ∈ (v4Text a).toList, Domain.forbidden c = false ∧ partsAuthority c = false ∧
      c ∉ [':', '[', ']', '|'] := by
    intro c hc
    rcases mem_v4Text c hc with hc | rfl
    · exact forall_below (P := fun c => c.isDigit → Domain.forbidden c = false ∧
        partsAuthority c = false ∧ c ∉ [':', '[', ']', '|']) (by decide)
        (Domain.digit_range hc).2 hc
    · decide
  constructor
  · have hspecial := special_of_toAscii? (Domain.toAscii?_of_digits mem_v4Text) (v4Text_ne_nil a)
      fun c hc => (hdigit c hc).1
    rw [if_pos (endsInNumber_v4Text a), v4Address?_v4Text] at hspecial
    rw [read, if_pos rfl, text, hspecial]
    rfl
  · exact fun c hc => (hdigit c hc).2.1
  · exact v4Text_ne_nil a
  · exact .inr fun c hc => (hdigit c hc).2.2

/-! ## Names -/

theorem partsAuthority_of_not_forbidden {c : Char} (hascii : c.toNat < 128)
    (h : Domain.forbidden c = false) :
    partsAuthority c = false ∧ c ∉ [':', '[', ']', '|'] :=
  forall_below (P := fun c => Domain.forbidden c = false → partsAuthority c = false ∧
    c ∉ [':', '[', ']', '|']) (by decide) hascii h

theorem partsAuthority_of_not_delimiter {c : Char} (hascii : c.toNat < 128)
    (hcontrol : controlSet c = false) (h : delimiter c = false) :
    partsAuthority c = false ∧ c ∉ [':', '[', ']', '|'] :=
  forall_below (P := fun c => controlSet c = false → delimiter c = false →
    partsAuthority c = false ∧ c ∉ [':', '[', ']', '|']) (by decide) hascii hcontrol h

/-- Every host of a special scheme is read back. -/
theorem settled_of_special {cs : List Char} {h : Host} (hread : Host.special cs = .ok h) :
    h.Settled true := by
  unfold Host.special at hread
  split at hread
  · exact settled_of_bracketed hread
  · split at hread
    · cases hread
    · cases hread
    · next ascii hne hascii =>
      obtain ⟨name, -, hname⟩ := Option.bind_eq_some_iff.1 hascii
      split at hread
      · split at hread
        · cases hread
          exact settled_v4 _
        · cases hread
      · next hnumber =>
        cases hread
        have hself := Domain.toAscii?_idem hname
        have hforbidden := Domain.not_forbidden_of_toAscii? hname
        have hchar : ∀ c ∈ ascii, partsAuthority c = false ∧ c ∉ [':', '[', ']', '|'] :=
          fun c hc => partsAuthority_of_not_forbidden (Domain.small_of_toAscii? hname c hc).1
            (hforbidden c hc)
        have hnil : ascii ≠ [] := by
          rintro rfl
          exact hne rfl
        constructor
        · rw [read, if_pos rfl, text, String.toList_ofList,
            special_of_toAscii? hself hnil hforbidden, if_neg hnumber]
          rfl
        · rw [text, String.toList_ofList]
          exact fun c hc => (hchar c hc).1
        · rwa [text, String.toList_ofList]
        · rw [text, String.toList_ofList]
          exact .inr fun c hc => (hchar c hc).2

/-- Every host of another scheme is read back. -/
theorem settled_of_plain {cs : List Char} {h : Host} (hread : Host.plain cs = .ok (some h)) :
    h.Settled false := by
  unfold Host.plain at hread
  split at hread
  · obtain ⟨host, hhost, heq⟩ : ∃ host, bracketed cs = .ok host ∧ some host = some h := by
      cases hb : bracketed cs with
      | error fault =>
        rw [hb] at hread
        cases hread
      | ok host =>
        rw [hb] at hread
        cases hread
        exact ⟨_, rfl, rfl⟩
    cases heq
    exact settled_of_bracketed hhost
  · next hbracket =>
    split at hread
    · cases hread
    · next hdelimiter =>
      split at hread
      · cases hread
      · next hempty =>
        cases hread
        have hclean : Clean controlSet (percentEncode controlSet cs) :=
          clean_percentEncode (forall_of_all (by decide)) cs
        have hdelimiters : ∀ c ∈ percentEncode controlSet cs, delimiter c = false := by
          refine forall_percentEncode (P := fun c => delimiter c = false)
            (forall_of_all (by decide)) ?_
          intro c hc _ _
          simpa using List.any_eq_false.1 (by simpa using hdelimiter) c hc
        have hchar : ∀ c ∈ percentEncode controlSet cs,
            partsAuthority c = false ∧ c ∉ [':', '[', ']', '|'] := fun c hc =>
          partsAuthority_of_not_delimiter (hclean c hc).1 (hclean c hc).2 (hdelimiters c hc)
        have hnil : percentEncode controlSet cs ≠ [] := by
          apply percentEncode_ne_nil
          simpa using hempty
        constructor
        · have hhead : (percentEncode controlSet cs).head? ≠ some '[' := by
            intro hhead
            cases hdelimiters _ (List.mem_of_mem_head? hhead)
          have hany : (percentEncode controlSet cs).any delimiter = false := by
            simpa using hdelimiters
          rw [read, if_neg (by simp), text, String.toList_ofList, Host.plain, if_neg hhead, hany,
            if_neg (by simp), if_neg (by simpa using hnil), percentEncode_of_clean hclean]
        · rw [text, String.toList_ofList]
          exact fun c hc => (hchar c hc).1
        · rwa [text, String.toList_ofList]
        · rw [text, String.toList_ofList]
          exact .inr fun c hc => (hchar c hc).2

end SignIn.Host
