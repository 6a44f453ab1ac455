import Mathlib.Tactic.SplitIfs
import SignIn.Domain.Name
import SignIn.Proofs.Domain.Capitals

/-!
# A name in ASCII is its own ASCII form

What a name is written as in ASCII is written in the same way again. Its labels are in small ASCII
characters, because a mapped name has no capitals, Punycode only has small digits, and what is read
as Punycode is ASCII. So mapping leaves the name alone, its dots part the same labels, and each
label is read back.
-/

namespace SignIn.Domain

open SignIn.Text

theorem digit_range {c : Char} (h : c.isDigit) : 48 ≤ c.toNat ∧ c.toNat < 58 := by
  rw [Char.isDigit, Bool.and_eq_true, decide_eq_true_eq, decide_eq_true_eq] at h
  have hlow : 48 ≤ c.toNat := h.1
  have hhigh : c.toNat ≤ 57 := h.2
  omega

structure LabelChar (c : Char) : Prop where
  ascii : c.toNat < 128
  small : c.toLower = c
  ne_dot : c ≠ '.'

namespace Punycode

/-! ## Punycode -/

theorem labelChar_digit {n : Nat} (h : n < 36) : LabelChar (digit n) := by
  have table : ∀ n < 36, (digit n).toNat < 128 ∧ (digit n).toLower = digit n ∧ digit n ≠ '.' := by
    decide
  obtain ⟨hascii, hsmall, hdot⟩ := table n h
  exact ⟨hascii, hsmall, hdot⟩

theorem labelChar_of_mem_number {q k bias : Nat} : ∀ c ∈ number q k bias, LabelChar c := by
  induction q using Nat.strongRecOn generalizing k with
  | ind q ih =>
    have hpos := threshold_pos k bias
    have hle := threshold_le k bias
    intro c hc
    unfold number at hc
    dsimp only at hc
    split_ifs at hc with hq
    · obtain rfl := List.mem_singleton.1 hc
      exact labelChar_digit (by omega)
    · rcases List.mem_cons.1 hc with rfl | hc
      · have hmod := Nat.mod_lt (q - threshold k bias) (show base - threshold k bias > 0 by
          rw [base]
          omega)
        rw [base] at hmod
        apply labelChar_digit
        rw [base]
        omega
      · exact ih _ (Nat.lt_of_le_of_lt (Nat.div_le_self _ _) (by omega)) c hc

/-- What is written of a label begins with its ASCII characters, and only numbers come behind. -/
theorem encode_induction {P : List Char → Prop} {label : List Char}
    (hplain : P (label.filter (·.toNat < 128) ++
      if (label.filter (·.toNat < 128)).isEmpty then [] else ['-']))
    (hnumber : ∀ cs q k bias, P cs → P (cs ++ number q k bias)) : P (encode label) := by
  have hstep : ∀ (m basic : Nat) (w : Walk) (n : Nat), P w.output →
      P (w.step m basic n).output := by
    intro m basic w n hw
    unfold Walk.step
    split_ifs
    · exact hw
    · exact hnumber _ _ _ _ hw
    · exact hw
  have hwalk : ∀ (points : List Nat) (m basic : Nat) (w : Walk), P w.output →
      P (points.foldl (Walk.step m basic) w).output := by
    intro points m basic
    induction points with
    | nil => exact fun w hw => hw
    | cons n points ih => exact fun w hw => ih _ (hstep _ _ _ _ hw)
  unfold encode
  dsimp only
  generalize hstart : (⟨0, 72, _, _⟩ : Walk) = start
  generalize hpair : (start, 128) = pair
  have hout : P pair.1.output := by
    rw [← hpair, ← hstart]
    exact hplain
  clear hpair
  induction distinct (label.map Char.toNat) generalizing pair with
  | nil => exact hout
  | cons m points ih => exact ih _ (hwalk _ _ _ _ hout)

theorem labelChar_of_mem_encode {label : List Char}
    (h : ∀ c ∈ label, c.toNat < 128 → LabelChar c) : ∀ c ∈ encode label, LabelChar c := by
  apply encode_induction (P := fun cs => ∀ c ∈ cs, LabelChar c)
  · intro c hc
    rcases List.mem_append.1 hc with hc | hc
    · rw [List.mem_filter, decide_eq_true_eq] at hc
      exact h c hc.1 hc.2
    · split_ifs at hc
      · cases hc
      · obtain rfl := List.mem_singleton.1 hc
        exact ⟨by decide, by decide, by decide⟩
  · intro cs q k bias hcs c hc
    rcases List.mem_append.1 hc with hc | hc
    · exact hcs c hc
    · exact labelChar_of_mem_number c hc

theorem ascii_of_digitValue? {c : Char} {n : Nat} (h : digitValue? c = some n) : c.toNat < 128 := by
  unfold digitValue? at h
  split_ifs at h with hsmall hcapital hdigit
  · have hle : c.toNat ≤ 122 := hsmall.2
    omega
  · have hle : c.toNat ≤ 90 := hcapital.2
    omega
  · have hle : c.toNat ≤ 57 := hdigit.2
    omega

theorem ascii_of_readNumber {cs rest : List Char} {k weight acc bias n : Nat}
    (h : readNumber cs k weight acc bias = some (n, rest)) (hrest : ∀ c ∈ rest, c.toNat < 128) :
    ∀ c ∈ cs, c.toNat < 128 := by
  induction cs generalizing k weight acc with
  | nil => simp
  | cons c cs ih =>
    unfold readNumber at h
    obtain ⟨d, hd, h⟩ := Option.bind_eq_some_iff.1 h
    dsimp only at h
    split_ifs at h
    · cases h
      exact List.forall_mem_cons.2 ⟨ascii_of_digitValue? hd, hrest⟩
    · exact List.forall_mem_cons.2 ⟨ascii_of_digitValue? hd, ih h⟩

theorem ascii_of_decodeNumbers {cs out text : List Char} {i n bias : Nat}
    (h : decodeNumbers cs i n bias out = some text) : ∀ c ∈ cs, c.toNat < 128 := by
  fun_induction decodeNumbers with
  | case1 => simp
  | case2 => cases h
  | case3 i n bias out c cs delta rest hread _ _ _ _ _ ih =>
    exact ascii_of_readNumber hread (ih h)
  | case4 => cases h

theorem ascii_of_decode? {cs text : List Char} (h : decode? cs = some text) :
    ∀ c ∈ cs, c.toNat < 128 := by
  unfold decode? at h
  dsimp only at h
  split_ifs at h with hplain
  intro c hc
  rw [← List.mem_reverse, ← List.takeWhile_append_dropWhile (p := (· ≠ '-')) (l := cs.reverse),
    List.mem_append] at hc
  rcases hc with hc | hc
  · exact ascii_of_decodeNumbers h c (List.mem_reverse.2 hc)
  · have hdrop : ∀ ds : List Char, (ds.drop ((ds.takeWhile (· ≠ '-')).length + 1)) =
        (ds.dropWhile (· ≠ '-')).tail := by
      intro ds
      rw [← List.drop_drop, ← List.drop_one]
      calc
        _ = ((ds.takeWhile (· ≠ '-') ++ ds.dropWhile (· ≠ '-')).drop
            (ds.takeWhile (· ≠ '-')).length).drop 1 := by rw [List.takeWhile_append_dropWhile]
        _ = _ := by rw [List.drop_left]
    rw [List.length_reverse, hdrop, List.all_eq_true] at hplain
    cases hdash : cs.reverse.dropWhile (· ≠ '-') with
    | nil =>
      rw [hdash] at hc
      cases hc
    | cons d ds =>
      rw [hdash] at hc hplain
      rcases List.mem_cons.1 hc with rfl | hc
      · have hhead := List.head?_dropWhile_not (· ≠ '-') cs.reverse
        rw [hdash] at hhead
        obtain rfl : c = '-' := by simpa using hhead
        decide
      · simpa using hplain c (List.mem_reverse.2 hc)

end Punycode

/-! ## Labels -/

structure Label.WellWritten (l : Label) : Prop where
  chars : ∀ c ∈ l.written, LabelChar c
  again : Label.ofPart? l.written = some l

theorem Label.wellWritten_of_ofPart? {part : List Char} {l : Label}
    (hsmall : ∀ c ∈ part, c.toLower = c) (hdot : '.' ∉ part) (h : ofPart? part = some l) :
    l.WellWritten := by
  have hchar : ∀ c ∈ part, c.toNat < 128 → LabelChar c := fun c hc hascii =>
    ⟨hascii, hsmall c hc, fun heq => hdot (heq ▸ hc)⟩
  have hself := h
  unfold ofPart? at h
  split_ifs at h with hmark hascii
  · split at h
    · next text hdecode =>
      split_ifs at h
      cases h
      refine ⟨fun c hc => hchar c hc ?_, hself⟩
      have hwhole : part = aceMark ++ part.drop 4 := by
        rw [← beq_iff_eq.1 hmark, List.take_append_drop]
      change c ∈ part at hc
      rw [hwhole, List.mem_append] at hc
      rcases hc with hc | hc
      · have hall : ∀ c ∈ aceMark, c.toNat < 128 := forall_of_all (by decide)
        exact hall c hc
      · exact Punycode.ascii_of_decode? hdecode c hc
    · cases h
  · cases h
    exact ⟨fun c hc => hchar c hc (by simpa using List.all_eq_true.1 hascii c hc), hself⟩
  · dsimp only at h
    split_ifs at h with hwide
    cases h
    constructor
    · intro c hc
      rcases List.mem_append.1 hc with hc | hc
      · have hall : ∀ c ∈ aceMark, c.toNat < 128 ∧ c.toLower = c ∧ c ≠ '.' :=
          forall_of_all (by decide)
        obtain ⟨hascii, hlower, hne⟩ := hall c hc
        exact ⟨hascii, hlower, hne⟩
      · exact Punycode.labelChar_of_mem_encode hchar c hc
    · rw [Bool.and_eq_true, beq_iff_eq] at hwide
      have htake : (aceMark ++ Punycode.encode part).take 4 = aceMark :=
        List.take_left' rfl
      have hdrop : (aceMark ++ Punycode.encode part).drop 4 = Punycode.encode part :=
        List.drop_left' rfl
      unfold ofPart?
      rw [htake, hdrop, hwide.2]
      simp [hwide.1]

/-! ## Names -/

/-- The labels of a name that is in small letters: they are well written, and their parts are the
parts of the name. -/
theorem wellWritten_of_labels? {name : List Char} {labels : List Label}
    (hsmall : ∀ c ∈ name, c.toLower = c) (h : labels? name = some labels) :
    labels ≠ [] ∧ ∀ l ∈ labels, l.WellWritten := by
  unfold labels? at h
  have hparts : ∀ part ∈ splitWhere (· == '.') name,
      (∀ c ∈ part, c.toLower = c) ∧ '.' ∉ part := by
    intro part hpart
    constructor
    · exact fun c hc => hsmall c (mem_of_mem_splitWhere hpart c hc).1
    · intro hdot
      simpa using (mem_of_mem_splitWhere hpart '.' hdot).2
  have hread := mapM_eq_some_iff.1 h
  constructor
  · rintro rfl
    exact splitWhere_ne_nil _ _ (List.forall₂_nil_right_iff.1 hread)
  · clear h
    generalize splitWhere (· == '.') name = parts at hparts hread
    induction hread with
    | nil => simp
    | cons hpart _ ih =>
      obtain ⟨⟨hlower, hdot⟩, hrest⟩ := List.forall_mem_cons.1 hparts
      exact List.forall_mem_cons.2 ⟨Label.wellWritten_of_ofPart? hlower hdot hpart, ih hrest⟩

theorem mapped?_of_labelChars {name : List Char}
    (h : ∀ c ∈ name, c.toNat < 128 ∧ c.toLower = c) : mapped? name = some name := by
  have hchars : name.mapM mapChar = some (name.map fun c => [c]) := by
    rw [mapM_eq_some_iff, List.forall₂_map_right_iff, List.forall₂_same]
    intro c hc
    obtain ⟨hascii, hlower⟩ := h c hc
    rw [mapChar, if_pos hascii, hlower]
  have hflat : (name.map fun c => [c]).flatten = name := by
    rw [← List.flatMap_def, List.flatMap_singleton']
  unfold mapped?
  rw [hchars]
  simp only [Option.bind_eq_bind, Option.bind_some, hflat]
  rw [composed, if_pos]
  · rfl
  · simpa using fun c hc => (h c hc).1

theorem exists_mapped_of_toAscii? {name ascii : List Char} (h : toAscii? name = some ascii) :
    ∃ (mapped : List Char) (labels : List Label), mapped? name = some mapped ∧
      labels? mapped = some labels ∧ directionsFit (labels.map (·.text)) ∧
      ascii = ['.'].intercalate (labels.map (·.written)) ∧ ascii.any forbidden = false := by
  unfold toAscii? at h
  obtain ⟨mapped, hmapped, h⟩ := Option.bind_eq_some_iff.1 h
  obtain ⟨labels, hlabels, h⟩ := Option.bind_eq_some_iff.1 h
  dsimp only at h
  split at h
  · cases h
  · next hdirections =>
    split at h
    · cases h
    · next hforbidden =>
      cases h
      refine ⟨mapped, labels, hmapped, hlabels, by simpa using hdirections, ?_,
        by simpa using hforbidden⟩
      simp [Function.comp_def]

theorem exists_labels_of_toAscii? {name ascii : List Char} (h : toAscii? name = some ascii) :
    ∃ labels : List Label, labels ≠ [] ∧ (∀ l ∈ labels, l.WellWritten) ∧
      directionsFit (labels.map (·.text)) ∧
      ascii = ['.'].intercalate (labels.map (·.written)) ∧ ascii.any forbidden = false := by
  obtain ⟨mapped, labels, hmapped, hlabels, hrest⟩ := exists_mapped_of_toAscii? h
  obtain ⟨hne, hwritten⟩ := wellWritten_of_labels? (toLower_of_mapped? hmapped) hlabels
  exact ⟨labels, hne, hwritten, hrest⟩

theorem small_of_toAscii? {name ascii : List Char} (h : toAscii? name = some ascii) :
    ∀ c ∈ ascii, c.toNat < 128 ∧ c.toLower = c := by
  obtain ⟨labels, -, hwritten, -, rfl, -⟩ := exists_labels_of_toAscii? h
  intro c hc
  rcases mem_of_mem_intercalate hc with rfl | ⟨part, hpart, hc⟩
  · decide
  · obtain ⟨l, hl, rfl⟩ := List.mem_map.1 hpart
    have hchar := (hwritten l hl).chars c hc
    exact ⟨hchar.ascii, hchar.small⟩

theorem not_forbidden_of_toAscii? {name ascii : List Char} (h : toAscii? name = some ascii) :
    ∀ c ∈ ascii, forbidden c = false := by
  obtain ⟨labels, -, -, -, -, hforbidden⟩ := exists_labels_of_toAscii? h
  exact fun c hc => by simpa using List.any_eq_false.1 hforbidden c hc

theorem toAscii?_of_labels {name : List Char} {labels : List Label}
    (hsmall : ∀ c ∈ name, c.toNat < 128 ∧ c.toLower = c) (hlabels : labels? name = some labels)
    (hdirections : directionsFit (labels.map (·.text)))
    (hname : name = ['.'].intercalate (labels.map (·.written)))
    (hforbidden : name.any forbidden = false) : toAscii? name = some name := by
  have hjoined : (String.intercalate "." (labels.map fun l => String.ofList l.written)).toList =
      name := by
    rw [hname]
    simp [Function.comp_def]
  unfold toAscii?
  rw [mapped?_of_labelChars hsmall]
  simp only [Option.bind_eq_bind, Option.bind_some, hlabels, hdirections, hjoined, hforbidden]
  rfl

/-- The ASCII form of a name is its own ASCII form. -/
theorem toAscii?_idem {name ascii : List Char} (h : toAscii? name = some ascii) :
    toAscii? ascii = some ascii := by
  obtain ⟨labels, hne, hwritten, hdirections, hascii, hforbidden⟩ := exists_labels_of_toAscii? h
  have hlabels : labels? ascii = some labels := by
    unfold labels?
    rw [hascii, splitWhere_intercalate rfl (by simpa using hne), mapM_eq_some_iff,
      List.forall₂_map_left_iff, List.forall₂_same]
    · exact fun l hl => (hwritten l hl).again
    · intro part hpart c hc
      obtain ⟨l, hl, rfl⟩ := List.mem_map.1 hpart
      simpa using ((hwritten l hl).chars c hc).ne_dot
  exact toAscii?_of_labels (small_of_toAscii? h) hlabels hdirections hascii hforbidden

theorem Label.ofPart?_of_digits {part : List Char} (h : ∀ c ∈ part, c.isDigit) :
    ofPart? part = some ⟨part, part⟩ := by
  have hmark : (part.take 4 == aceMark) = false := by
    rw [beq_eq_false_iff_ne]
    intro heq
    have hx : 'x' ∈ part.take 4 := heq ▸ List.mem_cons_self
    have hdigit := h 'x' (List.mem_of_mem_take hx)
    cases hdigit
  have hascii : isAscii part := List.all_eq_true.2 fun c hc => by
    have hlt := (digit_range (h c hc)).2
    exact decide_eq_true (by omega)
  rw [ofPart?, hmark, if_neg (by simp), if_pos hascii]

/-- A name of digits and dots stands for itself. -/
theorem toAscii?_of_digits {name : List Char} (h : ∀ c ∈ name, c.isDigit ∨ c = '.') :
    toAscii? name = some name := by
  have hparts : ∀ part ∈ splitWhere (· == '.') name, ∀ c ∈ part, c.isDigit := by
    intro part hpart c hc
    obtain ⟨hmem, hdot⟩ := mem_of_mem_splitWhere hpart c hc
    exact (h c hmem).resolve_right (by simpa using hdot)
  have hlabels : labels? name =
      some ((splitWhere (· == '.') name).map fun part => ⟨part, part⟩) := by
    rw [labels?, mapM_eq_some_iff, List.forall₂_map_right_iff, List.forall₂_same]
    exact fun part hpart => Label.ofPart?_of_digits (hparts part hpart)
  have hdigit : ∀ c : Char, c.isDigit →
      c.toLower = c ∧ forbidden c = false ∧ direction c = .commonDigit := by
    intro c hc
    apply forall_below (P := fun c => c.isDigit → c.toLower = c ∧ forbidden c = false ∧
      direction c = .commonDigit) (by decide) (digit_range hc).2 hc
  have hchar : ∀ c ∈ name, (c.toNat < 128 ∧ c.toLower = c) ∧ forbidden c = false := by
    intro c hc
    rcases h c hc with hc | rfl
    · have hlt := (digit_range hc).2
      exact ⟨⟨by omega, (hdigit c hc).1⟩, (hdigit c hc).2.1⟩
    · decide
  apply toAscii?_of_labels (fun c hc => (hchar c hc).1) hlabels
  · unfold directionsFit
    dsimp only
    rw [Bool.or_eq_true, Bool.not_eq_true', List.any_eq_false]
    left
    intro ds hds
    simp only [List.map_map, List.mem_map, Function.comp_apply] at hds
    obtain ⟨part, hpart, rfl⟩ := hds
    have hcommon : ∀ c ∈ part, direction c = .commonDigit := fun c hc =>
      (hdigit c (hparts part hpart c hc)).2.2
    simp +contextual [hcommon]
  · rw [List.map_map]
    exact (intercalate_splitWhere '.' name).symm.trans (by simp [Function.comp_def])
  · simpa using fun c hc => (hchar c hc).2

end SignIn.Domain
