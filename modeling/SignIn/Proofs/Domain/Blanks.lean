import SignIn.Proofs.Domain.Name
import SignIn.Text.Blank

/-!
# A domain name has no blanks

A blank beyond ASCII may not stand in a name or stands for the space, and neither a space nor a
control is lost when a name is composed, parted into labels and written. So where one was, there is
no name in ASCII.
-/

namespace SignIn.Domain

open SignIn.Text

def isStray (c : Char) : Bool := isBlank c || decide (c.toNat ≤ 32)

theorem isStray_of_le {c : Char} (h : c.toNat ≤ 32) : isStray c := by
  simp [isStray, h]

/-! ## Mapping -/

/-- The blanks beyond ASCII that stand for the space. -/
def wideBlanks : List Nat :=
  [0xA0, 0x2000, 0x2001, 0x2002, 0x2003, 0x2004, 0x2005, 0x2006, 0x2007, 0x2008, 0x2009, 0x200A,
   0x202F, 0x205F, 0x3000]

/-- A blank beyond ASCII stands for the space, or is one of four that may not stand in a name. -/
theorem isBlank_cases {c : Char} (hascii : 128 ≤ c.toNat) (h : isBlank c) :
    c.toNat ∈ wideBlanks ∨ c.toNat ∈ [0x85, 0x1680, 0x2028, 0x2029] := by
  have table : ∀ range ∈ blankRanges, ∀ k < range.2 + 1 - range.1, 128 ≤ range.1 + k →
      range.1 + k ∈ wideBlanks ∨ range.1 + k ∈ [0x85, 0x1680, 0x2028, 0x2029] := by
    decide
  obtain ⟨range, hrange, hmem⟩ := List.any_eq_true.mp h
  obtain ⟨hlow, hhigh⟩ := of_decide_eq_true hmem
  have hone := table range hrange (c.toNat - range.1) (by omega)
  rw [Nat.add_sub_cancel' hlow] at hone
  exact hone hascii

theorem inRanges_of_getElem? {rows : List String} {c : Char} (k l : Nat)
    (h : ((rows[k]?.bind fun row => (tokens row)[l]?).any fun token =>
      decide ((readRange token).1 ≤ c.toNat ∧ c.toNat ≤ (readRange token).2)) = true) :
    inRanges (readRanges rows) c := by
  obtain ⟨token, htoken, hrange⟩ := (Option.any_eq_true _ _).mp h
  obtain ⟨row, hrow, htoken⟩ := Option.bind_eq_some_iff.mp htoken
  have hmem : readRange token ∈ readRanges rows :=
    List.mem_flatMap.mpr ⟨row, List.mem_of_getElem? hrow,
      List.mem_map_of_mem (List.mem_of_getElem? htoken)⟩
  exact List.any_eq_true.mpr ⟨_, hmem, hrange⟩

theorem excluded_of_mem {c : Char} (h : c.toNat ∈ [0x85, 0x1680, 0x2028, 0x2029]) :
    inRanges excluded c := by
  have hfour : ∀ n ∈ [0x85, 0x1680, 0x2028, 0x2029], inRanges excluded (Char.ofNat n) := by
    simp only [List.forall_mem_cons]
    refine ⟨inRanges_of_getElem? 0 0 ?_, inRanges_of_getElem? 13 4 ?_, inRanges_of_getElem? 19 3 ?_,
      inRanges_of_getElem? 19 3 ?_, by simp⟩
    all_goals decide +kernel
  have hone := hfour c.toNat h
  rwa [Char.ofNat_toNat] at hone

/-- The texts of a row, the first of which belongs to a number, have only the space for blanks. -/
def spacesFit (first : Nat) (texts : List (List Char)) : Bool :=
  wideBlanks.all fun n => n < first ||
    (texts[n - first]?).all fun text => text.isEmpty || text == [' ']

theorem spacesFit_ofList {first : Nat} {cs : List Char}
    (h : spacesFit first (splitWhere (· == '|') cs) = true) :
    spacesFit first (splitWhere (· == '|') (String.ofList cs).toList) := by
  rwa [String.toList_ofList]

set_option maxRecDepth 100000 in
theorem spacesFit_of_mem : ∀ row ∈ mappedTexts,
    spacesFit row.1 (splitWhere (· == '|') row.2.toList) := by
  simp only [mappedTexts, List.forall_mem_cons]
  repeat' apply And.intro
  all_goals first | exact spacesFit_ofList (by decide +kernel) | simp

def covers (n : Nat) (row : Nat × String) : Bool :=
  row.1 ≤ n && ((splitWhere (· == '|') row.2.toList)[n - row.1]?).any fun text => !text.isEmpty

theorem tabled?_of_mem {c : Char} (h : c.toNat ∈ wideBlanks) : tabled? c = some [' '] := by
  have hcovered : ∀ n ∈ wideBlanks, ∃ k ∈ [0, 51, 52, 54, 57, 92],
      (mappedTexts[k]?).any (covers n) := by
    decide +kernel
  cases htabled : tabled? c with
  | none =>
    obtain ⟨k, -, hrow⟩ := hcovered c.toNat h
    obtain ⟨row, hrow, hcovers⟩ := (Option.any_eq_true _ _).mp hrow
    rw [covers, Bool.and_eq_true, decide_eq_true_eq] at hcovers
    obtain ⟨text, htext, hne⟩ := (Option.any_eq_true _ _).mp hcovers.2
    have hmem : (row.1, splitWhere (· == '|') row.2.toList) ∈ mappedRows :=
      List.mem_map.mpr ⟨row, List.mem_of_getElem? hrow, rfl⟩
    have hnone := List.findSome?_eq_none_iff.mp htabled _ hmem
    dsimp only at hnone
    rw [if_neg (by omega), htext, Option.filter_some, hne] at hnone
    cases hnone
  | some text =>
    obtain ⟨row, hrow, htext⟩ := List.exists_of_findSome?_eq_some htabled
    obtain ⟨⟨first, texts⟩, hmem, rfl⟩ := List.mem_map.mp hrow
    dsimp only at htext
    split_ifs at htext with hfirst
    obtain ⟨htext, hne⟩ := Option.filter_eq_some_iff.mp htext
    have hfits := List.all_eq_true.mp (spacesFit_of_mem _ hmem) _ h
    simp only [hfirst, htext, decide_false, Bool.false_or, Option.all_some, Bool.or_eq_true,
      beq_iff_eq] at hfits
    rw [hfits.resolve_left (by simpa using hne)]

theorem exists_of_mapChar {c : Char} {cs : List Char} (hc : isStray c)
    (h : mapChar c = some cs) : ∃ d ∈ cs, d.toNat ≤ 32 := by
  by_cases hascii : c.toNat < 128
  · have table : ∀ n < 128, isStray (Char.ofNat n) → n ≤ 32 ∧
        (Char.ofNat n).toLower = Char.ofNat n := by decide
    have hone := table c.toNat hascii
    rw [Char.ofNat_toNat] at hone
    obtain ⟨hle, hlower⟩ := hone hc
    rw [mapChar, if_pos hascii, hlower] at h
    cases h
    exact ⟨c, List.mem_singleton_self c, hle⟩
  · have hblank : isBlank c := by
      rw [isStray, Bool.or_eq_true, decide_eq_true_eq] at hc
      exact hc.resolve_right (by omega)
    rcases isBlank_cases (by omega) hblank with hspace | hexcluded
    · have hnot : inRanges omitted c = false := by
        have hall : ∀ n ∈ wideBlanks, inRanges omitted (Char.ofNat n) = false := by
          decide +kernel
        have hone := hall c.toNat hspace
        rwa [Char.ofNat_toNat] at hone
      have hshift : shifted? c = none := by
        have hall : ∀ n ∈ wideBlanks, shifted? (Char.ofNat n) = none := by
          decide +kernel
        have hone := hall c.toNat hspace
        rwa [Char.ofNat_toNat] at hone
      have hmapped : mapChar c = none ∨ mapChar c = some [' '] := by
        by_cases hexcluded : inRanges excluded c
        · left
          rw [mapChar, if_neg hascii, if_pos hexcluded]
        · right
          rw [mapChar, if_neg hascii, if_neg hexcluded, hnot, hshift, tabled?_of_mem hspace]
          rfl
      rcases hmapped with hmapped | hmapped
      · cases h.symm.trans hmapped
      · cases h.symm.trans hmapped
        exact ⟨' ', List.mem_singleton_self _, by decide⟩
    · rw [mapChar, if_neg hascii, if_pos (excluded_of_mem hexcluded)] at h
      cases h

/-! ## Composition -/

theorem partsOf_of_le {c : Char} (h : c.toNat ≤ 32) : partsOf c = [c] := by
  have hsyllable : syllableParts? c = none := by
    unfold syllableParts?
    dsimp only
    rw [if_neg (by omega)]
  have hcomposite : composites.find? (fun e => e.2.2 == c) = none := by
    rw [List.find?_eq_none]
    intro e he heq
    have hfits := compositeFits_of_mem he
    simp only [compositeFits, Bool.and_eq_true, decide_eq_true_eq] at hfits
    have hwhole : e.2.2 = c := by simpa using heq
    have hlarge := hfits.1.1.1
    rw [hwhole] at hlarge
    omega
  unfold partsOf
  rw [hsyllable, hcomposite]

theorem mem_takenApart {c : Char} {cs : List Char} (h : c.toNat ≤ 32) (hc : c ∈ cs) :
    c ∈ takenApart cs := by
  have hstep : ∀ cs : List Char, c ∈ cs → c ∈ cs.flatMap partsOf := by
    intro cs hc
    exact List.mem_flatMap.mpr ⟨c, hc, by rw [partsOf_of_le h]; exact List.mem_singleton_self c⟩
  exact hstep _ (hstep _ (hstep _ (hstep _ hc)))

theorem lt_of_join? {a b c : Char} (h : join? a b = some c) : 32 < a.toNat ∧ 32 < b.toNat := by
  rcases join?_cases h with ⟨ha, hb, -⟩ | hcomposite
  · omega
  · have hfits := compositeFits_of_mem hcomposite
    simp only [compositeFits, Bool.and_eq_true, decide_eq_true_eq] at hfits
    exact ⟨hfits.1.1.2, hfits.1.2⟩

theorem mem_joinFrom {c d : Char} {between cs : List Char} (hd : d.toNat ≤ 32)
    (h : d = c ∨ d ∈ between ∨ d ∈ cs) : d ∈ joinFrom c between cs := by
  induction cs generalizing c between with
  | nil =>
    simp only [joinFrom, List.mem_cons, List.mem_reverse]
    tauto
  | cons e cs ih =>
    unfold joinFrom
    dsimp only
    split
    · next whole hwhole =>
      obtain ⟨hc, he⟩ : 32 < c.toNat ∧ 32 < e.toNat := by
        split_ifs at hwhole
        exact lt_of_join? hwhole
      apply ih
      rcases h with rfl | h | h
      · omega
      · exact .inr (.inl h)
      · rcases List.mem_cons.mp h with rfl | h
        · omega
        · exact .inr (.inr h)
    · split_ifs
      · simp only [List.cons_append, List.mem_cons, List.mem_append, List.mem_reverse]
        rcases h with h | h | h
        · exact .inl h
        · exact .inr (.inl h)
        · rcases List.mem_cons.mp h with h | h
          · exact .inr (.inr (ih (.inl h)))
          · exact .inr (.inr (ih (.inr (.inr h))))
      · apply ih
        rcases h with h | h | h
        · exact .inl h
        · exact .inr (.inl (List.mem_cons_of_mem e h))
        · rcases List.mem_cons.mp h with rfl | h
          · exact .inr (.inl List.mem_cons_self)
          · exact .inr (.inr h)

theorem mem_joinMarks {d : Char} {cs : List Char} (hd : d.toNat ≤ 32) (h : d ∈ cs) :
    d ∈ joinMarks cs := by
  induction cs with
  | nil => exact h
  | cons c cs ih =>
    unfold joinMarks
    split_ifs
    · apply mem_joinFrom hd
      rcases List.mem_cons.mp h with h | h
      · exact .inl h
      · exact .inr (.inr h)
    · rcases List.mem_cons.mp h with rfl | h
      · exact List.mem_cons_self
      · exact List.mem_cons_of_mem c (ih h)

theorem mem_composed {d : Char} {cs : List Char} (hd : d.toNat ≤ 32) (h : d ∈ cs) :
    d ∈ composed cs := by
  unfold composed
  split_ifs
  · exact h
  · exact mem_joinMarks hd ((orderMarks_perm _).mem_iff.mpr (mem_takenApart hd h))

/-! ## Names -/

/-- Mapping loses no space and no control, nor a blank that stands for a space. -/
theorem exists_of_mapped? {name cs : List Char} (h : mapped? name = some cs) {c : Char}
    (hc : c ∈ name) (hfails : isStray c) : ∃ d ∈ cs, d.toNat ≤ 32 := by
  obtain ⟨texts, htexts, h⟩ := Option.bind_eq_some_iff.mp h
  cases h
  obtain ⟨text, htext, hmapped⟩ := exists_of_mapM_eq_some htexts hc
  obtain ⟨d, hd, hle⟩ := exists_of_mapChar hfails hmapped
  exact ⟨d, mem_composed hle (List.mem_flatten.mpr ⟨text, htext, hd⟩), hle⟩

theorem Punycode.mem_encode {label : List Char} {c : Char} (hc : c ∈ label)
    (hascii : c.toNat < 128) : c ∈ Punycode.encode label := by
  apply encode_induction (P := fun cs => c ∈ cs)
  · apply List.mem_append_left
    rw [List.mem_filter, decide_eq_true_eq]
    exact ⟨hc, hascii⟩
  · exact fun cs q k bias hcs => List.mem_append_left _ hcs

theorem Label.mem_written_of_ofPart? {part : List Char} {l : Label} (h : ofPart? part = some l)
    {c : Char} (hc : c ∈ part) (hascii : c.toNat < 128) : c ∈ l.written := by
  unfold ofPart? at h
  dsimp only at h
  split_ifs at h
  · split at h
    · split_ifs at h
      cases h
      exact hc
    · cases h
  · cases h
    exact hc
  · cases h
    exact List.mem_append_right _ (Punycode.mem_encode hc hascii)

/-- A text with a blank or a control is no domain name. -/
theorem not_isStray_of_toAscii? {name ascii : List Char} (h : toAscii? name = some ascii) {c : Char}
    (hc : c ∈ name) : isStray c = false := by
  by_contra hfails
  rw [Bool.not_eq_false] at hfails
  obtain ⟨mapped, labels, hmapped, hlabels, -, hascii, hforbidden⟩ := exists_mapped_of_toAscii? h
  obtain ⟨d, hd, hle⟩ := exists_of_mapped? hmapped hc hfails
  obtain ⟨part, hpart, hd⟩ : ∃ part ∈ splitWhere (· == '.') mapped, d ∈ part := by
    rw [← intercalate_splitWhere '.' mapped] at hd
    rcases mem_of_mem_intercalate hd with rfl | hd
    · exact absurd hle (by decide)
    · exact hd
  obtain ⟨l, hl, hlabel⟩ := exists_of_mapM_eq_some hlabels hpart
  have hwritten : d ∈ ascii := by
    rw [hascii]
    exact mem_intercalate_of_mem (List.mem_map_of_mem hl)
      (Label.mem_written_of_ofPart? hlabel hd (by omega))
  have hnot := List.any_eq_false.mp hforbidden d hwritten
  simp [forbidden, hle] at hnot

end SignIn.Domain
