import Mathlib.Tactic.SplitIfs
import SignIn.Domain.Mapping
import SignIn.Proofs.Text.Split

/-!
# A mapped name has no capitals

Mapping makes capitals small, but composing takes characters apart, and a capital with a mark comes
apart into a capital. So the runs below hold the ASCII capitals with all that is composed of them.
The tables are gone through once: nothing is mapped to one of these letters, none of them is mapped
to itself, and what comes apart into one of them is one of them.
-/

namespace SignIn.Domain

open SignIn.Text

/-- Runs of the capitals of ASCII and of what is composed of them: first, last, and step. -/
def capitalRuns : List (Nat × Nat × Nat) :=
  [(0x41, 0x5A, 1), (0xC0, 0xD6, 1), (0xD8, 0xDE, 1), (0x100, 0x130, 2), (0x134, 0x136, 2),
   (0x139, 0x147, 2), (0x14A, 0x178, 2), (0x179, 0x17D, 2), (0x1A0, 0x1A4, 2), (0x1AF, 0x1AF, 1),
   (0x1CD, 0x1DB, 2), (0x1DE, 0x1EE, 2), (0x1F4, 0x1F4, 1), (0x1F8, 0x21E, 2), (0x222, 0x232, 2),
   (0x1E00, 0x1E94, 2), (0x1EA0, 0x1EFE, 2)]

/-- Ranges without a capital: their first numbers, and the first numbers behind them. -/
def smallGaps : List (Nat × Nat) := [(0, 0x41), (0x5B, 0xC0), (0x233, 0x1E00), (0x1EFF, 0x110000)]

def inRun (c : Char) (run : Nat × Nat × Nat) : Bool :=
  decide (run.1 ≤ c.toNat ∧ c.toNat ≤ run.2.1 ∧ (c.toNat - run.1) % run.2.2 = 0)

/-- Whether a character comes apart into a capital of ASCII. -/
def isCapital (c : Char) : Bool := capitalRuns.any (inRun c)

def AllSmall (cs : List Char) : Prop := ∀ c ∈ cs, isCapital c = false

theorem allSmall_of_all {cs : List Char} (h : (cs.all fun c => !isCapital c) = true) :
    AllSmall cs := by
  intro c hc
  simpa using List.all_eq_true.1 h c hc

theorem isCapital_of_gap {c : Char} {gap : Nat × Nat} (hgap : gap ∈ smallGaps)
    (hlow : gap.1 ≤ c.toNat) (hhigh : c.toNat < gap.2) : isCapital c = false := by
  have hruns : ∀ gap ∈ smallGaps, ∀ run ∈ capitalRuns, run.2.1 < gap.1 ∨ gap.2 ≤ run.1 := by decide
  rw [isCapital, List.any_eq_false]
  intro run hrun hc
  obtain ⟨hlo, hhi, -⟩ := of_decide_eq_true hc
  have hends := hruns gap hgap run hrun
  omega

/-! ## The tables -/

theorem toNat_ofNat_cases (n : Nat) : (Char.ofNat n).toNat = n ∨ (Char.ofNat n).toNat = 0 := by
  rcases Decidable.em n.isValidChar with hvalid | hvalid
  · rw [Char.ofNat, dif_pos hvalid]
    exact .inl rfl
  · rw [Char.ofNat, dif_neg hvalid]
    exact .inr rfl

theorem isCapital_ofNat_of_gap {n : Nat} {gap : Nat × Nat} (hgap : gap ∈ smallGaps)
    (hlow : gap.1 ≤ n) (hhigh : n < gap.2) : isCapital (Char.ofNat n) = false := by
  rcases toNat_ofNat_cases n with heq | hzero
  · apply isCapital_of_gap hgap
    · rwa [heq]
    · rwa [heq]
  · apply isCapital_of_gap (show (0, 0x41) ∈ smallGaps by decide)
    · exact Nat.zero_le _
    · rw [hzero]
      decide

/-- A run that shifts to no capital: all it shifts to lies in a gap, or is none one by one. -/
def shiftsToSmall (run : Nat × Nat × Nat × Int) : Bool :=
  (smallGaps.any fun gap =>
    decide (gap.1 ≤ run.1 + run.2.2.2) && decide (run.2.1 + run.2.2.2 < gap.2)) ||
  (List.range (run.2.1 + 1 - run.1)).all fun k =>
    k % run.2.2.1 != 0 || !isCapital (Char.ofNat ((run.1 + k : Nat) + run.2.2.2).toNat)

theorem isCapital_of_shifted? {c d : Char} (h : shifted? c = some d) : isCapital d = false := by
  have table : shiftedRuns.all shiftsToSmall := by decide +kernel
  obtain ⟨⟨lo, hi, step, distance⟩, hrun, rfl⟩ := Option.map_eq_some_iff.1 h
  have hc := List.find?_some hrun
  have hsmall := List.all_eq_true.1 table _ (List.mem_of_find?_eq_some hrun)
  simp only [decide_eq_true_eq] at hc
  simp only [shiftsToSmall, Bool.or_eq_true, List.any_eq_true, List.all_eq_true, List.mem_range,
    Bool.and_eq_true, decide_eq_true_eq, bne_iff_ne, Bool.not_eq_true'] at hsmall
  rcases hsmall with ⟨gap, hgap, hlow, hhigh⟩ | hall
  · exact isCapital_ofNat_of_gap hgap (by omega) (by omega)
  · have hone := hall (c.toNat - lo) (by omega)
    rw [show lo + (c.toNat - lo) = c.toNat by omega] at hone
    exact hone.resolve_left fun hne => hne hc.2.2

theorem allSmall_ofList {cs : List Char} (h : (cs.all fun c => !isCapital c) = true) :
    AllSmall (String.ofList cs).toList := by
  rw [String.toList_ofList]
  exact allSmall_of_all h

set_option maxRecDepth 100000 in
theorem allSmall_of_mem_mappedTexts : ∀ row ∈ mappedTexts, AllSmall row.2.toList := by
  simp only [mappedTexts, List.forall_mem_cons]
  repeat' apply And.intro
  all_goals first | exact allSmall_ofList (by decide +kernel) | simp

theorem allSmall_of_tabled? {c : Char} {cs : List Char} (h : tabled? c = some cs) :
    AllSmall cs := by
  obtain ⟨row, hrow, h⟩ := List.exists_of_findSome?_eq_some h
  obtain ⟨⟨first, text⟩, hmem, rfl⟩ := List.mem_map.1 hrow
  dsimp only at h
  split_ifs at h
  have hpart : cs ∈ splitWhere (· == '|') text.toList :=
    List.mem_of_getElem? (Option.filter_eq_some_iff.1 h).1
  intro d hd
  exact allSmall_of_mem_mappedTexts _ hmem d (mem_of_mem_splitWhere hpart d hd).1

theorem isCapital_of_unmapped {c : Char} (hascii : 128 ≤ c.toNat) (hshift : shifted? c = none)
    (htable : tabled? c = none) : isCapital c = false := by
  have table : (capitalRuns.all fun run => (List.range (run.2.1 + 1 - run.1)).all fun k =>
      k % run.2.2 != 0 || run.1 + k < 128 || (shifted? (Char.ofNat (run.1 + k))).isSome ||
        (tabled? (Char.ofNat (run.1 + k))).isSome) := by
    decide +kernel
  rw [isCapital, List.any_eq_false]
  intro run hrun hc
  obtain ⟨hlo, hhi, hstep⟩ := of_decide_eq_true hc
  have hall := List.all_eq_true.1 (List.all_eq_true.1 table run hrun) (c.toNat - run.1)
    (List.mem_range.2 (by omega))
  rw [show run.1 + (c.toNat - run.1) = c.toNat by omega] at hall
  simp [hstep, hshift, htable] at hall
  omega

/-- Nothing is mapped to a capital. -/
theorem allSmall_of_mapChar {c : Char} {cs : List Char} (h : mapChar c = some cs) :
    AllSmall cs := by
  unfold mapChar at h
  split_ifs at h with hascii
  · have table : ∀ n < 128, isCapital (Char.ofNat n).toLower = false := by decide
    cases h
    intro d hd
    obtain rfl := List.mem_singleton.1 hd
    simpa using table c.toNat hascii
  · cases h
    intro d hd
    cases hd
  · split at h
    · next d hd =>
      cases h
      intro e he
      obtain rfl := List.mem_singleton.1 he
      exact isCapital_of_shifted? hd
    · next hshift =>
      cases h
      cases htable : tabled? c with
      | some text => exact allSmall_of_tabled? htable
      | none =>
        intro d hd
        obtain rfl := List.mem_singleton.1 hd
        exact isCapital_of_unmapped (by omega) hshift htable

/-! ## Composition -/

/-- What holds of each composite: it is beyond ASCII, its parts are beyond the space, and it is a
capital if a part is one. -/
def compositeFits (e : Composite) : Bool :=
  128 ≤ e.2.2.toNat && 32 < e.1.toNat && 32 < e.2.1.toNat &&
    (isCapital e.2.2 || !isCapital e.1 && !isCapital e.2.1)

theorem compositeFits_ofList {cs : List Char}
    (h : ((splitWhere (· == ' ') cs).all fun token => compositeFits (readComposite token)) = true) :
    ∀ token ∈ tokens (String.ofList cs), compositeFits (readComposite token) := by
  unfold tokens
  rw [String.toList_ofList]
  exact List.all_eq_true.1 h

set_option maxRecDepth 100000 in
theorem compositeFits_of_mem {e : Composite} (h : e ∈ composites) : compositeFits e := by
  have hrows : ∀ row ∈ compositeSums, ∀ token ∈ tokens row,
      compositeFits (readComposite token) := by
    simp only [compositeSums, List.forall_mem_cons]
    repeat' apply And.intro
    all_goals first | exact compositeFits_ofList (by decide +kernel) | simp
  obtain ⟨row, hrow, h⟩ := List.mem_flatMap.1 h
  obtain ⟨token, htoken, rfl⟩ := List.mem_map.1 h
  exact hrows row hrow token htoken

theorem syllableParts?_eq_some {c : Char} {l v t : Nat} (h : syllableParts? c = some (l, v, t)) :
    (0xAC00 ≤ c.toNat ∧ c.toNat < 0xAC00 + 11172) ∧ l = (c.toNat - 0xAC00) / 588 ∧
      v = (c.toNat - 0xAC00) % 588 / 28 ∧ t = (c.toNat - 0xAC00) % 28 := by
  unfold syllableParts? at h
  dsimp only at h
  split_ifs at h with hrange
  simp only [Option.some.injEq, Prod.mk.injEq] at h
  exact ⟨hrange, h.1.symm, h.2.1.symm, h.2.2.symm⟩

theorem allSmall_partsOf {c : Char} (h : isCapital c = false) : AllSmall (partsOf c) := by
  unfold partsOf
  split
  · next l v t hsyllable =>
    obtain ⟨hrange, hl, hv, ht⟩ := syllableParts?_eq_some hsyllable
    have hjamo : ∀ n, 0x1100 ≤ n → n < 0x1200 → isCapital (Char.ofNat n) = false := by
      intro n hlow hhigh
      apply isCapital_ofNat_of_gap (show (0x233, 0x1E00) ∈ smallGaps by decide)
      · omega
      · omega
    have htail : ∀ t < 28, AllSmall (if t = 0 then [] else [Char.ofNat (0x11A7 + t)]) := by
      intro t ht d hd
      split_ifs at hd
      · cases hd
      · obtain rfl := List.mem_singleton.1 hd
        exact hjamo _ (by omega) (by omega)
    intro d hd
    simp only [List.cons_append, List.nil_append, List.mem_cons] at hd
    rcases hd with rfl | rfl | hd
    · exact hjamo _ (by omega) (by omega)
    · exact hjamo _ (by omega) (by omega)
    · exact htail _ (by omega) d hd
  · split
    · next a b whole hfind =>
      have hfits := compositeFits_of_mem (List.mem_of_find?_eq_some hfind)
      obtain rfl : whole = c := by simpa using List.find?_some hfind
      simp only [compositeFits, h, Bool.false_or, Bool.and_eq_true, Bool.not_eq_true'] at hfits
      intro d hd
      simp only [List.mem_cons, List.not_mem_nil, or_false] at hd
      rcases hd with rfl | rfl
      · exact hfits.2.1
      · exact hfits.2.2
    · intro d hd
      obtain rfl := List.mem_singleton.1 hd
      exact h

theorem allSmall_takenApart {cs : List Char} (h : AllSmall cs) : AllSmall (takenApart cs) := by
  have hstep : ∀ cs, AllSmall cs → AllSmall (cs.flatMap partsOf) := by
    intro cs hcs d hd
    obtain ⟨c, hc, hd⟩ := List.mem_flatMap.1 hd
    exact allSmall_partsOf (hcs c hc) d hd
  exact hstep _ (hstep _ (hstep _ (hstep _ h)))

theorem putMark_perm (c : Char) (cs : List Char) : (putMark c cs).Perm (c :: cs) := by
  induction cs with
  | nil => rfl
  | cons d cs ih =>
    unfold putMark
    split_ifs
    · exact (ih.cons d).trans (.swap c d cs)
    · rfl

theorem orderMarks_perm (cs : List Char) : (orderMarks cs).Perm cs := by
  induction cs with
  | nil => rfl
  | cons c cs ih => exact (putMark_perm c (orderMarks cs)).trans (ih.cons c)

theorem toNat_ofNat_of_syllable {n : Nat} (hlow : 0xAC00 ≤ n) (hhigh : n < 0xD800) :
    0xAC00 ≤ (Char.ofNat n).toNat := by
  rw [Char.ofNat, dif_pos (.inl hhigh)]
  exact hlow

/-- Two characters join to a syllable, if they are parts of one, or to a composite. -/
theorem join?_cases {a b c : Char} (h : join? a b = some c) :
    (0x1100 ≤ a.toNat ∧ 0x1161 ≤ b.toNat ∧ 0xAC00 ≤ c.toNat) ∨ (a, b, c) ∈ composites := by
  unfold join? at h
  rcases Option.or_eq_some_iff.1 h with hsyllable | ⟨-, hcomposite⟩
  · left
    unfold syllable? at hsyllable
    dsimp only at hsyllable
    split_ifs at hsyllable with hjamo htail
    · rw [← Option.some.inj hsyllable]
      exact ⟨hjamo.1, hjamo.2.2.1, toNat_ofNat_of_syllable (by omega) (by omega)⟩
    · split at hsyllable
      · next l v hparts =>
        obtain ⟨hrange, -, -, hlast⟩ := syllableParts?_eq_some hparts
        rw [← Option.some.inj hsyllable]
        exact ⟨by omega, by omega, toNat_ofNat_of_syllable (by omega) (by omega)⟩
      · cases hsyllable
    · split at hsyllable <;> cases hsyllable
  · right
    obtain ⟨⟨a', b', c'⟩, hfound, rfl⟩ := Option.map_eq_some_iff.1 hcomposite
    have hparts := List.find?_some hfound
    simp only [Bool.and_eq_true, beq_iff_eq] at hparts
    rw [← hparts.1, ← hparts.2]
    exact List.mem_of_find?_eq_some hfound

theorem le_of_join? {a b c : Char} (h : join? a b = some c) : 128 ≤ c.toNat := by
  rcases join?_cases h with ⟨-, -, hsyllable⟩ | hcomposite
  · omega
  · have hfits := compositeFits_of_mem hcomposite
    simp only [compositeFits, Bool.and_eq_true, decide_eq_true_eq] at hfits
    exact hfits.1.1.1

theorem mem_of_mem_joinFrom {c d : Char} {between cs : List Char}
    (h : d ∈ joinFrom c between cs) : d = c ∨ d ∈ between ∨ d ∈ cs ∨ 128 ≤ d.toNat := by
  induction cs generalizing c between with
  | nil =>
    simp only [joinFrom, List.mem_cons, List.mem_reverse] at h
    tauto
  | cons e cs ih =>
    unfold joinFrom at h
    dsimp only at h
    split at h
    · next whole hwhole =>
      have hlarge : 128 ≤ whole.toNat := by
        split_ifs at hwhole
        exact le_of_join? hwhole
      rcases ih h with rfl | h | h | h
      · exact .inr (.inr (.inr hlarge))
      · exact .inr (.inl h)
      · exact .inr (.inr (.inl (List.mem_cons_of_mem e h)))
      · exact .inr (.inr (.inr h))
    · split_ifs at h
      · simp only [List.cons_append, List.mem_cons, List.mem_append, List.mem_reverse] at h
        rcases h with h | h | h
        · exact .inl h
        · exact .inr (.inl h)
        · rcases ih h with rfl | h | h | h
          · simp
          · cases h
          · exact .inr (.inr (.inl (List.mem_cons_of_mem e h)))
          · exact .inr (.inr (.inr h))
      · rcases ih h with h | h | h | h
        · exact .inl h
        · rcases List.mem_cons.1 h with rfl | h
          · simp
          · exact .inr (.inl h)
        · exact .inr (.inr (.inl (List.mem_cons_of_mem e h)))
        · exact .inr (.inr (.inr h))

theorem mem_of_mem_joinMarks {d : Char} {cs : List Char} (h : d ∈ joinMarks cs) :
    d ∈ cs ∨ 128 ≤ d.toNat := by
  induction cs with
  | nil => exact .inl h
  | cons c cs ih =>
    unfold joinMarks at h
    split_ifs at h
    · rcases mem_of_mem_joinFrom h with rfl | h | h | h
      · simp
      · cases h
      · exact .inl (List.mem_cons_of_mem c h)
      · exact .inr h
    · rcases List.mem_cons.1 h with rfl | h
      · simp
      · rcases ih h with h | h
        · exact .inl (List.mem_cons_of_mem c h)
        · exact .inr h

theorem toLower_of_isCapital {c : Char} (h : isCapital c = false) : c.toLower = c := by
  unfold Char.toLower
  split_ifs with hrange
  · have hrun : inRun c (0x41, 0x5A, 1) := decide_eq_true ⟨hrange.1, hrange.2, Nat.mod_one _⟩
    rw [isCapital, List.any_eq_false] at h
    exact absurd hrun (h _ (by decide))
  · rfl

theorem toLower_of_le {c : Char} (h : 128 ≤ c.toNat) : c.toLower = c := by
  unfold Char.toLower
  split_ifs with hrange
  · have hlast : c.toNat ≤ 90 := hrange.2
    omega
  · rfl

/-- A mapped name is in small letters. -/
theorem toLower_of_mapped? {name cs : List Char} (h : mapped? name = some cs) :
    ∀ c ∈ cs, c.toLower = c := by
  obtain ⟨texts, htexts, h⟩ := Option.bind_eq_some_iff.1 h
  cases h
  have htext : ∀ text ∈ texts, AllSmall text := by
    clear h
    induction mapM_eq_some_iff.1 htexts with
    | nil => simp
    | cons hfirst hrest ih =>
      exact List.forall_mem_cons.2 ⟨allSmall_of_mapChar hfirst, ih (mapM_eq_some_iff.2 hrest)⟩
  have hsmall : AllSmall texts.flatten := by
    intro c hc
    obtain ⟨text, hmem, hc⟩ := List.mem_flatten.1 hc
    exact htext text hmem c hc
  unfold composed
  split_ifs
  · exact fun c hc => toLower_of_isCapital (hsmall c hc)
  · intro c hc
    rcases mem_of_mem_joinMarks hc with hc | hlarge
    · exact toLower_of_isCapital (allSmall_takenApart hsmall c ((orderMarks_perm _).mem_iff.1 hc))
    · exact toLower_of_le hlarge

end SignIn.Domain
