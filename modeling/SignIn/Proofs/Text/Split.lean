import Mathlib.Data.List.Forall2
import Mathlib.Data.List.TakeWhile
import SignIn.Text.Blank

/-!
# Parts between separators

What was joined with separators comes apart at them again, as long as the parts hold none.
-/

namespace SignIn.Text

variable {α : Type} {p : α → Bool}

/-! ## All parts -/

theorem splitWhere_ne_nil (p : α → Bool) (cs : List α) : splitWhere p cs ≠ [] := by
  cases cs with
  | nil => simp [splitWhere]
  | cons c cs =>
    intro h
    unfold splitWhere at h
    split at h <;> cases h

theorem splitWhere_cons_of_pos {c : α} (h : p c) (cs : List α) :
    splitWhere p (c :: cs) = [] :: splitWhere p cs := by
  rw [splitWhere, h]

theorem splitWhere_cons_of_neg {c : α} {cs part : List α} {parts : List (List α)}
    (h : p c = false) (hcs : splitWhere p cs = part :: parts) :
    splitWhere p (c :: cs) = (c :: part) :: parts := by
  rw [splitWhere, h, hcs]

theorem splitWhere_of_forall {cs : List α} (h : ∀ c ∈ cs, p c = false) :
    splitWhere p cs = [cs] := by
  induction cs with
  | nil => rfl
  | cons c cs ih =>
    exact splitWhere_cons_of_neg (h c (by simp)) (ih fun d hd => h d (by simp [hd]))

theorem splitWhere_append_cons {sep : α} (h : p sep) (before after : List α) :
    splitWhere p (before ++ sep :: after) = splitWhere p before ++ splitWhere p after := by
  induction before with
  | nil => exact splitWhere_cons_of_pos h after
  | cons c cs ih =>
    rw [List.cons_append]
    obtain ⟨part, parts, hparts⟩ := List.exists_cons_of_ne_nil (splitWhere_ne_nil p cs)
    rw [hparts, List.cons_append] at ih
    cases hc : p c with
    | true => rw [splitWhere_cons_of_pos hc, splitWhere_cons_of_pos hc, ih, hparts]; rfl
    | false =>
      rw [splitWhere_cons_of_neg hc ih, splitWhere_cons_of_neg hc hparts, List.cons_append]

theorem splitWhere_intercalate {sep : α} (h : p sep) {parts : List (List α)} (hne : parts ≠ [])
    (hparts : ∀ part ∈ parts, ∀ c ∈ part, p c = false) :
    splitWhere p ([sep].intercalate parts) = parts := by
  induction parts with
  | nil => exact absurd rfl hne
  | cons part parts ih =>
    have hpart : splitWhere p part = [part] := splitWhere_of_forall (hparts part (by simp))
    cases parts with
    | nil => rw [List.intercalate_singleton, hpart]
    | cons next parts =>
      have hrest := ih (by simp) fun q hq => hparts q (List.mem_cons_of_mem _ hq)
      rw [List.intercalate_cons_cons, List.append_assoc, List.singleton_append,
        splitWhere_append_cons h, hpart, hrest, List.singleton_append]

theorem intercalate_splitWhere [BEq α] [LawfulBEq α] (sep : α) (cs : List α) :
    [sep].intercalate (splitWhere (· == sep) cs) = cs := by
  induction cs with
  | nil => rfl
  | cons c cs ih =>
    obtain ⟨part, parts, hparts⟩ := List.exists_cons_of_ne_nil (splitWhere_ne_nil (· == sep) cs)
    rw [hparts] at ih
    cases hc : c == sep with
    | true =>
      rw [splitWhere_cons_of_pos (p := (· == sep)) hc, hparts, List.intercalate_cons_cons, ih,
        beq_iff_eq.1 hc]
      rfl
    | false =>
      rw [splitWhere_cons_of_neg (p := (· == sep)) hc hparts, ← ih]
      cases parts with
      | nil => rw [List.intercalate_singleton, List.intercalate_singleton]
      | cons next parts =>
        rw [List.intercalate_cons_cons, List.intercalate_cons_cons, List.cons_append,
          List.cons_append]

theorem mem_of_mem_intercalate {sep c : α} {parts : List (List α)}
    (h : c ∈ [sep].intercalate parts) : c = sep ∨ ∃ part ∈ parts, c ∈ part := by
  induction parts with
  | nil => cases h
  | cons part parts ih =>
    cases parts with
    | nil => exact .inr ⟨part, by simp, by simpa [List.intercalate_singleton] using h⟩
    | cons next parts =>
      rw [List.intercalate_cons_cons, List.mem_append, List.mem_append, List.mem_singleton] at h
      rcases h with (h | h) | h
      · exact .inr ⟨part, by simp, h⟩
      · exact .inl h
      · rcases ih h with heq | ⟨q, hq, hc⟩
        · exact .inl heq
        · exact .inr ⟨q, List.mem_cons_of_mem part hq, hc⟩

theorem mem_intercalate_of_mem {sep c : α} {part : List α} {parts : List (List α)}
    (hpart : part ∈ parts) (hc : c ∈ part) : c ∈ [sep].intercalate parts := by
  induction parts with
  | nil => cases hpart
  | cons first parts ih =>
    cases parts with
    | nil =>
      obtain rfl := List.mem_singleton.mp hpart
      rwa [List.intercalate_singleton]
    | cons second parts =>
      rw [List.intercalate_cons_cons]
      rcases List.mem_cons.mp hpart with rfl | hpart
      · simp [hc]
      · simp [ih hpart]

theorem mem_of_mem_splitWhere {cs part : List α} (h : part ∈ splitWhere p cs) :
    ∀ c ∈ part, c ∈ cs ∧ p c = false := by
  induction cs generalizing part with
  | nil =>
    obtain rfl : part = [] := by simpa [splitWhere] using h
    simp
  | cons d cs ih =>
    obtain ⟨first, parts, hparts⟩ := List.exists_cons_of_ne_nil (splitWhere_ne_nil p cs)
    have hrest : ∀ q ∈ first :: parts, ∀ c ∈ q, c ∈ d :: cs ∧ p c = false := by
      intro q hq c hc
      obtain ⟨hmem, hneg⟩ := ih (hparts ▸ hq) c hc
      exact ⟨List.mem_cons_of_mem d hmem, hneg⟩
    intro c hc
    cases hd : p d with
    | true =>
      rw [splitWhere_cons_of_pos hd, hparts, List.mem_cons] at h
      rcases h with rfl | h
      · simp at hc
      · exact hrest part h c hc
    | false =>
      rw [splitWhere_cons_of_neg hd hparts, List.mem_cons] at h
      rcases h with rfl | h
      · rcases List.mem_cons.1 hc with rfl | hc
        · exact ⟨by simp, hd⟩
        · exact hrest first (by simp) c hc
      · exact hrest part (by simp [h]) c hc

theorem mapM_eq_some_iff {α β : Type} {f : α → Option β} {parts : List α} {values : List β} :
    parts.mapM f = some values ↔
      List.Forall₂ (fun part value => f part = some value) parts values := by
  induction parts generalizing values with
  | nil =>
    rw [List.mapM_nil, List.forall₂_nil_left_iff]
    constructor
    · intro h
      cases h
      rfl
    · rintro rfl
      rfl
  | cons part parts ih =>
    rw [List.mapM_cons, List.forall₂_cons_left_iff]
    constructor
    · intro h
      obtain ⟨value, hvalue, h⟩ := Option.bind_eq_some_iff.1 h
      obtain ⟨rest, hrest, h⟩ := Option.bind_eq_some_iff.1 h
      cases h
      exact ⟨value, rest, hvalue, ih.1 hrest, rfl⟩
    · rintro ⟨value, rest, hvalue, hrest, rfl⟩
      simp [hvalue, ih.2 hrest]

theorem exists_of_mapM_eq_some {β : Type} {f : α → Option β} {as : List α} {bs : List β}
    (h : as.mapM f = some bs) {a : α} (ha : a ∈ as) : ∃ b ∈ bs, f a = some b := by
  induction mapM_eq_some_iff.mp h with
  | nil => cases ha
  | cons hfirst hrest ih =>
    rcases List.mem_cons.mp ha with rfl | ha
    · exact ⟨_, List.mem_cons_self, hfirst⟩
    · obtain ⟨b, hb, hf⟩ := ih (mapM_eq_some_iff.mpr hrest) ha
      exact ⟨b, List.mem_cons_of_mem _ hb, hf⟩

/-! ## The first part -/

theorem cutAt_of_forall {cs : List α} (h : ∀ c ∈ cs, p c = false) : cutAt p cs = (cs, none) := by
  induction cs with
  | nil => rfl
  | cons c cs ih => simp [cutAt, h c (by simp), ih fun d hd => h d (by simp [hd])]

theorem cutAt_append_cons {before : List α} {sep : α} (hbefore : ∀ c ∈ before, p c = false)
    (h : p sep) (after : List α) : cutAt p (before ++ sep :: after) = (before, some after) := by
  induction before with
  | nil => simp [cutAt, h]
  | cons c cs ih =>
    have hrest := ih fun d hd => hbefore d (by simp [hd])
    simp [cutAt, hbefore c (by simp), hrest]

theorem fst_cutAt (p : α → Bool) (cs : List α) : (cutAt p cs).1 = cs.takeWhile (!p ·) := by
  induction cs with
  | nil => rfl
  | cons c cs ih => cases hc : p c <;> simp [cutAt, hc, ih]

theorem forall_of_cutAt {cs before : List α} {after : Option (List α)}
    (h : cutAt p cs = (before, after)) : ∀ c ∈ before, c ∈ cs ∧ p c = false := by
  induction cs generalizing before after with
  | nil =>
    cases h
    simp
  | cons d cs ih =>
    intro c hc
    unfold cutAt at h
    split at h
    · cases h
      simp at hc
    · next hd =>
      cases hcut : cutAt p cs with
      | mk first rest =>
        rw [hcut] at h
        cases h
        rcases List.mem_cons.1 hc with rfl | hc
        · exact ⟨by simp, by simpa using hd⟩
        · exact ⟨List.mem_cons_of_mem d (ih hcut c hc).1, (ih hcut c hc).2⟩

theorem takeWhile_append_of_head {before after : List α} (hbefore : ∀ c ∈ before, p c)
    (hafter : after.head?.all fun c => !p c) : (before ++ after).takeWhile p = before := by
  rw [List.takeWhile_append_of_pos hbefore]
  cases after with
  | nil => simp
  | cons c cs =>
    have hc : p c = false := by simpa using hafter
    simp [hc]

theorem takeWhile_append_of_exists {cs : List α} (h : ∃ c ∈ cs, p c = false) (after : List α) :
    (cs ++ after).takeWhile p = cs.takeWhile p := by
  induction cs with
  | nil => simp at h
  | cons c cs ih =>
    cases hc : p c with
    | false => simp [hc]
    | true =>
      have hrest : ∃ d ∈ cs, p d = false := by simpa [hc] using h
      simp [hc, ih hrest]

theorem takeWhile_append_cons {sep : α} (h : p sep = false) (before after : List α) :
    (before ++ sep :: after).takeWhile p = before.takeWhile p := by
  induction before with
  | nil => simp [h]
  | cons c cs ih => cases hc : p c <;> simp [hc, ih]

theorem dropWhile_of_head {cs : List α} (h : ∀ c, cs.head? = some c → p c = false) :
    cs.dropWhile p = cs := by
  cases cs with
  | nil => rfl
  | cons c cs => rw [List.dropWhile_cons_of_neg (by simp [h c rfl])]

theorem takeWhile_congr {q : α → Bool} {cs : List α} (h : ∀ c ∈ cs, p c = q c) :
    cs.takeWhile p = cs.takeWhile q := by
  induction cs with
  | nil => rfl
  | cons c cs ih =>
    have hrest := ih fun d hd => h d (List.mem_cons_of_mem c hd)
    rw [List.takeWhile_cons, List.takeWhile_cons, h c List.mem_cons_self, hrest]

theorem drop_length_takeWhile (p : α → Bool) (cs : List α) :
    cs.drop (cs.takeWhile p).length = cs.dropWhile p := by
  have hleft : (cs.takeWhile p ++ cs.dropWhile p).drop (cs.takeWhile p).length = cs.dropWhile p :=
    List.drop_left
  rwa [List.takeWhile_append_dropWhile] at hleft

theorem stripEnds_of_ends {p : Char → Bool} {cs : List Char}
    (hfirst : ∀ c, cs.head? = some c → p c = false)
    (hlast : ∀ c, cs.getLast? = some c → p c = false) : stripEnds p cs = cs := by
  have hback : cs.reverse.dropWhile p = cs.reverse := by
    apply dropWhile_of_head
    rwa [List.head?_reverse]
  rw [stripEnds, dropWhile_of_head hfirst, hback, List.reverse_reverse]

/-- A text is what is stripped at its ends around what stays, whose own ends stay. -/
theorem exists_stripEnds (p : Char → Bool) (cs : List Char) :
    ∃ front back, cs = front ++ stripEnds p cs ++ back ∧
      (∀ c ∈ front, p c = true) ∧ (∀ c ∈ back, p c = true) ∧
      (∀ c, (stripEnds p cs).head? = some c → p c = false) ∧
      ∀ c, (stripEnds p cs).getLast? = some c → p c = false := by
  have hrest : cs.dropWhile p =
      stripEnds p cs ++ ((cs.dropWhile p).reverse.takeWhile p).reverse := by
    rw [stripEnds, ← List.reverse_append, List.takeWhile_append_dropWhile, List.reverse_reverse]
  refine ⟨cs.takeWhile p, ((cs.dropWhile p).reverse.takeWhile p).reverse, ?_, ?_, ?_, ?_, ?_⟩
  · rw [List.append_assoc, ← hrest, List.takeWhile_append_dropWhile]
  · exact fun c => List.mem_takeWhile_imp
  · exact fun c hc => List.mem_takeWhile_imp (List.mem_reverse.mp hc)
  · intro c hc
    have hhead := List.head?_dropWhile_not p cs
    rw [hrest, List.head?_append, hc] at hhead
    simpa using hhead
  · intro c hc
    have hhead := List.head?_dropWhile_not p (cs.dropWhile p).reverse
    rw [stripEnds, List.getLast?_reverse] at hc
    rw [hc] at hhead
    simpa using hhead

theorem trim_trim (s : String) : trim (trim s) = trim s := by
  obtain ⟨-, -, -, -, -, hfirst, hlast⟩ := exists_stripEnds isBlank s.toList
  unfold trim
  rw [String.toList_ofList, stripEnds_of_ends hfirst hlast]

/-- Behind a beginning whose ends stay, only the end of a text is stripped. -/
theorem stripEnds_append {p : Char → Bool} {before : List Char} (hne : before ≠ [])
    (hfirst : ∀ c, before.head? = some c → p c = false)
    (hlast : ∀ c, before.getLast? = some c → p c = false) (after : List Char) :
    stripEnds p (before ++ after) = before ++ (after.reverse.dropWhile p).reverse := by
  have hfront : (before ++ after).dropWhile p = before ++ after := by
    apply dropWhile_of_head
    rwa [List.head?_append_of_ne_nil _ hne]
  have hback : before.reverse.dropWhile p = before.reverse := by
    apply dropWhile_of_head
    rwa [List.head?_reverse]
  rw [stripEnds, hfront, List.reverse_append, List.dropWhile_append, hback]
  split
  · next hempty => simp [List.isEmpty_iff.mp hempty]
  · simp

/-- Something happened since which something else did not: it happened last, or before that and the
other did not happen last. -/
theorem exists_since_concat {P Q : α → Prop} {past : List α} {x : α} :
    (∃ before y since, past ++ [x] = before ++ y :: since ∧ P y ∧ ∀ z ∈ since, ¬ Q z) ↔
      P x ∨ ¬ Q x ∧
        ∃ before y since, past = before ++ y :: since ∧ P y ∧ ∀ z ∈ since, ¬ Q z := by
  constructor
  · rintro ⟨before, y, since, hpast, hy, hsince⟩
    rcases List.eq_nil_or_concat since with rfl | ⟨since, z, rfl⟩
    · obtain ⟨-, hlast⟩ := List.append_inj' hpast rfl
      cases hlast
      exact .inl hy
    · have hpast : past ++ [x] = (before ++ y :: since) ++ [z] := by simpa using hpast
      obtain ⟨rfl, hlast⟩ := List.append_inj' hpast rfl
      cases hlast
      exact .inr ⟨hsince x (by simp), before, y, since, rfl, hy,
        fun z hz => hsince z (by simp [hz])⟩
  · rintro (hx | ⟨hlast, before, y, since, rfl, hy, hsince⟩)
    · exact ⟨past, x, [], rfl, hx, by simp⟩
    · refine ⟨before, y, since ++ [x], by simp, hy, ?_⟩
      exact List.forall_mem_append.mpr ⟨hsince, List.forall_mem_singleton.mpr hlast⟩

theorem exists_of_bind_eq_ok {ε β : Type} {x : Except ε α} {f : α → Except ε β} {b : β}
    (h : x >>= f = .ok b) : ∃ a, x = .ok a ∧ f a = .ok b := by
  cases x with
  | error fault => cases h
  | ok a => exact ⟨a, rfl, h⟩

theorem forall_of_all {α : Type} {P : α → Prop} [DecidablePred P] {l : List α}
    (h : (l.all fun a => decide (P a)) = true) : ∀ a ∈ l, P a := by
  intro a ha
  have hone := List.all_eq_true.1 h a ha
  exact of_decide_eq_true hone

theorem forall_below {P : Char → Prop} {bound : Nat} (h : ∀ n < bound, P (Char.ofNat n)) {c : Char}
    (hc : c.toNat < bound) : P c := by
  have hp := h c.toNat hc
  rwa [Char.ofNat_toNat] at hp

end SignIn.Text
