import Mathlib.Data.Nat.Init
import Mathlib.Tactic.ByContra
import SignIn.Proofs.Store.Faltering
import SignIn.Store.Sharing

/-!
# A snapshot among others

A snapshot reads three keys in three calls, and other handles may change the keys between the calls.
So it need not be what the store held at any one moment. It is of one moment if no key is overtaken
by another: if at no moment between their reads the one has already another value than was read, and
the other not yet the value that is read. If no value that is read comes back after another one, it
is of one moment only then.
-/

namespace SignIn

/-- What entries keep of a session. -/
def Entries.kept (e : Entries) : PersistedSession :=
  ⟨e.get? handleKey, e.get? tokenKey, e.get? stateKey⟩

/-! ## Moments of a reading -/

/-- A reading of the three keys: the entries at the first read, and the calls that others make
between the first two reads and between the last two. -/
structure Reading where
  entries : Entries
  first : List KeyCall
  second : List KeyCall

namespace Reading

variable (r : Reading)

def calls : List KeyCall := r.first ++ r.second

def moment (i : Nat) : Entries := Storage.memory.makeAll r.entries (r.calls.take i)

def middle : Nat := r.first.length

def last : Nat := r.calls.length

/-- Each key as it is when it is read. -/
def record : PersistedSession :=
  ⟨(r.moment 0).get? handleKey, (r.moment r.middle).get? tokenKey, (r.moment r.last).get? stateKey⟩

/-- At a moment a key has the value that is read of it at another. -/
def AsRead (k : String) (a i : Nat) : Prop := (r.moment i).get? k = (r.moment a).get? k

/-- At a moment between the reads of two keys, the first has already another value than was read,
and the second has not yet the value that is read. -/
def Overtakes (k : String) (a : Nat) (k' : String) (b : Nat) : Prop :=
  ∃ i < b, a ≤ i ∧ ¬ r.AsRead k a i ∧ ¬ r.AsRead k' b i

/-- Some key is overtaken by one that is read after it. -/
def Overtaken : Prop :=
  r.Overtakes handleKey 0 tokenKey r.middle ∨ r.Overtakes handleKey 0 stateKey r.last ∨
    r.Overtakes tokenKey r.middle stateKey r.last

/-- The value that is read of a key does not come back after another one. -/
def Steady (k : String) (a : Nat) : Prop :=
  ∀ l ≤ r.last, ∀ j ≤ l, ∀ i ≤ j, r.AsRead k a i → r.AsRead k a l → r.AsRead k a j

/-- No value that is read comes back after another. -/
structure NothingReturns : Prop where
  handle : r.Steady handleKey 0
  token : r.Steady tokenKey r.middle
  state : r.Steady stateKey r.last

/-- The record is what the store held at one moment of the reading. -/
def OfOneMoment : Prop := ∃ i ≤ r.last, r.record = (r.moment i).kept

instance (k : String) (a i : Nat) : Decidable (r.AsRead k a i) :=
  inferInstanceAs (Decidable (_ = _))

instance (k : String) (a : Nat) (k' : String) (b : Nat) : Decidable (r.Overtakes k a k' b) :=
  inferInstanceAs (Decidable (∃ i < b, a ≤ i ∧ ¬ r.AsRead k a i ∧ ¬ r.AsRead k' b i))

instance : Decidable r.Overtaken := inferInstanceAs (Decidable (_ ∨ _ ∨ _))

instance (k : String) (a : Nat) : Decidable (r.Steady k a) :=
  inferInstanceAs (Decidable (∀ l ≤ r.last, ∀ j ≤ l, ∀ i ≤ j,
    r.AsRead k a i → r.AsRead k a l → r.AsRead k a j))

theorem middle_le_last : r.middle ≤ r.last := by
  unfold middle last calls
  rw [List.length_append]
  exact Nat.le_add_right _ _

end Reading

theorem Storage.exists_key_call (e : Entries) (c : KeyCall) :
    ∃ k, ∀ k' ≠ k, (memory.call c e).2.get? k' = e.get? k' := by
  cases c with
  | set k v => exact ⟨k, fun k' hk => (e.get?_set k k' v).trans (if_neg hk)⟩
  | get k => exact ⟨k, fun _ _ => rfl⟩
  | remove k => exact ⟨k, fun k' hk => (e.get?_erase k k').trans (if_neg hk)⟩
  | take k => exact ⟨k, fun k' hk => (e.get?_erase k k').trans (if_neg hk)⟩

namespace Reading

variable {r : Reading}

theorem exists_key_moment (r : Reading) (i : Nat) :
    ∃ k, ∀ k' ≠ k, (r.moment (i + 1)).get? k' = (r.moment i).get? k' := by
  unfold moment
  rw [List.take_add_one]
  cases r.calls[i]? with
  | none => exact ⟨"", fun _ _ => by rw [Option.toList_none, List.append_nil]⟩
  | some c =>
    rw [Option.toList_some, Storage.makeAll, List.foldl_append]
    exact Storage.exists_key_call _ c

theorem asRead_self (k : String) (a : Nat) : r.AsRead k a a := rfl

theorem asRead_of_succ {k k' : String} {a b i : Nat} (hne : k ≠ k') (hk : r.AsRead k a i)
    (hlost : ¬ r.AsRead k a (i + 1)) (h : r.AsRead k' b (i + 1)) : r.AsRead k' b i := by
  obtain ⟨k'', hsame⟩ := r.exists_key_moment i
  have hkey : k = k'' := by
    by_contra hkey
    exact hlost ((hsame k hkey).trans hk)
  exact (hsame k' (hkey ▸ hne.symm)).symm.trans h

theorem asRead_or {k k' : String} {a b i : Nat} (h : ¬ r.Overtakes k a k' b) (hai : a ≤ i)
    (hib : i ≤ b) : r.AsRead k a i ∨ r.AsRead k' b i := by
  rcases Nat.lt_or_eq_of_le hib with hib | rfl
  · by_contra hnone
    rw [not_or] at hnone
    exact h ⟨i, hib, hai, hnone⟩
  · exact .inr (asRead_self k' i)

theorem exists_last_asRead (k : String) {a c : Nat} (hac : a ≤ c) :
    ∃ m, a ≤ m ∧ m ≤ c ∧ (∀ i, a ≤ i → i ≤ m → r.AsRead k a i) ∧
      (m = c ∨ m < c ∧ ¬ r.AsRead k a (m + 1)) := by
  -- The last moment moves on with the end of the span, until the key has lost its value.
  induction c, hac using Nat.le_induction with
  | base =>
    refine ⟨a, Nat.le_refl _, Nat.le_refl _, fun i hai hia => ?_, .inl rfl⟩
    obtain rfl : i = a := Nat.le_antisymm hia hai
    exact asRead_self k i
  | succ c hac ih =>
    obtain ⟨m, ham, hmc, hbefore, hend⟩ := ih
    by_cases hlost : m = c ∧ r.AsRead k a (c + 1)
    · obtain ⟨rfl, hnext⟩ := hlost
      refine ⟨m + 1, by omega, Nat.le_refl _, fun i hai him => ?_, .inl rfl⟩
      rcases Nat.lt_or_eq_of_le him with him | rfl
      · exact hbefore i hai (by omega)
      · exact hnext
    · refine ⟨m, ham, by omega, hbefore, .inr ⟨by omega, ?_⟩⟩
      rcases hend with rfl | ⟨-, hend⟩
      · exact fun hnext => hlost ⟨rfl, hnext⟩
      · exact hend

/-- If a key is not overtaken by another, they meet: up to a moment the first still has its value,
and there the second has its value. -/
theorem exists_meeting {k k' : String} {a b c : Nat} (hne : k ≠ k') (h : ¬ r.Overtakes k a k' b)
    (hac : a ≤ c) (hcb : c ≤ b) (hc : r.AsRead k' b c) :
    ∃ m, a ≤ m ∧ m ≤ c ∧ (∀ i, a ≤ i → i ≤ m → r.AsRead k a i) ∧ r.AsRead k' b m ∧
      (m = c ∨ m < c ∧ ¬ r.AsRead k a (m + 1)) := by
  obtain ⟨m, ham, hmc, hbefore, hend⟩ := r.exists_last_asRead k hac
  refine ⟨m, ham, hmc, hbefore, ?_, hend⟩
  rcases hend with rfl | ⟨hlt, hlost⟩
  · exact hc
  · have hnext := (asRead_or h (by omega) (by omega : m + 1 ≤ b)).resolve_left hlost
    exact asRead_of_succ hne (hbefore m ham (Nat.le_refl _)) hlost hnext

theorem ofOneMoment_iff :
    r.OfOneMoment ↔ ∃ i ≤ r.last, r.AsRead handleKey 0 i ∧ r.AsRead tokenKey r.middle i ∧
      r.AsRead stateKey r.last i := by
  unfold OfOneMoment record Entries.kept AsRead
  refine exists_congr fun i => and_congr_right fun _ => ?_
  rw [PersistedSession.mk.injEq, eq_comm, @eq_comm _ (Entries.get? _ tokenKey),
    @eq_comm _ (Entries.get? _ stateKey)]

/-- A record is of one moment if no key was overtaken while it was read. -/
theorem ofOneMoment_of_not_overtaken (h : ¬ r.Overtaken) : r.OfOneMoment := by
  unfold Overtaken at h
  rw [not_or, not_or] at h
  obtain ⟨htoken, hstate, htokenState⟩ := h
  rw [ofOneMoment_iff]
  obtain ⟨m, -, hlast, hhandle, hm, hend⟩ := exists_meeting (by decide) hstate (Nat.zero_le r.last)
    (Nat.le_refl _) (asRead_self stateKey r.last)
  rcases Nat.lt_or_ge m r.middle with hlt | hge
  · -- The handle is lost before the token is read, so that the token has its value already.
    have hmiddle := r.middle_le_last
    have hlost : ¬ r.AsRead handleKey 0 (m + 1) := by
      rcases hend with rfl | ⟨-, hlost⟩
      · omega
      · exact hlost
    have hnext := (asRead_or htoken (Nat.zero_le (m + 1)) hlt).resolve_left hlost
    have hread := asRead_of_succ (by decide) (hhandle m (Nat.zero_le m) (Nat.le_refl _)) hlost hnext
    exact ⟨m, hlast, hhandle m (Nat.zero_le m) (Nat.le_refl _), hread, hm⟩
  · obtain ⟨m', hmiddle, hm', hkept, hread, -⟩ :=
      exists_meeting (by decide) htokenState hge hlast hm
    exact ⟨m', by omega, hhandle m' (Nat.zero_le m') hm', hkept m' hmiddle (Nat.le_refl _), hread⟩

theorem not_overtakes {k k' : String} {a b i : Nat} (hk : r.Steady k a) (hk' : r.Steady k' b)
    (hb : b ≤ r.last) (hi : i ≤ r.last) (hread : r.AsRead k a i) (hread' : r.AsRead k' b i) :
    ¬ r.Overtakes k a k' b := by
  rintro ⟨j, hjb, haj, hlost, hlate⟩
  rcases Nat.le_total j i with hji | hij
  · exact hlost (hk i hi j hji a haj (asRead_self k a) hread)
  · exact hlate (hk' b hb j (Nat.le_of_lt hjb) i hij hread' (asRead_self k' b))

theorem ofOneMoment_iff_not_overtaken (h : r.NothingReturns) :
    r.OfOneMoment ↔ ¬ r.Overtaken := by
  refine ⟨fun hone => ?_, ofOneMoment_of_not_overtaken⟩
  have hmiddle := r.middle_le_last
  obtain ⟨i, hi, hhandle, htoken, hstate⟩ := ofOneMoment_iff.mp hone
  unfold Overtaken
  rw [not_or, not_or]
  exact ⟨not_overtakes h.handle h.token hmiddle hi hhandle htoken,
    not_overtakes h.handle h.state (Nat.le_refl _) hi hhandle hstate,
    not_overtakes h.token h.state (Nat.le_refl _) hi htoken hstate⟩

end Reading

/-! ## The reading in a run -/

variable {σ : Type}

/-- The reading of a snapshot in a run on a store that holds `t`: the calls of the others are those
that have gone through. -/
def Storage.readingOn (s : Storage σ) (w : Shared σ) (t : Entries) : Reading :=
  let w₁ := (s.shared.get handleKey w).2
  let w₂ := (s.shared.get tokenKey w₁).2
  ⟨memory.makeAll t (s.through w.store w.next), s.through w₁.store w₁.next,
    s.through w₂.store w₂.next⟩

theorem Reading.record_eq (r : Reading) :
    r.record = ⟨r.entries.get? handleKey, (Storage.memory.makeAll r.entries r.first).get? tokenKey,
      (Storage.memory.makeAll (Storage.memory.makeAll r.entries r.first) r.second).get?
        stateKey⟩ := by
  unfold record moment middle last calls Storage.makeAll
  rw [List.take_zero, List.take_left, List.take_length, List.foldl_append]
  rfl

namespace Storage.Faltering

variable {s : Storage σ} {Holds : σ → Entries → Prop} {w : Shared σ} {t : Entries}
  (hs : s.Faltering Holds)
include hs

theorem call (c : KeyCall) (t : Entries) :
    Ends Holds (s.call c) t (fun _ t' => t' = (memory.call c t).2) fun _ t' => t' = t := by
  cases c with
  | set k v => exact hs.set k v t
  | get k => exact ((hs.get k t).mono (fun _ _ h => .pure h.2) fun _ _ h => h).bind
  | remove k => exact ((hs.remove k t).mono (fun _ _ h => .pure h) fun _ _ h => h).bind
  | take k => exact ((hs.take k t).mono (fun _ _ h => .pure h.2) fun _ _ h => h).bind

theorem makeAll {st : σ} (h : Holds st t) (calls : List KeyCall) :
    Holds (s.makeAll st calls) (memory.makeAll t (s.through st calls)) := by
  induction calls generalizing st t with
  | nil => exact h
  | cons c calls ih =>
    obtain ⟨t', hholds, hend⟩ := hs.call c t st h
    change Holds (s.makeAll (s.call c st).2 calls) _
    unfold through
    generalize s.call c st = r at hholds hend ⊢
    obtain ⟨answer, st'⟩ := r
    cases answer with
    | ok _ =>
      obtain rfl := hend
      exact ih hholds
    | error fault =>
      obtain rfl := hend
      exact ih hholds

theorem get_shared (h : Holds w.store t) (k : String) :
    Holds (s.shared.get k w).2.store (memory.makeAll t (s.through w.store w.next)) ∧
      ∀ v, (s.shared.get k w).1 = .ok v →
        v = (memory.makeAll t (s.through w.store w.next)).get? k := by
  obtain ⟨t', hholds, hend⟩ := hs.get k _ _ (hs.makeAll h w.next)
  have hrun : s.shared.get k w = ((s.get k (s.makeAll w.store w.next)).1,
      ⟨(s.get k (s.makeAll w.store w.next)).2, w.others.tail⟩) := rfl
  rw [hrun]
  generalize s.get k (s.makeAll w.store w.next) = r at hholds hend
  obtain ⟨answer, st⟩ := r
  cases answer with
  | ok v =>
    obtain ⟨rfl, rfl⟩ := hend
    exact ⟨hholds, fun v h => (Except.ok.inj h).symm⟩
  | error fault =>
    obtain rfl := hend
    exact ⟨hholds, fun v h => by cases h⟩

/-- What a snapshot answers is the record of its reading. -/
theorem eq_record_of_snapshot (h : Holds w.store t) {kept : PersistedSession}
    (hkept : (s.shared.snapshot w).1 = .ok kept) : kept = (s.readingOn w t).record := by
  obtain ⟨handle, hhandle, hkept⟩ := exists_of_bind hkept
  obtain ⟨token, htoken, hkept⟩ := exists_of_bind hkept
  obtain ⟨state, hstate, hkept⟩ := exists_of_bind hkept
  obtain rfl := Except.ok.inj hkept
  obtain ⟨hw₁, hread₁⟩ := hs.get_shared h handleKey
  obtain ⟨hw₂, hread₂⟩ := hs.get_shared hw₁ tokenKey
  obtain ⟨-, hread₃⟩ := hs.get_shared hw₂ stateKey
  rw [Reading.record_eq, hread₁ handle hhandle, hread₂ token htoken, hread₃ state hstate]
  rfl

end Storage.Faltering

namespace Storage.Reliable

variable {s : Storage σ} {Holds : σ → Entries → Prop} {w : Shared σ} {t : Entries}
  (hs : s.Reliable Holds)
include hs

theorem call (c : KeyCall) : Mirrors Holds (s.call c) (memory.call c) := by
  cases c with
  | set k v => exact hs.set k v
  | get k => exact (hs.get k).bind fun _ => .pure _
  | remove k => exact (hs.remove k).bind fun _ => .pure _
  | take k => exact (hs.take k).bind fun _ => .pure _

theorem through_eq {st : σ} (h : Holds st t) (calls : List KeyCall) :
    s.through st calls = calls := by
  induction calls generalizing st t with
  | nil => rfl
  | cons c calls ih =>
    obtain ⟨hanswer, hholds⟩ := hs.call c st t h
    have hmemory : (memory.call c t).1 = .ok () := by cases c <;> rfl
    rw [hmemory] at hanswer
    unfold through
    generalize s.call c st = r at hanswer hholds
    obtain ⟨answer, st'⟩ := r
    obtain rfl : answer = .ok () := hanswer
    exact congrArg (c :: ·) (ih hholds)

theorem get_shared (h : Holds w.store t) (k : String) :
    (∃ v, (s.shared.get k w).1 = .ok v) ∧
      Holds (s.shared.get k w).2.store (memory.makeAll t w.next) ∧
      (s.shared.get k w).2.others = w.others.tail := by
  obtain ⟨hholds, -⟩ := hs.faltering.get_shared h k
  have hmade := hs.faltering.makeAll h w.next
  rw [hs.through_eq h] at hholds hmade
  exact ⟨⟨_, (hs.get k _ _ hmade).1⟩, hholds, rfl⟩

/-- If no call fails, all of them go through, and a snapshot answers. -/
theorem snapshot_shared (h : Holds w.store t) :
    s.readingOn w t = ⟨memory.makeAll t w.next, w.others.tail.headD [],
        w.others.tail.tail.headD []⟩ ∧
      (s.shared.snapshot w).1 = .ok (s.readingOn w t).record := by
  obtain ⟨⟨handle, hhandle⟩, hw₁, hothers₁⟩ := hs.get_shared h handleKey
  obtain ⟨⟨token, htoken⟩, hw₂, hothers₂⟩ := hs.get_shared hw₁ tokenKey
  obtain ⟨⟨state, hstate⟩, -, -⟩ := hs.get_shared hw₂ stateKey
  have hanswer : (s.shared.snapshot w).1 = .ok ⟨handle, token, state⟩ := by
    unfold Storage.snapshot
    rw [bind_of_ok hhandle, bind_of_ok htoken, bind_of_ok hstate]
    rfl
  refine ⟨?_, hanswer.trans (congrArg _ (hs.faltering.eq_record_of_snapshot h hanswer))⟩
  unfold readingOn Shared.next
  dsimp only
  rw [hs.through_eq h, hs.through_eq hw₁, hs.through_eq hw₂, hothers₂, hothers₁]

end Storage.Reliable

end SignIn
