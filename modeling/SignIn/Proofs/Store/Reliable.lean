import SignIn.LoginFlow
import SignIn.Session.OpenManagers

/-!
# Stores that never fail

A program over one state mirrors a program over another if both answer alike from related states
and leave related states behind. A storage is reliable if its calls mirror those of the storage in
memory: they never fail, and what they answer is what a finite map from texts to texts answers.
Whatever is built from such calls mirrors what is built from the calls in memory, so that only
memory has to be looked at.
-/

namespace SignIn

variable {σ τ ε α β : Type}

section Programs

variable (s : σ) (a : α) (fault : ε)

@[simp] theorem pure_apply : (pure a : ExceptT ε (StateM σ) α) s = (.ok a, s) := rfl

@[simp] theorem throw_apply : (throw fault : ExceptT ε (StateM σ) α) s = (.error fault, s) := rfl

@[simp] theorem get_apply : (get : ExceptT ε (StateM σ) σ) s = (.ok s, s) := rfl

@[simp] theorem bind_apply (x : ExceptT ε (StateM σ) α) (f : α → ExceptT ε (StateM σ) β) :
    (x >>= f) s = match x s with
      | (.ok a, s) => f a s
      | (.error fault, s) => (.error fault, s) := by
  change ExceptT.bindCont f (x s).1 (x s).2 = _
  obtain ⟨answer, s'⟩ := x s
  cases answer <;> rfl

variable {s a} in
theorem bind_of_ok {x : ExceptT ε (StateM σ) α} (h : (x s).1 = .ok a)
    (f : α → ExceptT ε (StateM σ) β) : (x >>= f) s = f a (x s).2 := by
  rw [bind_apply]
  generalize x s = r at h
  obtain ⟨answer, s'⟩ := r
  obtain rfl : answer = .ok a := h
  rfl

variable {s} in
theorem exists_of_bind {x : ExceptT ε (StateM σ) α} {f : α → ExceptT ε (StateM σ) β} {b : β}
    (h : ((x >>= f) s).1 = .ok b) : ∃ a, (x s).1 = .ok a ∧ (f a (x s).2).1 = .ok b := by
  rw [bind_apply] at h
  generalize x s = r at h
  obtain ⟨fault | a, s'⟩ := r
  · cases h
  · exact ⟨a, rfl, h⟩

@[simp] theorem map_apply (f : α → β) (x : ExceptT ε (StateM σ) α) :
    (f <$> x) s = match x s with
      | (.ok a, s) => (.ok (f a), s)
      | (.error fault, s) => (.error fault, s) := by
  rw [← bind_pure_comp, bind_apply]
  rfl

@[simp] theorem ofExcept_apply (r : Except ε α) :
    (MonadExcept.ofExcept r : ExceptT ε (StateM σ) α) s = (r, s) := by
  cases r <;> rfl

@[simp] theorem tryCatch_apply (x : ExceptT ε (StateM σ) α) (f : ε → ExceptT ε (StateM σ) α) :
    (tryCatch x f : ExceptT ε (StateM σ) α) s = match x s with
      | (.ok a, s) => (.ok a, s)
      | (.error fault, s) => f fault s := by
  have hbind : ∀ g : Except ε α → StateM σ (Except ε α), StateT.bind x g s = g (x s).1 (x s).2 :=
    fun _ => rfl
  change ExceptT.tryCatch x f s = _
  unfold ExceptT.tryCatch ExceptT.mk
  change StateT.bind x _ s = _
  rw [hbind]
  obtain ⟨answer, s'⟩ := x s
  cases answer <;> rfl

end Programs

/-- The programs answer alike from related states, and leave related states behind. -/
def Mirrors (Holds : σ → τ → Prop) (x : ExceptT ε (StateM σ) α) (y : ExceptT ε (StateM τ) α) :
    Prop :=
  ∀ s t, Holds s t → (x s).1 = (y t).1 ∧ Holds (x s).2 (y t).2

namespace Mirrors

variable {Holds : σ → τ → Prop}

theorem pure (a : α) :
    Mirrors Holds (Pure.pure a : ExceptT ε (StateM σ) α) (Pure.pure a) :=
  fun _ _ h => ⟨rfl, h⟩

theorem throw (fault : ε) :
    Mirrors Holds (throw fault : ExceptT ε (StateM σ) α) (MonadExcept.throw fault) :=
  fun _ _ h => ⟨rfl, h⟩

theorem ofExcept (r : Except ε α) :
    Mirrors Holds (MonadExcept.ofExcept r : ExceptT ε (StateM σ) α) (MonadExcept.ofExcept r) := by
  intro s t h
  rw [ofExcept_apply, ofExcept_apply]
  exact ⟨rfl, h⟩

theorem bind {x : ExceptT ε (StateM σ) α} {y : ExceptT ε (StateM τ) α}
    {f : α → ExceptT ε (StateM σ) β} {g : α → ExceptT ε (StateM τ) β}
    (hxy : Mirrors Holds x y) (hfg : ∀ a, Mirrors Holds (f a) (g a)) :
    Mirrors Holds (x >>= f) (y >>= g) := by
  intro s t h
  have hrun := hxy s t h
  rw [bind_apply, bind_apply]
  generalize x s = r, y t = r' at hrun
  obtain ⟨answer, s'⟩ := r
  obtain ⟨answer', t'⟩ := r'
  obtain ⟨rfl, hstate⟩ := hrun
  cases answer with
  | ok a => exact hfg a s' t' hstate
  | error fault => exact ⟨rfl, hstate⟩

theorem tryCatch {x : ExceptT ε (StateM σ) α} {y : ExceptT ε (StateM τ) α}
    {f : ε → ExceptT ε (StateM σ) α} {g : ε → ExceptT ε (StateM τ) α}
    (hxy : Mirrors Holds x y) (hfg : ∀ fault, Mirrors Holds (f fault) (g fault)) :
    Mirrors Holds (MonadExcept.tryCatch x f) (MonadExcept.tryCatch y g) := by
  intro s t h
  have hrun := hxy s t h
  rw [tryCatch_apply, tryCatch_apply]
  generalize x s = r, y t = r' at hrun
  obtain ⟨answer, s'⟩ := r
  obtain ⟨answer', t'⟩ := r'
  obtain ⟨rfl, hstate⟩ := hrun
  cases answer with
  | ok a => exact ⟨rfl, hstate⟩
  | error fault => exact hfg fault s' t' hstate

end Mirrors

/-- The calls of the storage are those of the storage in memory, over other states. -/
structure Storage.Reliable (s : Storage σ) (Holds : σ → Entries → Prop) : Prop where
  set (k v : String) : Mirrors Holds (s.set k v) (Storage.memory.set k v)
  get (k : String) : Mirrors Holds (s.get k) (Storage.memory.get k)
  remove (k : String) : Mirrors Holds (s.remove k) (Storage.memory.remove k)
  take (k : String) : Mirrors Holds (s.take k) (Storage.memory.take k)

namespace Storage.Reliable

variable {s : Storage σ} {Holds : σ → Entries → Prop} (hs : s.Reliable Holds)
include hs

theorem has (k : String) : Mirrors Holds (s.has k) (memory.has k) :=
  (hs.get k).bind fun _ => .pure _

theorem snapshot : Mirrors Holds s.snapshot memory.snapshot :=
  (hs.get handleKey).bind fun _ => (hs.get tokenKey).bind fun _ =>
    (hs.get stateKey).bind fun _ => .pure _

theorem clear : Mirrors Holds s.clear memory.clear :=
  (hs.remove handleKey).bind fun _ => (hs.remove tokenKey).bind fun _ =>
    (hs.remove stateKey).bind fun _ => .pure _

end Storage.Reliable

theorem Entries.erase_of_get?_eq_none {e : Entries} {k : String} (h : e.get? k = none) :
    e.erase k = e := by
  ext k' : 1
  by_cases hk : k' = k
  · subst hk
    simp [h]
  · simp [hk]

namespace Storage

theorem memory_reliable : memory.Reliable Eq where
  set _ _ := by rintro s _ rfl; exact ⟨rfl, rfl⟩
  get _ := by rintro s _ rfl; exact ⟨rfl, rfl⟩
  remove _ := by rintro s _ rfl; exact ⟨rfl, rfl⟩
  take _ := by rintro s _ rfl; exact ⟨rfl, rfl⟩

/-- Taking in two steps is taking at once, where nothing comes between the steps. -/
theorem takeInSteps_memory (k : String) (e : Entries) :
    takeInSteps Memory.get Memory.remove k e = (Except.ok (e.get? k), e.erase k) := by
  cases h : e.get? k with
  | none => simp [takeInSteps, Memory.get, h, Entries.erase_of_get?_eq_none]
  | some v => simp [takeInSteps, Memory.get, Memory.remove, h]

/-- A storage that takes in two steps is reliable if the calls are that it is made of. -/
theorem ofBasic_reliable {Holds : σ → Entries → Prop} {set : String → String → Access σ Unit}
    {get : String → Access σ (Option String)} {remove : String → Access σ Bool}
    (hset : ∀ k v, Mirrors Holds (set k v) (Memory.set k v))
    (hget : ∀ k, Mirrors Holds (get k) (Memory.get k))
    (hremove : ∀ k, Mirrors Holds (remove k) (Memory.remove k)) :
    (ofBasic set get remove).Reliable Holds where
  set := hset
  get := hget
  remove := hremove
  take k := by
    have hsteps : Mirrors Holds (takeInSteps get remove k)
        (takeInSteps Memory.get Memory.remove k) := by
      refine (hget k).bind fun v => ?_
      cases v with
      | none => exact .pure none
      | some v =>
        refine (hremove k).bind fun removed => ?_
        cases removed <;> exact .pure _
    intro s e h
    have hmemory := takeInSteps_memory k e
    have := hsteps s e h
    rw [hmemory] at this
    exact this

theorem plain_reliable : plain.Reliable Eq :=
  ofBasic_reliable memory_reliable.set memory_reliable.get memory_reliable.remove

end Storage

/-- The storage is reliable, and opening it succeeds and changes nothing. -/
structure Platform.Reliable (p : Platform σ) (Holds : σ → Entries → Prop) : Prop where
  storage : p.storage.Reliable Holds
  opens : Mirrors Holds p.openStore (Pure.pure () : Access Entries Unit)

/-- The same endpoints with a store in memory. -/
def Platform.inMemory (p : Platform σ) : Platform Entries :=
  ⟨Storage.memory, Pure.pure (), p.endpoints⟩

end SignIn
