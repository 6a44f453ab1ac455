import SignIn.Proofs.Store.Reliable

/-!
# Stores whose calls may fail

A program over a store that may fail has two ways to end, with an answer or with a fault, and is
described by what holds of the entries in either case. Of a single call nothing more is asked than
that it goes as in memory or fails and changes nothing; which calls fail, and why, is left open.
What several calls come to follows by the rules for programs.
-/

namespace SignIn

variable {σ τ ε α β : Type}

/-- From every state that holds `t` the program ends, either with an answer such that `Q` holds or
with a fault such that `E` holds of what the state holds then. -/
def Ends (Holds : σ → τ → Prop) (x : ExceptT ε (StateM σ) α) (t : τ) (Q : α → τ → Prop)
    (E : ε → τ → Prop) : Prop :=
  ∀ s, Holds s t → ∃ t', Holds (x s).2 t' ∧
    match (x s).1 with
    | .ok a => Q a t'
    | .error fault => E fault t'

namespace Ends

variable {Holds : σ → τ → Prop} {t : τ} {Q Q' : α → τ → Prop} {E E' : ε → τ → Prop}
  {x : ExceptT ε (StateM σ) α}

theorem mono (hx : Ends Holds x t Q E) (hQ : ∀ a t', Q a t' → Q' a t')
    (hE : ∀ fault t', E fault t' → E' fault t') : Ends Holds x t Q' E' := by
  intro s hs
  obtain ⟨t', hholds, hend⟩ := hx s hs
  refine ⟨t', hholds, ?_⟩
  cases hr : (x s).1 with
  | ok a =>
    rw [hr] at hend
    exact hQ a t' hend
  | error fault =>
    rw [hr] at hend
    exact hE fault t' hend

theorem pure {a : α} (h : Q a t) : Ends Holds (Pure.pure a : ExceptT ε (StateM σ) α) t Q E :=
  fun _ hs => ⟨t, hs, h⟩

theorem throw {fault : ε} (h : E fault t) :
    Ends Holds (MonadExcept.throw fault : ExceptT ε (StateM σ) α) t Q E :=
  fun _ hs => ⟨t, hs, h⟩

theorem ofExcept {r : Except ε α} (hok : ∀ a, r = .ok a → Q a t)
    (herror : ∀ fault, r = .error fault → E fault t) :
    Ends Holds (MonadExcept.ofExcept r : ExceptT ε (StateM σ) α) t Q E := by
  intro s hs
  rw [ofExcept_apply]
  cases r with
  | ok a => exact ⟨t, hs, hok a rfl⟩
  | error fault => exact ⟨t, hs, herror fault rfl⟩

theorem bind {R : β → τ → Prop} {f : α → ExceptT ε (StateM σ) β}
    (hx : Ends Holds x t (fun a t' => Ends Holds (f a) t' R E) E) :
    Ends Holds (x >>= f) t R E := by
  intro s hs
  obtain ⟨t', hholds, hend⟩ := hx s hs
  rw [bind_apply]
  generalize x s = r at hholds hend
  obtain ⟨answer, s'⟩ := r
  cases answer with
  | ok a => exact hend s' hholds
  | error fault => exact ⟨t', hholds, hend⟩

theorem tryCatch {f : ε → ExceptT ε (StateM σ) α}
    (hx : Ends Holds x t Q fun fault t' => Ends Holds (f fault) t' Q E) :
    Ends Holds (MonadExcept.tryCatch x f) t Q E := by
  intro s hs
  obtain ⟨t', hholds, hend⟩ := hx s hs
  rw [tryCatch_apply]
  generalize x s = r at hholds hend
  obtain ⟨answer, s'⟩ := r
  cases answer with
  | ok a => exact ⟨t', hholds, hend⟩
  | error fault => exact hend s' hholds

end Ends

/-- Each call goes as the call in memory, or fails and changes nothing. -/
structure Storage.Faltering (s : Storage σ) (Holds : σ → Entries → Prop) : Prop where
  set (k v : String) (t : Entries) :
    Ends Holds (s.set k v) t (fun _ t' => t' = t.set k v) fun _ t' => t' = t
  get (k : String) (t : Entries) :
    Ends Holds (s.get k) t (fun v t' => v = t.get? k ∧ t' = t) fun _ t' => t' = t
  remove (k : String) (t : Entries) :
    Ends Holds (s.remove k) t (fun _ t' => t' = t.erase k) fun _ t' => t' = t
  take (k : String) (t : Entries) :
    Ends Holds (s.take k) t (fun v t' => v = t.get? k ∧ t' = t.erase k) fun _ t' => t' = t

namespace Storage

variable {s : Storage σ} {Holds : σ → Entries → Prop}

theorem ends_of_mirrors {x : Access σ α} {y : Access Entries α} (hxy : Mirrors Holds x y)
    {t t' : Entries} {a : α} (hy : y t = (.ok a, t')) {Q : α → Entries → Prop} (h : Q a t')
    {E : StoreFault → Entries → Prop} : Ends Holds x t Q E := by
  intro st hst
  obtain ⟨hanswer, hholds⟩ := hxy st t hst
  rw [hy] at hanswer hholds
  refine ⟨t', hholds, ?_⟩
  rw [hanswer]
  exact h

theorem Reliable.faltering (hs : s.Reliable Holds) : s.Faltering Holds where
  set k v _ := ends_of_mirrors (hs.set k v) rfl rfl
  get k _ := ends_of_mirrors (hs.get k) rfl ⟨rfl, rfl⟩
  remove k _ := ends_of_mirrors (hs.remove k) rfl rfl
  take k _ := ends_of_mirrors (hs.take k) rfl ⟨rfl, rfl⟩

theorem ends_guardCall {τ θ : Type} {Keeps : σ → θ → Prop} (plan : τ → Call → String → Bool × τ)
    (call : Call) (k : String) {access : Access σ α} {t : θ} {Q : α → θ → Prop}
    (h : Ends Keeps access t Q fun _ t' => t' = t) :
    Ends (fun st t => Keeps st.1 t) (guardCall plan call k access) t Q fun _ t' => t' = t := by
  rintro ⟨st, u⟩ hst
  unfold guardCall
  dsimp only
  split
  · exact ⟨t, hst, rfl⟩
  · exact h st hst

/-- However a plan lets the calls of a store fail, this is such a store. -/
theorem Faltering.guarded {τ : Type} (hs : s.Faltering Holds)
    (plan : τ → Call → String → Bool × τ) :
    (s.guarded plan).Faltering fun st e => Holds st.1 e where
  set k v t := ends_guardCall plan .set k (hs.set k v t)
  get k t := ends_guardCall plan .get k (hs.get k t)
  remove k t := ends_guardCall plan .remove k (hs.remove k t)
  take k t := ends_guardCall plan .take k (hs.take k t)

end Storage

/-- The calls of the storage may fail, and so may the opening of the store, which changes nothing
in either case. -/
structure Platform.Faltering (p : Platform σ) (Holds : σ → Entries → Prop) : Prop where
  storage : p.storage.Faltering Holds
  opens (t : Entries) : Ends Holds p.openStore t (fun _ t' => t' = t) fun _ t' => t' = t

theorem Platform.Reliable.faltering {p : Platform σ} {Holds : σ → Entries → Prop}
    (hp : p.Reliable Holds) : p.Faltering Holds where
  storage := hp.storage.faltering
  opens _ := Storage.ends_of_mirrors hp.opens rfl rfl

end SignIn
