import SignIn.Proofs.Store.File
import SignIn.Store.Handles

/-!
# All stores are one map

Whatever keeps a store, it answers as one map from texts to texts, on every call, through every
handle, and it keeps what that map keeps. The map is defined here, call by call; that the storage in
memory is this map is looked at once, and every other storage mirrors the one in memory.
-/

namespace SignIn

/-- A map from keys to values. -/
abbrev KeyMap := String → Option String

namespace KeyMap

def write (m : KeyMap) (k : String) (v : Option String) : KeyMap :=
  fun k' => if k' = k then v else m k'

/-- The answer of the map to a call. -/
def answer (m : KeyMap) : StoreCall → StoreAnswer
  | .get k | .take k => .value (m k)
  | .remove k | .has k => .flag (m k).isSome
  | .set _ _ => .done

/-- The map after a call. -/
def after (m : KeyMap) : StoreCall → KeyMap
  | .set k v => m.write k (some v)
  | .remove k | .take k => m.write k none
  | .get _ | .has _ => m

/-- The answer of the map to a call on what is kept of the session. -/
def sessionAnswer (m : KeyMap) : SessionCall → StoreAnswer
  | .snapshot => .session ⟨m handleKey, m tokenKey, m stateKey⟩
  | .handle => .value (m handleKey)
  | .token => .value (m tokenKey)
  | .hasToken | .removeToken => .flag (m tokenKey).isSome
  | .pendingState | .takeState => .value (m stateKey)
  | .removeState => .flag (m stateKey).isSome
  | .setHandle _ | .setToken _ | .setState _ | .clear => .done

/-- The map after a call on what is kept of the session. -/
def sessionAfter (m : KeyMap) : SessionCall → KeyMap
  | .setHandle v => m.write handleKey (some v)
  | .setToken v => m.write tokenKey (some v)
  | .removeToken => m.write tokenKey none
  | .setState v => m.write stateKey (some v)
  | .takeState | .removeState => m.write stateKey none
  | .clear => ((m.write handleKey none).write tokenKey none).write stateKey none
  | .snapshot | .handle | .token | .hasToken | .pendingState => m

/-- A call through one of the handles, given what it answers and the map after it. -/
def through (u : InUse KeyMap) (handle : Nat) (a : StoreAnswer) (m : KeyMap) :
    Option StoreAnswer × InUse KeyMap :=
  if handle < u.handles then (some a, ⟨m, u.handles⟩) else (none, u)

/-- A step of the map, which any number of handles share. -/
def step (u : InUse KeyMap) : StoreStep → Option StoreAnswer × InUse KeyMap
  | .openHandle => (some .done, ⟨u.store, u.handles + 1⟩)
  | .call handle c => through u handle (u.store.answer c) (u.store.after c)
  | .onSession handle c => through u handle (u.store.sessionAnswer c) (u.store.sessionAfter c)

def run (u : InUse KeyMap) : List StoreStep → List (Option StoreAnswer) × InUse KeyMap
  | [] => ([], u)
  | s :: steps =>
    let (a, u) := step u s
    let (as, u) := run u steps
    (a :: as, u)

theorem write_of_ne {m : KeyMap} {k k' : String} (h : k' ≠ k) (v : Option String) :
    m.write k v k' = m k' :=
  if_neg h

/-- A call on what is kept of the session leaves every key alone but its three. -/
theorem sessionAfter_of_not_mem {m : KeyMap} {k : String} (hk : k ∉ sessionKeys)
    (c : SessionCall) : m.sessionAfter c k = m k := by
  obtain ⟨hhandle, htoken, hstate⟩ : k ≠ handleKey ∧ k ≠ tokenKey ∧ k ≠ stateKey := by
    simpa [sessionKeys] using hk
  cases c with
  | setHandle => exact write_of_ne hhandle _
  | setToken | removeToken => exact write_of_ne htoken _
  | setState | takeState | removeState => exact write_of_ne hstate _
  | clear =>
    exact ((write_of_ne hstate _).trans (write_of_ne htoken _)).trans (write_of_ne hhandle _)
  | snapshot | handle | token | hasToken | pendingState => rfl

end KeyMap

theorem Entries.get?_set_eq (e : Entries) (k v : String) :
    (e.set k v).get? = KeyMap.write e.get? k (some v) :=
  funext fun k' => e.get?_set k k' v

theorem Entries.get?_erase_eq (e : Entries) (k : String) :
    (e.erase k).get? = KeyMap.write e.get? k none :=
  funext fun k' => e.get?_erase k k'

namespace Storage

theorem perform_memory (c : StoreCall) (e : Entries) :
    ∃ e', memory.perform c e = (.ok (KeyMap.answer e.get? c), e') ∧
      e'.get? = KeyMap.after e.get? c := by
  cases c with
  | set k v => exact ⟨e.set k v, rfl, e.get?_set_eq k v⟩
  | remove k | take k => exact ⟨e.erase k, rfl, e.get?_erase_eq k⟩
  | get k | has k => exact ⟨e, rfl, rfl⟩

theorem performOnSession_memory (c : SessionCall) (e : Entries) :
    ∃ e', memory.performOnSession c e = (.ok (KeyMap.sessionAnswer e.get? c), e') ∧
      e'.get? = KeyMap.sessionAfter e.get? c := by
  cases c with
  | setHandle v => exact ⟨e.set handleKey v, rfl, e.get?_set_eq handleKey v⟩
  | setToken v => exact ⟨e.set tokenKey v, rfl, e.get?_set_eq tokenKey v⟩
  | setState v => exact ⟨e.set stateKey v, rfl, e.get?_set_eq stateKey v⟩
  | removeToken => exact ⟨e.erase tokenKey, rfl, e.get?_erase_eq tokenKey⟩
  | takeState | removeState => exact ⟨e.erase stateKey, rfl, e.get?_erase_eq stateKey⟩
  | clear =>
    refine ⟨((e.erase handleKey).erase tokenKey).erase stateKey, rfl, ?_⟩
    rw [Entries.get?_erase_eq, Entries.get?_erase_eq, Entries.get?_erase_eq]
    rfl
  | snapshot | handle | token | hasToken | pendingState => exact ⟨e, rfl, rfl⟩

section Reliable

variable {σ : Type} {s : Storage σ} {Holds : σ → Entries → Prop} (h : s.Reliable Holds)
include h

theorem Reliable.perform (c : StoreCall) : Mirrors Holds (s.perform c) (memory.perform c) := by
  cases c with
  | set k v => exact (h.set k v).bind fun _ => .pure _
  | get k => exact (h.get k).bind fun _ => .pure _
  | remove k => exact (h.remove k).bind fun _ => .pure _
  | take k => exact (h.take k).bind fun _ => .pure _
  | has k => exact (h.has k).bind fun _ => .pure _

theorem Reliable.performOnSession (c : SessionCall) :
    Mirrors Holds (s.performOnSession c) (memory.performOnSession c) := by
  cases c with
  | snapshot => exact h.snapshot.bind fun _ => .pure _
  | handle => exact (h.get handleKey).bind fun _ => .pure _
  | setHandle v => exact (h.set handleKey v).bind fun _ => .pure _
  | token => exact (h.get tokenKey).bind fun _ => .pure _
  | setToken v => exact (h.set tokenKey v).bind fun _ => .pure _
  | hasToken => exact (h.has tokenKey).bind fun _ => .pure _
  | removeToken => exact (h.remove tokenKey).bind fun _ => .pure _
  | setState v => exact (h.set stateKey v).bind fun _ => .pure _
  | pendingState => exact (h.get stateKey).bind fun _ => .pure _
  | takeState => exact (h.take stateKey).bind fun _ => .pure _
  | removeState => exact (h.remove stateKey).bind fun _ => .pure _
  | clear => exact h.clear.bind fun _ => .pure _

end Reliable

end Storage

/-! ## Stores in use -/

section

variable {σ : Type} {b : Backend σ} {Fits Holds : σ → Entries → Prop}

/-- The store can be opened where it fits, and it never fails once it was opened. -/
structure Backend.Reliable (b : Backend σ) (Fits Holds : σ → Entries → Prop) : Prop where
  opens : ∀ s e, Fits s e → ∃ s', b.openHandle s = (.ok (), s') ∧ Holds s' e
  storage : b.storage.Reliable Holds
  fits : ∀ s e, Holds s e → Fits s e

/-- A store and a map in use hold the same, and have as many handles. -/
structure InUse.Agrees (Fits Holds : σ → Entries → Prop) (u : InUse σ) (v : InUse KeyMap) :
    Prop where
  handles : u.handles = v.handles
  holds : ∃ e, e.get? = v.store ∧ Fits u.store e ∧ (0 < u.handles → Holds u.store e)

namespace InUse

theorem Agrees.through (hb : b.Reliable Fits Holds) {u : InUse σ} {v : InUse KeyMap}
    (h : u.Agrees Fits Holds v) {call : Access σ StoreAnswer} {plain : Access Entries StoreAnswer}
    (hcall : Mirrors Holds call plain) {a : StoreAnswer} {m : KeyMap}
    (hplain : ∀ e : Entries, e.get? = v.store → ∃ e', plain e = (.ok a, e') ∧ e'.get? = m)
    (handle : Nat) :
    (u.through handle call).1 = (KeyMap.through v handle a m).1.map .ok ∧
      (u.through handle call).2.Agrees Fits Holds (KeyMap.through v handle a m).2 := by
  obtain ⟨hhandles, e, he, hfits, hholds⟩ := h
  by_cases hopen : handle < u.handles
  · obtain ⟨e', hmemory, he'⟩ := hplain e he
    have hmirror := hcall u.store e (hholds (by omega))
    rw [hmemory] at hmirror
    obtain ⟨hanswer, hstore⟩ := hmirror
    simp only [InUse.through, KeyMap.through, if_pos hopen, if_pos (hhandles ▸ hopen)]
    exact ⟨congrArg some hanswer, hhandles, e', he', hb.fits _ _ hstore, fun _ => hstore⟩
  · simp only [InUse.through, KeyMap.through, if_neg hopen, if_neg (hhandles ▸ hopen)]
    exact ⟨rfl, hhandles, e, he, hfits, hholds⟩

theorem Agrees.step (hb : b.Reliable Fits Holds) {u : InUse σ} {v : InUse KeyMap}
    (h : u.Agrees Fits Holds v) (s : StoreStep) :
    (u.step b s).1 = (KeyMap.step v s).1.map .ok ∧
      (u.step b s).2.Agrees Fits Holds (KeyMap.step v s).2 := by
  cases s with
  | openHandle =>
    obtain ⟨hhandles, e, he, hfits, hholds⟩ := h
    obtain ⟨store, hopen, hstore⟩ := hb.opens u.store e hfits
    rw [InUse.step, hopen]
    exact ⟨rfl, congrArg (· + 1) hhandles, e, he, hb.fits _ _ hstore, fun _ => hstore⟩
  | call handle c =>
    refine h.through hb (hb.storage.perform c) (fun e he => ?_) handle
    rw [← he]
    exact Storage.perform_memory c e
  | onSession handle c =>
    refine h.through hb (hb.storage.performOnSession c) (fun e he => ?_) handle
    rw [← he]
    exact Storage.performOnSession_memory c e

/-- Whatever is done with a reliable store is answered as by the map, and they agree after it. -/
theorem Agrees.run (hb : b.Reliable Fits Holds) (steps : List StoreStep) {u : InUse σ}
    {v : InUse KeyMap} (h : u.Agrees Fits Holds v) :
    (u.run b steps).1 = (KeyMap.run v steps).1.map (·.map .ok) ∧
      (u.run b steps).2.Agrees Fits Holds (KeyMap.run v steps).2 := by
  induction steps generalizing u v with
  | nil => exact ⟨rfl, h⟩
  | cons s steps ih =>
    obtain ⟨hanswer, hstep⟩ := h.step hb s
    obtain ⟨hanswers, hrun⟩ := ih hstep
    refine ⟨?_, hrun⟩
    rw [InUse.run, KeyMap.run, List.map_cons, ← hanswer, ← hanswers]

end InUse

theorem Backend.Reliable.run (hb : b.Reliable Fits Holds) {s : σ} {e : Entries} (h : Fits s e)
    (steps : List StoreStep) :
    ((InUse.mk s 0).run b steps).1 =
        (KeyMap.run ⟨e.get?, 0⟩ steps).1.map (·.map .ok) ∧
      ∃ e', Fits ((InUse.mk s 0).run b steps).2.store e' ∧
        e'.get? = (KeyMap.run ⟨e.get?, 0⟩ steps).2.store := by
  have hstart : (InUse.mk s 0).Agrees Fits Holds ⟨e.get?, 0⟩ :=
    ⟨rfl, e, rfl, h, fun hzero => absurd hzero (Nat.lt_irrefl 0)⟩
  obtain ⟨hanswers, -, e', he', hfits, -⟩ := hstart.run hb steps
  exact ⟨hanswers, e', hfits, he'⟩

end

theorem Backend.memory_reliable : Backend.memory.Reliable Eq Eq where
  opens s _ h := ⟨s, rfl, h⟩
  storage := Storage.memory_reliable
  fits _ _ h := h

theorem Backend.file_reliable (f : FileStore) : (Backend.file f).Reliable f.Fits f.Holds where
  opens _ _ h := h.openStore
  storage := f.storage_reliable
  fits _ _ h := h.toFits

/-- Whatever is asked of a store through any of its handles, opened at any time, be it about a key
or about the session, is answered as by one map: by the store in memory, by a store of three calls
that never fail, and by the store in a file, whose content decodes to that map. A call on what is
kept of the session changes no key but its three. -/
theorem stores_are_one_map (steps : List StoreStep) :
    (∀ e : Entries,
      ((InUse.mk e 0).run .memory steps).1 =
        (KeyMap.run ⟨e.get?, 0⟩ steps).1.map (·.map .ok) ∧
      ((InUse.mk e 0).run .memory steps).2.store.get? =
        (KeyMap.run ⟨e.get?, 0⟩ steps).2.store) ∧
    (∀ (σ : Type) (Holds : σ → Entries → Prop) (set : String → String → Access σ Unit)
      (get : String → Access σ (Option String)) (remove : String → Access σ Bool),
      (∀ k v, Mirrors Holds (set k v) (Storage.Memory.set k v)) →
      (∀ k, Mirrors Holds (get k) (Storage.Memory.get k)) →
      (∀ k, Mirrors Holds (remove k) (Storage.Memory.remove k)) →
      ∀ s e, Holds s e →
        ((InUse.mk s 0).run (.ofBasic set get remove) steps).1 =
          (KeyMap.run ⟨e.get?, 0⟩ steps).1.map (·.map .ok) ∧
        ∃ e', Holds ((InUse.mk s 0).run (.ofBasic set get remove) steps).2.store e' ∧
          e'.get? = (KeyMap.run ⟨e.get?, 0⟩ steps).2.store) ∧
    (∀ (f : FileStore) (d : Disk) (e : Entries), f.Fits d e →
      ((InUse.mk d 0).run (.file f) steps).1 =
        (KeyMap.run ⟨e.get?, 0⟩ steps).1.map (·.map .ok) ∧
      ∃ e', f.Contains ((InUse.mk d 0).run (.file f) steps).2.store e' ∧
        e'.get? = (KeyMap.run ⟨e.get?, 0⟩ steps).2.store) ∧
    ∀ (m : KeyMap) (c : SessionCall), ∀ k ∉ sessionKeys, m.sessionAfter c k = m k := by
  refine ⟨fun e => ?_, fun σ Holds set get remove hset hget hremove s e h => ?_,
    fun f d e h => ?_, fun m c k hk => KeyMap.sessionAfter_of_not_mem hk c⟩
  · obtain ⟨hanswers, e', rfl, he'⟩ := Backend.memory_reliable.run (e := e) rfl steps
    exact ⟨hanswers, he'⟩
  · have hb : (Backend.ofBasic set get remove).Reliable Holds Holds :=
      { opens := fun s _ h => ⟨s, rfl, h⟩
        storage := Storage.ofBasic_reliable hset hget hremove
        fits := fun _ _ h => h }
    exact hb.run h steps
  · obtain ⟨hanswers, e', hfits, he'⟩ := (Backend.file_reliable f).run h steps
    exact ⟨hanswers, e', hfits.content, he'⟩

/-- What one handle sets is taken by a handle that was opened later, and is gone for both. -/
theorem stores_are_one_map_on_new_disk :
    let steps : List StoreStep := [.openHandle, .call 0 (.set "key" "v\n\"ü\""), .openHandle,
      .call 1 (.take "key"), .call 0 (.get "key"), .onSession 1 (.setState "ü"),
      .onSession 0 .takeState, .onSession 1 .pendingState, .onSession 0 .hasToken,
      .onSession 2 .snapshot]
    let answers : List (Option (Except StoreFault StoreAnswer)) := [some (.ok .done),
      some (.ok .done), some (.ok .done), some (.ok (.value (some "v\n\"ü\""))),
      some (.ok (.value none)), some (.ok .done), some (.ok (.value (some "ü"))),
      some (.ok (.value none)), some (.ok (.flag false)), none]
    let f : FileStore := ⟨["base"], "session.json", "base/session.json"⟩
    f.Fits {} .empty ∧ ((InUse.mk {} 0).run (.file f) steps).1 = answers ∧
      ((InUse.mk .empty 0).run (.ofBasic Storage.Memory.set Storage.Memory.get
        Storage.Memory.remove) steps).1 = answers := by
  intro steps answers f
  have hnode : ∀ q : FilePath, ∀ content isPrivate,
      ({} : Disk).find? q ≠ some (.file content isPrivate) := by
    intro q content isPrivate
    rw [Disk.find?]
    split <;> simp [Disk.nodeAt]
  have hfits : f.Fits {} .empty :=
    ⟨fun _ => rfl, fun k _ => hnode _, by decide, Or.inl ⟨by decide, rfl⟩⟩
  obtain ⟨-, hbasic, hfile, -⟩ := stores_are_one_map steps
  refine ⟨hfits, (hfile f {} .empty hfits).1, ?_⟩
  exact (hbasic Entries Eq _ _ _ Storage.memory_reliable.set Storage.memory_reliable.get
    Storage.memory_reliable.remove .empty .empty rfl).1

end SignIn
