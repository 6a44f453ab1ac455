import SignIn.Proofs.Store.Reliable

/-!
# What keeps the store makes no difference

Over a reliable storage every step of a manager, and so every act of open managers, goes as it goes
over the storage in memory: with the same answer, the same managers, the same waiting calls and
the same notices, and with stores that hold the same entries.
-/

namespace SignIn

variable {σ τ α : Type}

/-- The states of a step differ in their stores only, and these are related. -/
def StepState.MirroredBy (Holds : σ → τ → Prop) (d : StepState σ) (d' : StepState τ) : Prop :=
  d.manager = d'.manager ∧ Holds d.store d'.store ∧ d.notices = d'.notices

variable {Holds : σ → τ → Prop}

namespace Mirrors

theorem asOp {x : Access σ α} {y : Access τ α} (hxy : Mirrors Holds x y) :
    Mirrors Holds (Access.asOp x) (Access.asOp y) := by
  intro s t h
  have hrun := hxy s t h
  unfold Access.asOp
  generalize x s = r, y t = r' at hrun
  obtain ⟨answer, s'⟩ := r
  obtain ⟨answer', t'⟩ := r'
  obtain ⟨rfl, hstate⟩ := hrun
  cases answer <;> exact ⟨rfl, hstate⟩

theorem onStore {x : StoreOp σ α} {y : StoreOp τ α} (hxy : Mirrors Holds x y) :
    Mirrors (StepState.MirroredBy Holds) (Manager.onStore x) (Manager.onStore y) := by
  rintro d d' ⟨hmanager, hstore, hnotices⟩
  obtain ⟨hanswer, hstate⟩ := hxy _ _ hstore
  exact ⟨hanswer, hmanager, hstate, hnotices⟩

theorem remember (f : Manager → Manager) :
    Mirrors (StepState.MirroredBy Holds) (Manager.remember f) (Manager.remember f) := by
  rintro d d' ⟨hmanager, hstore, hnotices⟩
  exact ⟨rfl, congrArg f hmanager, hstore, hnotices⟩

theorem advance (event : SessionEvent) :
    Mirrors (StepState.MirroredBy Holds) (Manager.advance event) (Manager.advance event) := by
  rintro ⟨m, store, notices⟩ ⟨m', store', notices'⟩ ⟨hmanager, hstore, hnotices⟩
  obtain rfl : m = m' := hmanager
  unfold Manager.advance
  cases m.phase.next? event with
  | none => exact ⟨rfl, rfl, hstore, hnotices⟩
  | some phase => exact ⟨rfl, rfl, hstore, hnotices⟩

theorem reading {f : StepState σ → Step σ α} {g : StepState τ → Step τ α}
    (hfg : ∀ d d', StepState.MirroredBy Holds d d' →
      Mirrors (StepState.MirroredBy Holds) (f d) (g d')) :
    Mirrors (StepState.MirroredBy Holds) (get >>= f) (get >>= g) := by
  intro d d' h
  rw [bind_apply, bind_apply]
  exact hfg d d' h d d' h

end Mirrors

variable {s : Storage σ} {Holds : σ → Entries → Prop}

namespace Storage.Reliable

variable (hs : s.Reliable Holds)
include hs

theorem issue (e : Endpoints) (state handle : String) (redirect : Url) :
    Mirrors Holds (LoginFlow.issue s e state handle redirect)
      (LoginFlow.issue memory e state handle redirect) :=
  (hs.set _ _).bind fun _ => (hs.set _ _).bind fun _ => .pure _

theorem prepare (e : Endpoints) (callback : String) :
    Mirrors Holds (LoginFlow.prepare s e callback) (LoginFlow.prepare memory e callback) := by
  refine (hs.take stateKey).asOp.bind fun kept => ?_
  cases kept with
  | none => exact .throw _
  | some expected => exact .ofExcept _

theorem deauthenticate (reason : DeauthReason) (epoch : Option Nat) :
    Mirrors (StepState.MirroredBy Holds) (Manager.deauthenticate s reason epoch)
      (Manager.deauthenticate memory reason epoch) := by
  rintro ⟨m, store, notices⟩ ⟨m', store', notices'⟩ ⟨hmanager, hstore, hnotices⟩
  obtain rfl : m = m' := hmanager
  obtain rfl : notices = notices' := hnotices
  unfold Manager.deauthenticate
  dsimp only
  split
  · exact ⟨rfl, rfl, hstore, rfl⟩
  · obtain ⟨hanswer, hstate⟩ := hs.clear.asOp _ _ hstore
    exact ⟨hanswer, rfl, hstate, rfl⟩

theorem openOn : Mirrors Holds (Manager.openOn s) (Manager.openOn memory) := by
  refine hs.snapshot.asOp.bind fun kept => ?_
  split
  · split
    · exact (hs.remove stateKey).asOp.bind fun _ => .pure _
    · exact .pure _
  · exact hs.clear.asOp.bind fun _ => .pure _
  · exact .pure _

theorem login (e : Endpoints) (state handle : String) (redirect : Url) :
    Mirrors (StepState.MirroredBy Holds) (Manager.login s e state handle redirect)
      (Manager.login memory e state handle redirect) := by
  have hissue : Mirrors (StepState.MirroredBy Holds)
      (do
        let url ← Manager.onStore (Access.asOp (LoginFlow.issue s e state handle redirect))
        Manager.remember fun m => Manager.nextEpoch { m with handle := some handle }
        Manager.advance .loginUrlIssued
        return url)
      (do
        let url ← Manager.onStore (Access.asOp (LoginFlow.issue memory e state handle redirect))
        Manager.remember fun m => Manager.nextEpoch { m with handle := some handle }
        Manager.advance .loginUrlIssued
        return url) :=
    (hs.issue e state handle redirect).asOp.onStore.bind fun _ =>
      (Mirrors.remember _).bind fun _ => (Mirrors.advance _).bind fun _ => .pure _
  refine .reading fun d d' h => ?_
  dsimp only
  rw [h.1]
  split
  · exact (Mirrors.remember _).bind fun _ =>
      (hs.remove tokenKey).asOp.onStore.bind fun _ => hissue
  · exact hissue

theorem adopt : Mirrors (StepState.MirroredBy Holds) (Manager.adopt s) (Manager.adopt memory) := by
  refine .reading fun d d' h => ?_
  dsimp only
  rw [h.1]
  split
  · exact .pure _
  · refine (hs.get stateKey).asOp.onStore.bind fun kept => ?_
    split
    · exact (Mirrors.remember _).bind fun _ => (hs.get handleKey).asOp.onStore.bind fun _ =>
        (Mirrors.remember _).bind fun _ => .advance _
    · exact .pure _

theorem startExchange (e : Endpoints) (callback : String) :
    Mirrors (StepState.MirroredBy Holds) (Manager.startExchange s e callback)
      (Manager.startExchange memory e callback) := by
  refine hs.adopt.bind fun _ => Mirrors.bind ?_ fun request => ?_
  · exact (hs.prepare e callback).onStore.tryCatch fun _ =>
      (Mirrors.remember _).bind fun _ => .throw _
  · refine (Mirrors.remember _).bind fun _ => .reading fun d d' h => ?_
    rw [h.1]
    exact .pure _

omit hs in
theorem giveUp (fault : AuthFault) :
    Mirrors (StepState.MirroredBy Holds) (Manager.giveUp fault : Step σ α) (Manager.giveUp fault) :=
  (Mirrors.remember _).bind fun _ => .throw _

theorem install (handle token : String) :
    Mirrors (StepState.MirroredBy Holds) (Manager.install s handle token)
      (Manager.install memory handle token) := by
  have hkept : Mirrors Holds
      (do
        s.set handleKey handle
        s.set tokenKey token)
      (do
        memory.set handleKey handle
        memory.set tokenKey token) :=
    (hs.set handleKey handle).bind fun _ => hs.set tokenKey token
  exact (hkept.asOp.onStore.tryCatch fun fault => giveUp fault).bind fun _ =>
    (Mirrors.remember _).bind fun _ => .advance _

theorem finishExchange (p : PendingExchange) (granted : Except AuthFault TokenResponse) :
    Mirrors (StepState.MirroredBy Holds) (Manager.finishExchange s p granted)
      (Manager.finishExchange memory p granted) := by
  refine (Mirrors.remember _).bind fun _ => .reading fun d d' h => ?_
  dsimp only
  rw [h.1]
  split
  · exact .throw _
  · cases granted with
    | error fault => exact giveUp fault
    | ok token =>
      dsimp only
      cases d'.manager.handle.or token.sub with
      | none => exact giveUp .missingHandle
      | some handle => exact (hs.install handle token.accessToken).bind fun _ => .pure _

theorem startFetch (e : Endpoints) (r : Request) :
    Mirrors (StepState.MirroredBy Holds) (Manager.startFetch s e r)
      (Manager.startFetch memory e r) := by
  refine .reading fun d d' h => ?_
  dsimp only
  rw [h.1]
  cases d'.manager.token with
  | none =>
    exact ((hs.deauthenticate .missingToken none).tryCatch fun _ => .pure _).bind fun _ =>
      .throw _
  | some token => exact (Mirrors.ofExcept _).bind fun _ => .pure _

theorem finishFetch (p : PendingFetch) (answer : Except AuthFault Response) :
    Mirrors (StepState.MirroredBy Holds) (Manager.finishFetch s p answer)
      (Manager.finishFetch memory p answer) := by
  unfold Manager.finishFetch
  split
  · exact ((hs.deauthenticate .rejected (some p.epoch)).tryCatch fun _ => .pure _).bind fun _ =>
      .throw _
  · exact .throw _
  · exact .pure _

theorem logout :
    Mirrors (StepState.MirroredBy Holds) (Manager.logout s) (Manager.logout memory) :=
  hs.deauthenticate .logout none

end Storage.Reliable

/-- The managers are the same, with their calls and notices, and their stores are related. -/
structure OpenManagers.MirroredBy (Holds : σ → τ → Prop) (o : OpenManagers σ)
    (o' : OpenManagers τ) : Prop where
  store : Holds o.store o'.store
  managers : o.managers = o'.managers
  waiting : o.waiting = o'.waiting
  issued : o.issued = o'.issued
  notices : o.notices = o'.notices

namespace OpenManagers.MirroredBy

variable {o : OpenManagers σ} {o' : OpenManagers Entries}

theorem enter (h : o.MirroredBy Holds o') (n : Nat) (call : Waiting) :
    (o.enter n call).1 = (o'.enter n call).1 ∧
      (o.enter n call).2.MirroredBy Holds (o'.enter n call).2 := by
  obtain ⟨hstore, hmanagers, hwaiting, hissued, hnotices⟩ := h
  simp only [OpenManagers.enter, hissued, hwaiting]
  exact ⟨trivial, hstore, hmanagers, rfl, rfl, hnotices⟩

theorem without (h : o.MirroredBy Holds o') (number : Nat) :
    (o.without number).MirroredBy Holds (o'.without number) :=
  ⟨h.store, h.managers, congrArg _ h.waiting, h.issued, h.notices⟩

theorem ticket? (h : o.MirroredBy Holds o') (number : Nat) : o.ticket? number = o'.ticket? number :=
  congrArg _ h.waiting

theorem act (h : o.MirroredBy Holds o') (n : Nat) {x : Step σ α} {y : Step Entries α}
    (hxy : Mirrors (StepState.MirroredBy Holds) x y)
    {f : OpenManagers σ → α → Answer × OpenManagers σ}
    {g : OpenManagers Entries → α → Answer × OpenManagers Entries}
    (hfg : ∀ a {o o'}, OpenManagers.MirroredBy Holds o o' → (f o a).1 = (g o' a).1 ∧
      (f o a).2.MirroredBy Holds (g o' a).2) :
    (o.act n x f).1 = (o'.act n y g).1 ∧ (o.act n x f).2.MirroredBy Holds (o'.act n y g).2 := by
  unfold OpenManagers.act
  rw [h.managers]
  cases o'.managers[n]? with
  | none => exact ⟨rfl, h⟩
  | some m =>
    have hrun := hxy ⟨m, o.store, []⟩ ⟨m, o'.store, []⟩ ⟨rfl, h.store, rfl⟩
    dsimp only
    generalize x ⟨m, o.store, []⟩ = r, y ⟨m, o'.store, []⟩ = r' at hrun
    obtain ⟨answer, d⟩ := r
    obtain ⟨answer', d'⟩ := r'
    obtain ⟨rfl, hmanager, hstore, hnotices⟩ := hrun
    have hafter : OpenManagers.MirroredBy Holds
        { o with
          store := d.store
          managers := o'.managers.set n d.manager
          notices := o.notices ++ d.notices.map fun notice => (n, notice) }
        { o' with
          store := d'.store
          managers := o'.managers.set n d'.manager
          notices := o'.notices ++ d'.notices.map fun notice => (n, notice) } :=
      ⟨hstore, by rw [hmanager], h.waiting, h.issued, by rw [h.notices, hnotices]⟩
    cases answer with
    | ok a => exact hfg a hafter
    | error fault => exact ⟨rfl, hafter⟩

end OpenManagers.MirroredBy

/-- Opening the store and then a manager on it, as one program. -/
def Platform.opening (p : Platform σ) : StoreOp σ Manager := do
  Access.asOp p.openStore
  Manager.openOn p.storage

theorem OpenManagers.openManager_eq (p : Platform σ) (o : OpenManagers σ) :
    o.openManager p = match p.opening o.store with
      | (.error fault, store) => (.fault fault, { o with store := store })
      | (.ok m, store) =>
        (.opened o.managers.length, { o with store := store, managers := o.managers ++ [m] }) := by
  simp only [OpenManagers.openManager, Platform.opening, bind_apply, Access.asOp]
  obtain ⟨answer, store⟩ := p.openStore o.store
  cases answer <;> rfl

namespace OpenManagers.MirroredBy

variable {o : OpenManagers σ} {o' : OpenManagers Entries} {p : Platform σ}

theorem openManager (hp : p.Reliable Holds) (h : o.MirroredBy Holds o') :
    (o.openManager p).1 = (o'.openManager p.inMemory).1 ∧
      (o.openManager p).2.MirroredBy Holds (o'.openManager p.inMemory).2 := by
  have hopening : Mirrors Holds p.opening p.inMemory.opening :=
    hp.opens.asOp.bind fun _ => hp.storage.openOn
  have hrun := hopening _ _ h.store
  obtain ⟨hstore, hmanagers, hwaiting, hissued, hnotices⟩ := h
  rw [OpenManagers.openManager_eq, OpenManagers.openManager_eq, hmanagers]
  generalize p.opening o.store = r, p.inMemory.opening o'.store = r' at hrun
  obtain ⟨answer, st⟩ := r
  obtain ⟨answer', st'⟩ := r'
  obtain ⟨rfl, hst⟩ := hrun
  cases answer with
  | ok m => exact ⟨rfl, hst, rfl, hwaiting, hissued, hnotices⟩
  | error fault => exact ⟨rfl, hst, rfl, hwaiting, hissued, hnotices⟩

/-- One act goes over a reliable store as it goes over the store in memory. -/
theorem step (hp : p.Reliable Holds) (h : o.MirroredBy Holds o') (a : Act) :
    (o.step p a).1 = (o'.step p.inMemory a).1 ∧
      (o.step p a).2.MirroredBy Holds (o'.step p.inMemory a).2 := by
  have hs := hp.storage
  cases a with
  | openManager => exact h.openManager hp
  | login n state handle redirect =>
    exact h.act n (hs.login p.endpoints state handle redirect) fun _ {_ _} h => ⟨rfl, h⟩
  | startExchange n callback =>
    exact h.act n (hs.startExchange p.endpoints callback) fun _ {_ _} h => h.enter n _
  | finishExchange number granted =>
    simp only [OpenManagers.step, h.ticket? number]
    split
    · exact (h.without number).act _ (hs.finishExchange _ granted) fun _ {_ _} h => ⟨rfl, h⟩
    · exact ⟨rfl, h⟩
  | startFetch n request =>
    exact h.act n (hs.startFetch p.endpoints request) fun _ {_ _} h => h.enter n _
  | finishFetch number answer =>
    simp only [OpenManagers.step, h.ticket? number]
    split
    · exact (h.without number).act _ (hs.finishFetch _ answer) fun _ {_ _} h => ⟨rfl, h⟩
    · exact ⟨rfl, h⟩
  | drop number =>
    simp only [OpenManagers.step, h.ticket? number]
    split
    · exact ⟨rfl, h.without number⟩
    · exact ⟨rfl, h⟩
  | logout n => exact h.act n hs.logout fun _ {_ _} h => ⟨rfl, h⟩

end OpenManagers.MirroredBy

end SignIn
