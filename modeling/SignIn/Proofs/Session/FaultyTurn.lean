import SignIn.Proofs.Session.Fallible
import SignIn.Proofs.Session.Turn

/-!
# What an act can do when the store fails

Over a store that may fail every act is a turn, as in memory, or one of a short list of faulty
turns: a step of a manager that a call on the store cut short, or a teardown that may not have
reached the store. What acts preserve over such a store is proved by cases on both.
-/

namespace SignIn

variable {σ τ : Type}

namespace OpenManagers

def after (o : OpenManagers τ) (n : Nat) (d : StepState τ) : OpenManagers τ :=
  { o with
    store := d.store
    managers := o.managers.set n d.manager
    notices := o.notices ++ d.notices.map fun notice => (n, notice) }

/-- After the session of a manager was torn down, whatever is left in the store. -/
def tearDownTo (o : OpenManagers Entries) (n : Nat) (m : Manager) (reason : DeauthReason)
    (st : Entries) : OpenManagers Entries :=
  { o.tearDown n m reason with store := st }

/-- What an act can do to managers when the store fails. -/
inductive FaultyTurn (o : OpenManagers Entries) : Act → Answer → OpenManagers Entries → Prop
  | unopened {cause st} : FaultyTurn o .openManager (.fault (.storage cause)) { o with store := st }
  | unissued {n m state handle redirect cause st} (hm : o.managers[n]? = some m)
      (hstate : st.get? stateKey = o.store.get? stateKey) :
      FaultyTurn o (.login n state handle redirect) (.fault (.storage cause))
        (o.seat n { m with token := none } st)
  | unread {n m callback cause} (hm : o.managers[n]? = some m) :
      FaultyTurn o (.startExchange n callback) (.fault (.storage cause)) o
  | unadopted {n m callback cause} (hm : o.managers[n]? = some m)
      (hidle : m.phase.isPending = false) (hstate : o.store.get? stateKey ≠ none) :
      FaultyTurn o (.startExchange n callback) (.fault (.storage cause))
        (o.seat n { m with token := none } o.store)
  | untaken {n m callback cause} (hm : o.managers[n]? = some m) :
      FaultyTurn o (.startExchange n callback) (.fault (.storage cause))
        (o.seat n (m.adopting o.store).refusing o.store)
  | unkept {number n m p granted record cause st}
      (ht : o.ticket? number = some ⟨number, n, .exchange p⟩) (hm : o.managers[n]? = some m)
      (hp : m.epoch = p.epoch) (hr : m.recorded granted = .ok record)
      (hstate : st.get? stateKey = o.store.get? stateKey) :
      FaultyTurn o (.finishExchange number granted) (.fault (.storage cause))
        ((o.without number).seat n { m with exchanging := false }.failExchange st)
  | tokenless {n m request st} (hm : o.managers[n]? = some m) (htoken : m.token = none) :
      FaultyTurn o (.startFetch n request) (.fault .unauthenticated)
        (o.tearDownTo n m .missingToken st)
  | rejected {number n m p received st} (ht : o.ticket? number = some ⟨number, n, .fetch p⟩)
      (hm : o.managers[n]? = some m)
      (ha : Gateway.interpret received = .error .unauthenticated) (hp : p.epoch = m.epoch) :
      FaultyTurn o (.finishFetch number received) (.fault .unauthenticated)
        ((o.without number).tearDownTo n m .rejected st)
  | loggedOut {n m cause st} (hm : o.managers[n]? = some m) :
      FaultyTurn o (.logout n) (.fault (.storage cause)) (o.tearDownTo n m .logout st)

/-- An act comes to what a turn or a faulty turn comes to in memory. -/
def TurnsOrFaults (Holds : σ → Entries → Prop) (e : Endpoints) (o' : OpenManagers Entries) (a : Act)
    (r : Answer × OpenManagers σ) : Prop :=
  ∃ o'', r.2.MirroredBy Holds o'' ∧ (o'.Turn e a r.1 o'' ∨ o'.FaultyTurn a r.1 o'')

variable {Holds : σ → Entries → Prop} {o : OpenManagers σ} {o' : OpenManagers Entries}
  {p : Platform σ}
  {n : Nat} {m : Manager}

section Acts

variable {α : Type} {x : Step σ α} {f : OpenManagers σ → α → Answer × OpenManagers σ}

theorem MirroredBy.act_of_ends (h : o.MirroredBy Holds o') (hm : o'.managers[n]? = some m)
    {Q : α → StepState Entries → Prop} {E : AuthFault → StepState Entries → Prop}
    (hx : Ends (StepState.MirroredBy Holds) x ⟨m, o'.store, []⟩ Q E) :
    ∃ d o₁, OpenManagers.MirroredBy Holds o₁ (o'.after n d) ∧
      ((∃ a, Q a d ∧ o.act n x f = f o₁ a) ∨
        ∃ fault, E fault d ∧ o.act n x f = (.fault fault, o₁)) := by
  rw [← h.managers] at hm
  obtain ⟨d, ⟨hmanager, hstore, hnotices⟩, hend⟩ := hx ⟨m, o.store, []⟩ ⟨rfl, h.store, rfl⟩
  unfold OpenManagers.act
  rw [hm]
  dsimp only
  generalize x ⟨m, o.store, []⟩ = r at hmanager hstore hnotices hend
  obtain ⟨answer, d'⟩ := r
  refine ⟨d, { o with
    store := d'.store
    managers := o.managers.set n d'.manager
    notices := o.notices ++ d'.notices.map fun notice => (n, notice) }, ?_, ?_⟩
  · exact ⟨hstore, by rw [hmanager, h.managers]; rfl, h.waiting, h.issued,
      by rw [hnotices, h.notices]; rfl⟩
  · cases answer with
    | ok a => exact .inl ⟨a, hend, rfl⟩
    | error fault => exact .inr ⟨fault, hend, rfl⟩

theorem MirroredBy.act_of_fails (h : o.MirroredBy Holds o') (hm : o'.managers[n]? = some m)
    {E : AuthFault → StepState Entries → Prop}
    (hx : Ends (StepState.MirroredBy Holds) x ⟨m, o'.store, []⟩ (fun _ _ => False) E) :
    ∃ d o₁ fault, OpenManagers.MirroredBy Holds o₁ (o'.after n d) ∧ E fault d ∧
      o.act n x f = (.fault fault, o₁) := by
  obtain ⟨d, o₁, hafter, ⟨_, hfalse, -⟩ | ⟨fault, hend, hact⟩⟩ := h.act_of_ends hm hx (f := f)
  · exact hfalse.elim
  · exact ⟨d, o₁, fault, hafter, hend, hact⟩

theorem after_quiet (m : Manager) (st : Entries) : o'.after n ⟨m, st, []⟩ = o'.seat n m st := by
  simp [after, seat]

theorem after_torn (m : Manager) (st : Entries) (reason : DeauthReason) :
    o'.after n ⟨m.tornDown, st, [] ++ [m.notice reason]⟩ = o'.tearDownTo n m reason st := rfl

end Acts

variable (hp : p.Faltering Holds) (h : o.MirroredBy Holds o')
include hp h

theorem MirroredBy.turnsOrFaults_openManager :
    o'.TurnsOrFaults Holds p.endpoints .openManager (o.openManager p) := by
  have hopening : Ends Holds p.opening o'.store
      (fun m t' => Manager.openOn .memory o'.store = (.ok m, t'))
      fun fault _ => ∃ cause, fault = .storage cause := by
    refine .bind (.asOp ((hp.opens o'.store).mono ?_ fun cause _ _ => ⟨cause, rfl⟩))
    rintro _ _ rfl
    exact hp.storage.openOn o'.store
  obtain ⟨st, hholds, hend⟩ := hopening _ h.store
  obtain ⟨hstore, hmanagers, hwaiting, hissued, hnotices⟩ := h
  rw [openManager_eq, hmanagers]
  generalize p.opening o.store = r at hholds hend
  obtain ⟨answer, store⟩ := r
  cases answer with
  | ok m =>
    have hturn := turn_openManager (o := o') p
    have hmemory : p.inMemory.opening o'.store = (.ok m, st) := hend
    rw [openManager_eq, hmemory] at hturn
    exact ⟨{ o' with store := st, managers := o'.managers ++ [m] },
      ⟨hholds, rfl, hwaiting, hissued, hnotices⟩, .inl hturn⟩
  | error fault =>
    obtain ⟨cause, rfl⟩ := hend
    exact ⟨{ o' with store := st }, ⟨hholds, rfl, hwaiting, hissued, hnotices⟩, .inr .unopened⟩

theorem MirroredBy.turnsOrFaults_login (n : Nat) (state handle : String) (redirect : Url) :
    o'.TurnsOrFaults Holds p.endpoints (.login n state handle redirect)
      (o.step p (.login n state handle redirect)) := by
  cases hm : o'.managers[n]? with
  | none =>
    rw [OpenManagers.step, act_of_none _ (h.managers ▸ hm)]
    exact ⟨o', h, .inl (.absent rfl hm)⟩
  | some m =>
    obtain ⟨d, o₁, hafter, ⟨url, ⟨rfl, rfl⟩, hact⟩ | ⟨_, ⟨⟨cause, rfl⟩, st, hstate, rfl⟩, hact⟩⟩ :=
      h.act_of_ends hm (hp.storage.login p.endpoints m o'.store [] state handle redirect)
        (f := fun o url => (Answer.loginUrl url, o)) <;>
      rw [after_quiet] at hafter <;> rw [OpenManagers.step, hact]
    · exact ⟨_, hafter, .inl (.login hm state handle redirect)⟩
    · exact ⟨_, hafter, .inr (.unissued hm hstate)⟩

theorem MirroredBy.turnsOrFaults_startExchange (n : Nat) (callback : String) :
    o'.TurnsOrFaults Holds p.endpoints (.startExchange n callback)
      (o.step p (.startExchange n callback)) := by
  cases hm : o'.managers[n]? with
  | none =>
    rw [OpenManagers.step, act_of_none _ (h.managers ▸ hm)]
    exact ⟨o', h, .inl (.absent rfl hm)⟩
  | some m =>
    obtain ⟨d, o₁, hafter, ⟨_, ⟨request, hv, rfl, rfl⟩, hact⟩ | ⟨fault, hend, hact⟩⟩ :=
      h.act_of_ends hm (hp.storage.startExchange p.endpoints m o'.store [] callback)
        (f := fun o pending => o.enter n (.exchange pending))
    · rw [after_quiet] at hafter
      obtain ⟨hanswer, hentered⟩ :=
        hafter.enter n (.exchange ⟨request, (m.adopting o'.store).epoch⟩)
      rw [OpenManagers.step, hact]
      exact ⟨_, hentered, .inl (hanswer ▸ .started hm hv)⟩
    · rw [OpenManagers.step, hact]
      rcases hend with ⟨hv, rfl⟩ | ⟨⟨cause, rfl⟩, rfl | ⟨hidle, hstate, rfl⟩ | rfl⟩ <;>
        rw [after_quiet] at hafter
      · exact ⟨_, hafter, .inl (.refused hm hv)⟩
      · rw [seat_self hm] at hafter
        exact ⟨_, hafter, .inr (.unread hm)⟩
      · exact ⟨_, hafter, .inr (.unadopted hm hidle hstate)⟩
      · exact ⟨_, hafter, .inr (.untaken hm)⟩

theorem MirroredBy.turnsOrFaults_startFetch (n : Nat) (request : Request) :
    o'.TurnsOrFaults Holds p.endpoints (.startFetch n request)
      (o.step p (.startFetch n request)) := by
  cases hm : o'.managers[n]? with
  | none =>
    rw [OpenManagers.step, act_of_none _ (h.managers ▸ hm)]
    exact ⟨o', h, .inl (.absent rfl hm)⟩
  | some m =>
    rw [OpenManagers.step]
    cases htoken : m.token with
    | none =>
      obtain ⟨d, o₁, _, hafter, ⟨rfl, st, rfl⟩, hact⟩ :=
        h.act_of_fails hm (hp.storage.startFetch_of_none p.endpoints o'.store [] htoken request)
          (f := fun o pending => o.enter n (.fetch pending))
      rw [after_torn] at hafter
      rw [hact]
      exact ⟨_, hafter, .inr (.tokenless hm htoken)⟩
    | some token =>
      obtain ⟨d, o₁, hafter, ⟨_, ⟨prepared, hr, rfl, rfl⟩, hact⟩ | ⟨fault, ⟨hr, rfl⟩, hact⟩⟩ :=
        h.act_of_ends hm
          (Storage.Faltering.startFetch_of_some p.endpoints o'.store [] htoken request)
          (f := fun o pending => o.enter n (.fetch pending)) <;>
        rw [after_quiet, seat_self hm] at hafter <;> rw [hact]
      · obtain ⟨hanswer, hentered⟩ := hafter.enter n (.fetch ⟨prepared, token, m.epoch⟩)
        exact ⟨_, hentered, .inl (hanswer ▸ .sent hm htoken hr)⟩
      · exact ⟨_, hafter, .inl (.unsent hm htoken hr)⟩

theorem MirroredBy.turnsOrFaults_logout (n : Nat) :
    o'.TurnsOrFaults Holds p.endpoints (.logout n) (o.step p (.logout n)) := by
  cases hm : o'.managers[n]? with
  | none =>
    rw [OpenManagers.step, act_of_none _ (h.managers ▸ hm)]
    exact ⟨o', h, .inl (.absent rfl hm)⟩
  | some m =>
    have hx := hp.storage.deauthenticate o'.store []
      (by simp : ∀ n ∈ (none : Option Nat), n = m.epoch) .logout
    obtain ⟨d, o₁, hafter, ⟨_, rfl, hact⟩ | ⟨_, ⟨⟨cause, rfl⟩, st, rfl⟩, hact⟩⟩ :=
      h.act_of_ends hm hx (f := fun o _ => (Answer.done, o)) <;>
      rw [after_torn] at hafter <;> rw [OpenManagers.step, Manager.logout, hact]
    · exact ⟨_, hafter, .inl (.loggedOut hm)⟩
    · exact ⟨_, hafter, .inr (.loggedOut hm)⟩

theorem MirroredBy.turnsOrFaults_finishExchange (number : Nat)
    (granted : Except AuthFault TokenResponse) :
    o'.TurnsOrFaults Holds p.endpoints (.finishExchange number granted)
      (o.step p (.finishExchange number granted)) := by
  simp only [OpenManagers.step, h.ticket? number]
  split
  · next number' n q ht =>
    obtain rfl : number' = number := number_of_ticket? ht
    have hwithout := h.without number'
    cases hm : o'.managers[n]? with
    | none =>
      rw [act_of_none (o := o.without number') _ (h.managers ▸ hm)]
      exact ⟨_, hwithout, .inl (.lost rfl ht hm)⟩
    | some m =>
      by_cases hq : m.epoch = q.epoch
      · cases hr : m.recorded granted with
        | error fault =>
          obtain ⟨d, o₁, _, hafter, ⟨rfl, rfl⟩, hact⟩ :=
            hwithout.act_of_fails hm
              (Storage.Faltering.finishExchange_of_error o'.store [] hq hr)
              (f := fun o token => (Answer.token token, o))
          rw [after_quiet] at hafter
          rw [hact]
          exact ⟨_, hafter, .inl (.failed ht hm hq hr)⟩
        | ok record =>
          obtain ⟨handle, token⟩ := record
          have hturn := Turn.recorded (e := p.endpoints) ht hm hq hr
          obtain ⟨d, o₁, hafter, ⟨_, ⟨hpending, rfl, rfl⟩, hact⟩ | ⟨fault, hend, hact⟩⟩ :=
            hwithout.act_of_ends hm (hp.storage.finishExchange_of_ok o'.store [] hq hr)
              (f := fun o token => (Answer.token token, o))
          · rw [after_quiet] at hafter
            rw [hact]
            rw [if_pos hpending] at hturn
            exact ⟨_, hafter, .inl hturn⟩
          · rw [hact]
            rcases hend with ⟨hidle, rfl, rfl⟩ | ⟨⟨cause, rfl⟩, st, hstate, rfl⟩ <;>
              rw [after_quiet] at hafter
            · rw [if_neg (by simp [hidle])] at hturn
              exact ⟨_, hafter, .inl hturn⟩
            · exact ⟨_, hafter, .inr (.unkept ht hm hq hr hstate)⟩
      · obtain ⟨d, o₁, _, hafter, ⟨rfl, rfl⟩, hact⟩ :=
          hwithout.act_of_fails hm
            (Storage.Faltering.finishExchange_of_epoch_ne o'.store [] hq granted)
            (f := fun o token => (Answer.token token, o))
        rw [after_quiet] at hafter
        rw [hact]
        exact ⟨_, hafter, .inl (.superseded ht hm hq granted)⟩
  · next hno => exact ⟨o', h, .inl (.of_no_exchange hno)⟩

theorem MirroredBy.turnsOrFaults_finishFetch (number : Nat) (answer : Except AuthFault Response) :
    o'.TurnsOrFaults Holds p.endpoints (.finishFetch number answer)
      (o.step p (.finishFetch number answer)) := by
  simp only [OpenManagers.step, h.ticket? number]
  split
  · next number' n q ht =>
    obtain rfl : number' = number := number_of_ticket? ht
    have hwithout := h.without number'
    cases hm : o'.managers[n]? with
    | none =>
      rw [act_of_none (o := o.without number') _ (h.managers ▸ hm)]
      exact ⟨_, hwithout, .inl (.lost rfl ht hm)⟩
    | some m =>
      have hself : (o'.without number').seat n m o'.store = o'.without number' :=
        seat_self (o := o'.without number') hm
      by_cases ha : Gateway.interpret answer = .error .unauthenticated
      · by_cases hq : q.epoch = m.epoch
        · obtain ⟨d, o₁, _, hafter, ⟨rfl, st, rfl⟩, hact⟩ :=
            hwithout.act_of_fails hm (hp.storage.finishFetch_of_rejected o'.store [] ha hq)
              (f := fun o response => (Answer.response response, o))
          rw [after_torn] at hafter
          rw [hact]
          exact ⟨_, hafter, .inr (.rejected ht hm ha hq)⟩
        · obtain ⟨d, o₁, _, hafter, ⟨rfl, rfl⟩, hact⟩ :=
            hwithout.act_of_fails hm (Storage.Faltering.finishFetch_of_late o'.store [] ha hq)
              (f := fun o response => (Answer.response response, o))
          rw [after_quiet, hself] at hafter
          rw [hact]
          exact ⟨_, hafter, .inl (.late ht hm ha hq)⟩
      · have hturn := Turn.answered (e := p.endpoints) ht hm ha
        obtain ⟨d, o₁, hafter, ⟨response, ⟨hr, rfl⟩, hact⟩ | ⟨fault, ⟨hr, rfl⟩, hact⟩⟩ :=
          hwithout.act_of_ends hm (Storage.Faltering.finishFetch_of_answered o'.store [] ha)
            (f := fun o response => (Answer.response response, o)) <;>
          rw [after_quiet, hself] at hafter <;> rw [hr] at hturn <;> rw [hact] <;>
          exact ⟨_, hafter, .inl hturn⟩
  · next hno => exact ⟨o', h, .inl (.of_no_fetch hno)⟩

omit hp in
theorem MirroredBy.turnsOrFaults_drop (number : Nat) :
    o'.TurnsOrFaults Holds p.endpoints (.drop number) (o.step p (.drop number)) := by
  simp only [OpenManagers.step, h.ticket? number]
  split
  · next t ht => exact ⟨_, h.without number, .inl (.dropped ht)⟩
  · next hno => exact ⟨o', h, .inl (.unknown rfl (by simp [hno]))⟩

/-- Over a store that may fail every act is a turn or a faulty turn. -/
theorem MirroredBy.turnsOrFaults (a : Act) : o'.TurnsOrFaults Holds p.endpoints a (o.step p a) := by
  cases a with
  | openManager => exact h.turnsOrFaults_openManager hp
  | login n state handle redirect => exact h.turnsOrFaults_login hp n state handle redirect
  | startExchange n callback => exact h.turnsOrFaults_startExchange hp n callback
  | finishExchange number granted => exact h.turnsOrFaults_finishExchange hp number granted
  | startFetch n request => exact h.turnsOrFaults_startFetch hp n request
  | finishFetch number answer => exact h.turnsOrFaults_finishFetch hp number answer
  | drop number => exact h.turnsOrFaults_drop number
  | logout n => exact h.turnsOrFaults_logout hp n

end OpenManagers

end SignIn
