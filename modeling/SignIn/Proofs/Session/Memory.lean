import SignIn.Proofs.Session.Mirror

/-!
# The steps of a manager in memory

Over the store in memory each step of a manager is an equation between states: what it answers,
what the manager remembers afterwards, and which entries are left. The managers that such steps
leave behind have names here, so that later proofs speak of them and not of the steps.
-/

namespace SignIn

@[simp] theorem sessionKeys_ne :
    handleKey ≠ tokenKey ∧ tokenKey ≠ handleKey ∧ handleKey ≠ stateKey ∧ stateKey ≠ handleKey ∧
      tokenKey ≠ stateKey ∧ stateKey ≠ tokenKey := by
  decide

/-- The entries without what is kept of a session. -/
def Entries.cleared (st : Entries) : Entries :=
  ((st.erase handleKey).erase tokenKey).erase stateKey

@[simp] theorem Entries.get?_cleared (st : Entries) :
    st.cleared.get? handleKey = none ∧ st.cleared.get? tokenKey = none ∧
      st.cleared.get? stateKey = none := by
  simp [cleared]

namespace Storage

variable (st : Entries)

@[simp] theorem handle_memory : memory.handle st = (.ok (st.get? handleKey), st) := rfl

@[simp] theorem setHandle_memory (v : String) :
    memory.setHandle v st = (.ok (), st.set handleKey v) := rfl

@[simp] theorem setToken_memory (v : String) :
    memory.setToken v st = (.ok (), st.set tokenKey v) := rfl

@[simp] theorem pendingState_memory : memory.pendingState st = (.ok (st.get? stateKey), st) := rfl

@[simp] theorem takeState_memory :
    memory.takeState st = (.ok (st.get? stateKey), st.erase stateKey) := rfl

end Storage

/-- What the callback comes to against the state that is kept. -/
def LoginFlow.verdict (e : Endpoints) (st : Entries) (callback : String) :
    Except AuthFault TokenRequest :=
  match st.get? stateKey with
  | none => .error .missingState
  | some expected => checkCallback e expected callback

theorem LoginFlow.prepare_memory (e : Endpoints) (callback : String) (st : Entries) :
    prepare .memory e callback st = (verdict e st callback, st.erase stateKey) := by
  cases h : st.get? stateKey <;>
    simp [prepare, verdict, Access.asOp, h]

theorem LoginFlow.ne_none_of_verdict {e : Endpoints} {st : Entries} {callback : String}
    {request : TokenRequest} (h : verdict e st callback = .ok request) :
    st.get? stateKey ≠ none := by
  intro hnone
  simp [verdict, hnone] at h

namespace Manager

variable (e : Endpoints) (st : Entries) (m : Manager) (notices : List Notice)

/-! ## Steps in memory -/

/-- The manager that waits for a login to come back, in an epoch of its own. -/
def expecting (m : Manager) (handle : Option String) : Manager :=
  { m with phase := .loginPending, handle := handle, token := none, epoch := m.epoch + 1 }

/-- The manager after it took a login over that waits in the store. -/
def adopting (m : Manager) (st : Entries) : Manager :=
  if ¬ m.phase.isPending ∧ (st.get? stateKey).isSome then m.expecting (st.get? handleKey) else m

def refusing (m : Manager) : Manager := if m.exchanging then m else m.failExchange

/-- What a grant is recorded as: a handle with a token. -/
def recorded (m : Manager) (granted : Except AuthFault TokenResponse) :
    Except AuthFault (String × String) :=
  match granted with
  | .error fault => .error fault
  | .ok token =>
    match m.handle.or token.sub with
    | none => .error .missingHandle
    | some handle => .ok (handle, token.accessToken)

theorem recorded_eq_ok {m : Manager} {granted : TokenResponse} {handle token : String}
    (h : m.recorded (.ok granted) = .ok (handle, token)) :
    m.handle.or granted.sub = some handle ∧ granted.accessToken = token := by
  unfold recorded at h
  cases hh : m.handle.or granted.sub with
  | none => simp [hh] at h
  | some kept => simpa [hh] using h

theorem handle_eq_of_recorded {m : Manager} {granted : Except AuthFault TokenResponse}
    {handle token : String} (h : m.recorded granted = .ok (handle, token)) (hm : m.handle ≠ none) :
    m.handle = some handle := by
  cases granted with
  | error fault => cases h
  | ok t =>
    obtain ⟨hor, -⟩ := recorded_eq_ok h
    cases hh : m.handle with
    | none => exact absurd hh hm
    | some own => rwa [hh, Option.some_or] at hor

/-- The manager with a recorded token. Outside a login that is under way its phase stays. -/
def recording (m : Manager) (handle token : String) : Manager :=
  { m with
    phase := (m.phase.next? .exchangeSucceeded).getD m.phase
    handle := some handle
    token := some token
    exchanging := false }

/-- The manager without its session, in an epoch of its own. -/
def tornDown (m : Manager) : Manager :=
  { m with phase := .unauthenticated, handle := none, token := none, epoch := m.epoch + 1 }

def notice (m : Manager) (reason : DeauthReason) : Notice := ⟨reason, m.tornDown.view⟩

/-- The refusal of a token outside a login that is under way. -/
def misplaced (m : Manager) : AuthFault :=
  .invalidTransition ("Cannot apply " ++ SessionEvent.exchangeSucceeded.name ++
    " in state " ++ m.phase.name)

theorem openOn_memory :
    openOn .memory st = match st.get? tokenKey, st.get? handleKey with
      | some token, some handle =>
        (.ok { phase := .authenticated, handle := some handle, token := some token },
          st.erase stateKey)
      | some _, none => (.ok {}, st.cleared)
      | none, handle =>
        (.ok { phase := if (st.get? stateKey).isSome then .loginPending else .unauthenticated,
               handle }, st) := by
  simp only [openOn, Access.asOp, Storage.snapshot, Storage.memory, Storage.Memory.get,
    bind_apply, pure_apply]
  cases ht : st.get? tokenKey with
  | none => rfl
  | some token =>
    cases hh : st.get? handleKey with
    | none => rfl
    | some handle =>
      cases hs : st.get? stateKey with
      | none => simp [Entries.erase_of_get?_eq_none hs]
      | some _ => rfl

theorem login_memory (state handle : String) (redirect : Url) :
    login .memory e state handle redirect ⟨m, st, notices⟩ =
      (.ok (LoginFlow.loginUrl e state handle redirect),
        ⟨m.expecting (some handle),
          ((if m.token.isSome then st.erase tokenKey else st).set handleKey handle).set
            stateKey state, notices⟩) := by
  obtain ⟨phase, kept, token, epoch, exchanging⟩ := m
  cases token <;> cases phase <;> rfl

theorem adopt_memory : adopt .memory ⟨m, st, notices⟩ = (.ok (), ⟨m.adopting st, st, notices⟩) := by
  obtain ⟨phase, kept, token, epoch, exchanging⟩ := m
  cases hst : st.get? stateKey <;> cases phase <;>
    simp [adopt, onStore, Access.asOp, hst, adopting, expecting, Phase.isPending, remember,
      nextEpoch, advance, Phase.next?]

theorem startExchange_memory (callback : String) :
    startExchange .memory e callback ⟨m, st, notices⟩ =
      match LoginFlow.verdict e st callback with
      | .error fault =>
        (.error fault, ⟨(m.adopting st).refusing, st.erase stateKey, notices⟩)
      | .ok request =>
        (.ok ⟨request, (m.adopting st).epoch⟩,
          ⟨{ m.adopting st with exchanging := true }, st.erase stateKey, notices⟩) := by
  simp only [startExchange, bind_apply, adopt_memory, tryCatch_apply, onStore,
    LoginFlow.prepare_memory, remember, get_apply, pure_apply, throw_apply]
  cases LoginFlow.verdict e st callback <;> rfl

variable {m}

theorem finishExchange_of_epoch_ne {p : PendingExchange} (h : m.epoch ≠ p.epoch)
    (granted : Except AuthFault TokenResponse) :
    finishExchange .memory p granted ⟨m, st, notices⟩ =
      (.error .superseded, ⟨{ m with exchanging := false }, st, notices⟩) := by
  simp [finishExchange, remember, h]

theorem finishExchange_of_error {p : PendingExchange} (h : m.epoch = p.epoch)
    {granted : Except AuthFault TokenResponse} {fault : AuthFault}
    (hr : m.recorded granted = .error fault) :
    finishExchange .memory p granted ⟨m, st, notices⟩ =
      (.error fault, ⟨{ m with exchanging := false }.failExchange, st, notices⟩) := by
  cases granted with
  | error f =>
    obtain rfl : f = fault := by simpa [recorded] using hr
    simp [finishExchange, remember, giveUp, h]
  | ok token =>
    unfold recorded at hr
    cases hh : m.handle.or token.sub with
    | some handle => simp [hh] at hr
    | none =>
      obtain rfl : AuthFault.missingHandle = fault := by simpa [hh] using hr
      simp [finishExchange, remember, giveUp, h, hh]

theorem finishExchange_of_ok {p : PendingExchange} (h : m.epoch = p.epoch)
    {granted : Except AuthFault TokenResponse} {handle token : String}
    (hr : m.recorded granted = .ok (handle, token)) :
    finishExchange .memory p granted ⟨m, st, notices⟩ =
      (if m.phase.isPending then .ok token else .error m.misplaced,
        ⟨m.recording handle token, (st.set handleKey handle).set tokenKey token, notices⟩) := by
  cases granted with
  | error f => simp [recorded] at hr
  | ok t =>
    unfold recorded at hr
    cases hh : m.handle.or t.sub with
    | none => simp [hh] at hr
    | some kept =>
      obtain ⟨rfl, rfl⟩ : kept = handle ∧ t.accessToken = token := by simpa [hh] using hr
      obtain ⟨phase, own, old, epoch, exchanging⟩ := m
      dsimp only at h hh
      cases phase <;>
        simp [finishExchange, remember, h, hh, install, onStore, Access.asOp, advance, Phase.next?,
          Phase.isPending, recording, misplaced]

theorem deauthenticate_memory {epoch : Option Nat} (h : ∀ n ∈ epoch, n = m.epoch)
    (reason : DeauthReason) :
    deauthenticate .memory reason epoch ⟨m, st, notices⟩ =
      (.ok (), ⟨m.tornDown, st.cleared, notices ++ [m.notice reason]⟩) := by
  have hepoch : ¬ epoch.any (· ≠ m.epoch) := by
    cases epoch with
    | none => simp
    | some n => simp [h n rfl]
  unfold deauthenticate
  rw [if_neg hepoch]
  obtain ⟨phase, own, token, epoch, exchanging⟩ := m
  cases phase <;> rfl

theorem deauthenticate_of_epoch_ne {epoch : Nat} (h : epoch ≠ m.epoch) (reason : DeauthReason) :
    deauthenticate .memory reason (some epoch) ⟨m, st, notices⟩ =
      (.ok (), ⟨m, st, notices⟩) := by
  unfold deauthenticate
  rw [if_pos (by simpa using h)]

theorem startFetch_of_none (h : m.token = none) (r : Request) :
    startFetch .memory e r ⟨m, st, notices⟩ =
      (.error .unauthenticated,
        ⟨m.tornDown, st.cleared, notices ++ [m.notice .missingToken]⟩) := by
  simp [startFetch, h, deauthenticate_memory]

theorem startFetch_of_some {token : String} (h : m.token = some token) (r : Request) :
    startFetch .memory e r ⟨m, st, notices⟩ =
      ((Gateway.prepare e.serverOrigin r).map (⟨·, token, m.epoch⟩), ⟨m, st, notices⟩) := by
  cases hr : Gateway.prepare e.serverOrigin r <;> simp [startFetch, h, hr, Except.map]

theorem finishFetch_of_rejected {p : PendingFetch} {answer : Except AuthFault Response}
    (h : Gateway.interpret answer = .error .unauthenticated) (hp : p.epoch = m.epoch) :
    finishFetch .memory p answer ⟨m, st, notices⟩ =
      (.error .unauthenticated,
        ⟨m.tornDown, st.cleared, notices ++ [m.notice .rejected]⟩) := by
  simp [finishFetch, h, deauthenticate_memory, hp]

theorem finishFetch_of_late {p : PendingFetch} {answer : Except AuthFault Response}
    (h : Gateway.interpret answer = .error .unauthenticated) (hp : p.epoch ≠ m.epoch) :
    finishFetch .memory p answer ⟨m, st, notices⟩ =
      (.error .unauthenticated, ⟨m, st, notices⟩) := by
  simp [finishFetch, h, deauthenticate_of_epoch_ne _ _ hp]

theorem finishFetch_of_answered {p : PendingFetch} {answer : Except AuthFault Response}
    (h : Gateway.interpret answer ≠ .error .unauthenticated) :
    finishFetch .memory p answer ⟨m, st, notices⟩ =
      (Gateway.interpret answer, ⟨m, st, notices⟩) := by
  cases hr : Gateway.interpret answer with
  | ok response => simp [finishFetch, hr]
  | error fault =>
    rw [hr] at h
    cases fault <;> first | exact absurd rfl h | simp [finishFetch, hr]

end Manager

end SignIn
