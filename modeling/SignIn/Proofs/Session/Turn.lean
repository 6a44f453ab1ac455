import SignIn.Proofs.Session.Memory

/-!
# What an act can do

Over the store in memory every act is one of a short list of turns, each with its conditions, its
answer and what it leaves behind. What acts preserve is proved by cases on turns; steps are
not unfolded again.
-/

namespace SignIn

variable {σ : Type}

def Act.manager? : Act → Option Nat
  | .login n .. | .startExchange n _ | .startFetch n _ | .logout n => some n
  | _ => none

def Act.ticket? : Act → Option Nat
  | .finishExchange number _ | .finishFetch number _ | .drop number => some number
  | _ => none

/-- Whether an act can be the end of a waiting call. -/
def Act.ends : Act → Waiting → Bool
  | .finishExchange .., .exchange _ | .finishFetch .., .fetch _ | .drop _, _ => true
  | _, _ => false

def Answer.ofFetch : Except AuthFault Response → Answer
  | .ok r => .response r
  | .error f => .fault f

namespace OpenManagers

/-- One manager and the store put in place. -/
def seat (o : OpenManagers Entries) (n : Nat) (m : Manager) (st : Entries) : OpenManagers Entries :=
  { o with managers := o.managers.set n m, store := st }

def tearDown (o : OpenManagers Entries) (n : Nat) (m : Manager) (reason : DeauthReason) :
    OpenManagers Entries :=
  { o with
    managers := o.managers.set n m.tornDown
    store := o.store.cleared
    notices := o.notices ++ [(n, m.notice reason)] }

/-- What an act can do to managers over the store in memory. -/
inductive Turn (e : Endpoints) (o : OpenManagers Entries) :
    Act → Answer → OpenManagers Entries → Prop
  | restored {token handle} (ht : o.store.get? tokenKey = some token)
      (hh : o.store.get? handleKey = some handle) :
      Turn e o .openManager (.opened o.managers.length)
        { o with
          store := o.store.erase stateKey
          managers := o.managers ++
            [{ phase := .authenticated, handle := some handle, token := some token }] }
  | orphaned {token} (ht : o.store.get? tokenKey = some token)
      (hh : o.store.get? handleKey = none) :
      Turn e o .openManager (.opened o.managers.length)
        { o with store := o.store.cleared, managers := o.managers ++ [{}] }
  | resumed (ht : o.store.get? tokenKey = none) :
      Turn e o .openManager (.opened o.managers.length)
        { o with
          managers := o.managers ++
            [{ phase := if (o.store.get? stateKey).isSome then .loginPending else .unauthenticated
               handle := o.store.get? handleKey }] }
  | login {n m} (hm : o.managers[n]? = some m) (state handle redirect) :
      Turn e o (.login n state handle redirect)
        (.loginUrl (LoginFlow.loginUrl e state handle redirect))
        (o.seat n (m.expecting (some handle))
          (((if m.token.isSome then o.store.erase tokenKey else o.store).set handleKey handle).set
            stateKey state))
  | refused {n m callback fault} (hm : o.managers[n]? = some m)
      (hv : LoginFlow.verdict e o.store callback = .error fault) :
      Turn e o (.startExchange n callback) (.fault fault)
        (o.seat n (m.adopting o.store).refusing (o.store.erase stateKey))
  | started {n m callback request} (hm : o.managers[n]? = some m)
      (hv : LoginFlow.verdict e o.store callback = .ok request) :
      Turn e o (.startExchange n callback)
        (.waits ⟨o.issued, n, .exchange ⟨request, (m.adopting o.store).epoch⟩⟩)
        ((o.seat n { m.adopting o.store with exchanging := true } (o.store.erase stateKey)).enter
          n (.exchange ⟨request, (m.adopting o.store).epoch⟩)).2
  | superseded {number n m p} (ht : o.ticket? number = some ⟨number, n, .exchange p⟩)
      (hm : o.managers[n]? = some m) (hp : m.epoch ≠ p.epoch) (granted) :
      Turn e o (.finishExchange number granted) (.fault .superseded)
        ((o.without number).seat n { m with exchanging := false } o.store)
  | failed {number n m p granted fault}
      (ht : o.ticket? number = some ⟨number, n, .exchange p⟩)
      (hm : o.managers[n]? = some m) (hp : m.epoch = p.epoch)
      (hr : m.recorded granted = .error fault) :
      Turn e o (.finishExchange number granted) (.fault fault)
        ((o.without number).seat n { m with exchanging := false }.failExchange o.store)
  | recorded {number n m p granted handle token}
      (ht : o.ticket? number = some ⟨number, n, .exchange p⟩)
      (hm : o.managers[n]? = some m) (hp : m.epoch = p.epoch)
      (hr : m.recorded granted = .ok (handle, token)) :
      Turn e o (.finishExchange number granted)
        (if m.phase.isPending then .token token else .fault m.misplaced)
        ((o.without number).seat n (m.recording handle token)
          ((o.store.set handleKey handle).set tokenKey token))
  | tokenless {n m} (hm : o.managers[n]? = some m) (hm' : m.token = none) (request) :
      Turn e o (.startFetch n request) (.fault .unauthenticated) (o.tearDown n m .missingToken)
  | unsent {n m token request fault} (hm : o.managers[n]? = some m) (hm' : m.token = some token)
      (hr : Gateway.prepare e.serverOrigin request = .error fault) :
      Turn e o (.startFetch n request) (.fault fault) o
  | sent {n m token request prepared} (hm : o.managers[n]? = some m) (hm' : m.token = some token)
      (hr : Gateway.prepare e.serverOrigin request = .ok prepared) :
      Turn e o (.startFetch n request) (.waits ⟨o.issued, n, .fetch ⟨prepared, token, m.epoch⟩⟩)
        (o.enter n (.fetch ⟨prepared, token, m.epoch⟩)).2
  | rejected {number n m p answer} (ht : o.ticket? number = some ⟨number, n, .fetch p⟩)
      (hm : o.managers[n]? = some m)
      (ha : Gateway.interpret answer = .error .unauthenticated) (hp : p.epoch = m.epoch) :
      Turn e o (.finishFetch number answer) (.fault .unauthenticated)
        ((o.without number).tearDown n m .rejected)
  | late {number n m p answer} (ht : o.ticket? number = some ⟨number, n, .fetch p⟩)
      (hm : o.managers[n]? = some m)
      (ha : Gateway.interpret answer = .error .unauthenticated) (hp : p.epoch ≠ m.epoch) :
      Turn e o (.finishFetch number answer) (.fault .unauthenticated) (o.without number)
  | answered {number n m p answer} (ht : o.ticket? number = some ⟨number, n, .fetch p⟩)
      (hm : o.managers[n]? = some m)
      (ha : Gateway.interpret answer ≠ .error .unauthenticated) :
      Turn e o (.finishFetch number answer) (.ofFetch (Gateway.interpret answer))
        (o.without number)
  | dropped {number t} (ht : o.ticket? number = some t) :
      Turn e o (.drop number) .done (o.without number)
  | loggedOut {n m} (hm : o.managers[n]? = some m) :
      Turn e o (.logout n) .done (o.tearDown n m .logout)
  | absent {a n} (ha : a.manager? = some n) (hm : o.managers[n]? = none) :
      Turn e o a .noManager o
  | lost {a number t} (ha : a.ticket? = some number) (ht : o.ticket? number = some t)
      (hm : o.managers[t.manager]? = none) : Turn e o a .noManager (o.without number)
  | unknown {a number} (ha : a.ticket? = some number)
      (ht : ∀ t ∈ o.ticket? number, a.ends t.call = false) : Turn e o a .noCall o

variable {e : Endpoints} {o : OpenManagers Entries}

@[simp] theorem seat_store (n : Nat) (m : Manager) (st : Entries) :
    (o.seat n m st).store = st := rfl

@[simp] theorem tearDown_store (n : Nat) (m : Manager) (reason : DeauthReason) :
    (o.tearDown n m reason).store = o.store.cleared := rfl

@[simp] theorem enter_store (n : Nat) (call : Waiting) : (o.enter n call).2.store = o.store := rfl

@[simp] theorem without_store (number : Nat) : (o.without number).store = o.store := rfl

theorem number_of_ticket? {number : Nat} {t : Ticket} (h : o.ticket? number = some t) :
    t.number = number := by
  simpa using List.find?_some h

theorem mem_of_ticket? {number : Nat} {t : Ticket} (h : o.ticket? number = some t) :
    t ∈ o.waiting := List.mem_of_find?_eq_some h

theorem Turn.of_no_exchange {number : Nat} {granted : Except AuthFault TokenResponse}
    (h : ∀ number' n q, o.ticket? number = some ⟨number', n, .exchange q⟩ → False) :
    o.Turn e (.finishExchange number granted) .noCall o := by
  refine .unknown rfl fun t ht => ?_
  obtain ⟨number', n, call⟩ := t
  cases call with
  | fetch q => rfl
  | exchange q => exact (h _ _ _ ht).elim

theorem Turn.of_no_fetch {number : Nat} {answer : Except AuthFault Response}
    (h : ∀ number' n q, o.ticket? number = some ⟨number', n, .fetch q⟩ → False) :
    o.Turn e (.finishFetch number answer) .noCall o := by
  refine .unknown rfl fun t ht => ?_
  obtain ⟨number', n, call⟩ := t
  cases call with
  | fetch q => exact (h _ _ _ ht).elim
  | exchange q => rfl

theorem seat_self {n : Nat} {m : Manager} (hm : o.managers[n]? = some m) :
    o.seat n m o.store = o := by
  obtain ⟨hn, hget⟩ := List.getElem?_eq_some_iff.mp hm
  subst hget
  simp [seat]

theorem act_of_none {α : Type} {o : OpenManagers σ} {n : Nat} {x : Step σ α}
    (f : OpenManagers σ → α → Answer × OpenManagers σ) (hm : o.managers[n]? = none) :
    o.act n x f = (.noManager, o) := by
  simp [act, hm]

/-- The answer to what a step came to, with what it leaves. -/
def conclude {α : Type} (f : OpenManagers Entries → α → Answer × OpenManagers Entries)
    (r : Except AuthFault α) (o : OpenManagers Entries) : Answer × OpenManagers Entries :=
  match r with
  | .ok a => f o a
  | .error fault => (.fault fault, o)

variable {α : Type} {n : Nat} {m m' : Manager} {st : Entries} {x : Step Entries α}
  {r : Except AuthFault α} (f : OpenManagers Entries → α → Answer × OpenManagers Entries)

theorem act_of_quiet (hm : o.managers[n]? = some m)
    (hx : x ⟨m, o.store, []⟩ = (r, ⟨m', st, []⟩)) :
    o.act n x f = conclude f r (o.seat n m' st) := by
  cases r <;> simp only [act, hm, hx, seat, conclude, List.map_nil, List.append_nil]

theorem act_of_torn {reason : DeauthReason} (hm : o.managers[n]? = some m)
    (hx : x ⟨m, o.store, []⟩ = (r, ⟨m.tornDown, o.store.cleared, [m.notice reason]⟩)) :
    o.act n x f = conclude f r (o.tearDown n m reason) := by
  cases r <;> simp only [act, hm, hx, tearDown, conclude, List.map_cons, List.map_nil]

variable (p : Platform σ)

theorem turn_openManager :
    o.Turn p.endpoints .openManager (o.openManager p.inMemory).1 (o.openManager p.inMemory).2 := by
  have hopening : p.inMemory.opening o.store = Manager.openOn .memory o.store := rfl
  rw [openManager_eq, hopening, Manager.openOn_memory]
  cases ht : o.store.get? tokenKey with
  | none => exact .resumed ht
  | some token =>
    cases hh : o.store.get? handleKey with
    | none => exact .orphaned ht hh
    | some handle => exact .restored ht hh

theorem turn_login (n : Nat) (state handle : String) (redirect : Url) :
    o.Turn p.endpoints (.login n state handle redirect)
      (o.step p.inMemory (.login n state handle redirect)).1
      (o.step p.inMemory (.login n state handle redirect)).2 := by
  simp only [step, Platform.inMemory]
  cases hm : o.managers[n]? with
  | none =>
    rw [act_of_none _ hm]
    exact .absent rfl hm
  | some m =>
    rw [act_of_quiet _ hm (Manager.login_memory _ _ _ _ _ _ _)]
    exact .login hm state handle redirect

theorem turn_startExchange (n : Nat) (callback : String) :
    o.Turn p.endpoints (.startExchange n callback)
      (o.step p.inMemory (.startExchange n callback)).1
      (o.step p.inMemory (.startExchange n callback)).2 := by
  simp only [step, Platform.inMemory]
  cases hm : o.managers[n]? with
  | none =>
    rw [act_of_none _ hm]
    exact .absent rfl hm
  | some m =>
    have hx := Manager.startExchange_memory p.endpoints o.store m [] callback
    cases hv : LoginFlow.verdict p.endpoints o.store callback with
    | error fault =>
      rw [hv] at hx
      rw [act_of_quiet _ hm hx]
      exact .refused hm hv
    | ok request =>
      rw [hv] at hx
      rw [act_of_quiet _ hm hx]
      exact .started hm hv

theorem turn_finishExchange (number : Nat) (granted : Except AuthFault TokenResponse) :
    o.Turn p.endpoints (.finishExchange number granted)
      (o.step p.inMemory (.finishExchange number granted)).1
      (o.step p.inMemory (.finishExchange number granted)).2 := by
  simp only [step, Platform.inMemory]
  split
  · next number' n q ht =>
    obtain rfl : number' = number := number_of_ticket? ht
    cases hm : o.managers[n]? with
    | none =>
      rw [act_of_none (o := o.without number') _ hm]
      exact .lost rfl ht hm
    | some m =>
      by_cases hp : m.epoch = q.epoch
      · cases hr : m.recorded granted with
        | error fault =>
          rw [act_of_quiet (o := o.without number') _ hm
            (Manager.finishExchange_of_error _ [] hp hr)]
          exact .failed ht hm hp hr
        | ok record =>
          obtain ⟨handle, token⟩ := record
          rw [act_of_quiet (o := o.without number') _ hm
            (Manager.finishExchange_of_ok _ [] hp hr)]
          have hturn := Turn.recorded (e := p.endpoints) ht hm hp hr
          cases hphase : m.phase.isPending <;> simpa [hphase, conclude] using hturn
      · rw [act_of_quiet (o := o.without number') _ hm
          (Manager.finishExchange_of_epoch_ne _ [] hp granted)]
        exact .superseded ht hm hp granted
  · next hno => exact .of_no_exchange hno

theorem turn_startFetch (n : Nat) (request : Request) :
    o.Turn p.endpoints (.startFetch n request) (o.step p.inMemory (.startFetch n request)).1
      (o.step p.inMemory (.startFetch n request)).2 := by
  simp only [step, Platform.inMemory]
  cases hm : o.managers[n]? with
  | none =>
    rw [act_of_none _ hm]
    exact .absent rfl hm
  | some m =>
    cases ht : m.token with
    | none =>
      rw [act_of_torn _ hm (Manager.startFetch_of_none _ _ [] ht request)]
      exact .tokenless hm ht request
    | some token =>
      rw [act_of_quiet _ hm (Manager.startFetch_of_some _ _ [] ht request), seat_self hm]
      cases hr : Gateway.prepare p.endpoints.serverOrigin request with
      | error fault => exact .unsent hm ht hr
      | ok prepared => exact .sent hm ht hr

theorem turn_finishFetch (number : Nat) (answer : Except AuthFault Response) :
    o.Turn p.endpoints (.finishFetch number answer)
      (o.step p.inMemory (.finishFetch number answer)).1
      (o.step p.inMemory (.finishFetch number answer)).2 := by
  simp only [step, Platform.inMemory]
  split
  · next number' n q ht =>
    obtain rfl : number' = number := number_of_ticket? ht
    cases hm : o.managers[n]? with
    | none =>
      rw [act_of_none (o := o.without number') _ hm]
      exact .lost rfl ht hm
    | some m =>
      have hself : (o.without number').seat n m o.store = o.without number' :=
        seat_self (o := o.without number') hm
      by_cases ha : Gateway.interpret answer = .error .unauthenticated
      · by_cases hp : q.epoch = m.epoch
        · rw [act_of_torn (o := o.without number') _ hm
            (Manager.finishFetch_of_rejected _ [] ha hp)]
          exact .rejected ht hm ha hp
        · rw [act_of_quiet (o := o.without number') _ hm
            (Manager.finishFetch_of_late _ [] ha hp)]
          exact hself.symm ▸ .late ht hm ha hp
      · rw [act_of_quiet (o := o.without number') _ hm
          (Manager.finishFetch_of_answered _ [] ha)]
        have hanswer : ∀ r : Except AuthFault Response,
            conclude (fun o response => (Answer.response response, o)) r (o.without number') =
              (.ofFetch r, o.without number') := by
          intro r
          cases r <;> rfl
        rw [without_store, hself, hanswer]
        exact .answered ht hm ha
  · next hno => exact .of_no_fetch hno

theorem turn_drop (number : Nat) :
    o.Turn p.endpoints (.drop number) (o.step p.inMemory (.drop number)).1
      (o.step p.inMemory (.drop number)).2 := by
  simp only [step]
  split
  · next t ht => exact .dropped ht
  · next hno => exact .unknown rfl (by simp [hno])

theorem turn_logout (n : Nat) :
    o.Turn p.endpoints (.logout n) (o.step p.inMemory (.logout n)).1
      (o.step p.inMemory (.logout n)).2 := by
  simp only [step, Platform.inMemory]
  cases hm : o.managers[n]? with
  | none =>
    rw [act_of_none _ hm]
    exact .absent rfl hm
  | some m =>
    have hx : Manager.logout .memory ⟨m, o.store, []⟩ = _ :=
      Manager.deauthenticate_memory o.store [] (by simp) .logout
    rw [act_of_torn _ hm hx]
    exact .loggedOut hm

/-- Over the store in memory every act is a turn. -/
theorem turn_step (a : Act) :
    o.Turn p.endpoints a (o.step p.inMemory a).1 (o.step p.inMemory a).2 := by
  cases a with
  | openManager => exact turn_openManager p
  | login n state handle redirect => exact turn_login p n state handle redirect
  | startExchange n callback => exact turn_startExchange p n callback
  | finishExchange number granted => exact turn_finishExchange p number granted
  | startFetch n request => exact turn_startFetch p n request
  | finishFetch number answer => exact turn_finishFetch p number answer
  | drop number => exact turn_drop p number
  | logout n => exact turn_logout p n

end OpenManagers

end SignIn
