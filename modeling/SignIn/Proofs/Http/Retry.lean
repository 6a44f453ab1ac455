import SignIn.Proofs.Http.Nonces
import SignIn.Proofs.Text.Split

/-!
# Calls one after the other

Calls on one client that do not overlap, each with whatever prover is installed, and a server that
answers every request as it likes, by all that was asked of it before. What is counted is requests
that are handed to the network, each with the response that it comes to. A call hands over its
request with a proof over the remembered nonce, and once more exactly if it was refused over another
nonce and a proof over that one can be made. What is remembered is the nonce that was handed out
last.
-/

namespace SignIn.Http

/-- What was handed to the network and what it gave, the earliest first. -/
abbrev Log := List (HttpRequest × Response)

/-- A server that answers every request, by what went before. -/
abbrev Server := Log → HttpRequest → Response

def Server.network (server : Server) : Network (StateM Log) := fun q log =>
  (.ok (server log q), log ++ [(q, server log q)])

/-- The nonce that was handed out last. -/
def Log.nonce? (log : Log) : Option String := (log.filterMap fun x => nonceOf? x.2).getLast?

inductive Outcome where
  | token (answer : Except AuthFault TokenResponse)
  | resource (answer : Except AuthFault Response)

namespace Call

def perform {m : Type → Type} [Monad m] (network : Network m) (p : Option Prover)
    (memory : NonceMemory) : Call → m (Outcome × NonceMemory)
  | .grant r => do
    let (answer, memory) ← Http.grant network p r memory
    return (.token answer, memory)
  | .fetch token r => do
    let (answer, memory) ← Http.fetch network p token r memory
    return (.resource answer, memory)

def outcome (answer : Except AuthFault Response) : Call → Outcome
  | .grant _ => .token (answer.bind tokenOf)
  | .fetch _ _ => .resource answer

def proof (call : Call) (prove : Prover) (nonce : Option String) : Except AuthFault String :=
  prove call.method call.url nonce call.token

def proved (call : Call) (proof : String) : HttpRequest :=
  call.unproved.withHeaders [("DPoP", proof)]

end Call

/-- Carries out calls one after the other, each with the prover that is installed then. -/
def performAll {m : Type → Type} [Monad m] (network : Network m) (memory : NonceMemory) :
    List (Option Prover × Call) → m (List Outcome × NonceMemory)
  | [] => return ([], memory)
  | (p, call) :: calls => do
    let (outcome, memory) ← call.perform network p memory
    let (outcomes, memory) ← performAll network memory calls
    return (outcome :: outcomes, memory)

/-! ## One call -/

/-- A response is to be answered by another request: it refuses one with a proof and hands out
another nonce than that proof was over. -/
def Renews (p : Option Prover) (nonce : Option String) (r : Response) (fresh : String) : Prop :=
  p.isSome ∧ Asks r fresh ∧ nonce ≠ some fresh

/-- What is handed to the network for a call that begins with a remembered nonce, and its answer. -/
inductive Course.Alone (p : Option Prover) (call : Call) (nonce : Option String) :
    Log → Except AuthFault Response → Prop
  /-- The request cannot be made. -/
  | unmade {fault : AuthFault} (h : call.request p nonce = .error fault) :
      Alone p call nonce [] (.error fault)
  /-- The request cannot be written. -/
  | unwritten {q : HttpRequest} {fault : HttpFault} (h : call.request p nonce = .ok q)
      (hfault : q.fault? = some fault) : Alone p call nonce [] (.error (.http fault))
  /-- The response is the answer. -/
  | once {q : HttpRequest} {r : Response} (h : call.request p nonce = .ok q)
      (hfault : q.fault? = none) (hdone : ∀ fresh, ¬Renews p nonce r fresh) :
      Alone p call nonce [(q, r)] (.ok r)
  /-- The second request cannot be made. -/
  | unmadeAgain {q : HttpRequest} {r : Response} {fresh : String} {fault : AuthFault}
      (h : call.request p nonce = .ok q) (hfault : q.fault? = none) (hnew : Renews p nonce r fresh)
      (h' : call.request p (some fresh) = .error fault) :
      Alone p call nonce [(q, r)] (.error fault)
  /-- The second request cannot be written. -/
  | unwrittenAgain {q q' : HttpRequest} {r : Response} {fresh : String} {fault : HttpFault}
      (h : call.request p nonce = .ok q) (hfault : q.fault? = none) (hnew : Renews p nonce r fresh)
      (h' : call.request p (some fresh) = .ok q') (hfault' : q'.fault? = some fault) :
      Alone p call nonce [(q, r)] (.error (.http fault))
  /-- The second response is the answer. -/
  | twice {q q' : HttpRequest} {r r' : Response} {fresh : String}
      (h : call.request p nonce = .ok q) (hfault : q.fault? = none) (hnew : Renews p nonce r fresh)
      (h' : call.request p (some fresh) = .ok q') (hfault' : q'.fault? = none) :
      Alone p call nonce [(q, r), (q', r')] (.ok r')

theorem Asks.unique {r : Response} {a b : String} (ha : Asks r a) (hb : Asks r b) : a = b :=
  ha.nonce.unique hb.nonce

theorem afterFirst_eq_some_iff_renews {p : Option Prover} {m : NonceMemory} {r : Response}
    {fresh : String} : (m.afterFirst p.isSome r).1 = some fresh ↔ Renews p m.nonce r fresh :=
  afterFirst_eq_some_iff

theorem Log.nonce?_singleton (q : HttpRequest) (r : Response) :
    Log.nonce? [(q, r)] = nonceOf? r := by
  cases h : nonceOf? r <;> simp [nonce?, h]

theorem Log.nonce?_append (log log' : Log) :
    (log ++ log').nonce? = log'.nonce?.or log.nonce? := by
  rw [nonce?, List.filterMap_append, List.getLast?_append]
  rfl

/-- It is the one of the last response that hands out any. -/
theorem Log.nonce?_eq_some_iff {log : Log} {fresh : String} :
    log.nonce? = some fresh ↔ ∃ before x after, log = before ++ x :: after ∧ HandsOut x.2 fresh ∧
      ∀ y ∈ after, ¬∃ other, HandsOut y.2 other := by
  induction log using List.reverseRecOn with
  | nil => simp [nonce?]
  | append_singleton log x ih =>
    have hnonce : ∀ other, nonceOf? x.2 = some other ↔ HandsOut x.2 other := fun _ =>
      nonceOf?_eq_some_iff
    rw [Text.exists_since_concat, ← ih, nonce?_append, nonce?_singleton]
    simp only [← hnonce]
    cases nonceOf? x.2 <;> simp

section

variable (server : Server) (log : Log)

theorem bind_log {α β : Type} (x : StateM Log α) (f : α → StateM Log β) :
    (x >>= f) log = f (x log).1 (x log).2 := rfl

theorem transmit_server (q : HttpRequest) :
    transmit server.network q log =
      match q.fault? with
      | some fault => (.error (.http fault), log)
      | none => (.ok (server log q), log ++ [(q, server log q)]) := by
  unfold transmit
  cases q.fault? <;> rfl

theorem send_server (p : Option Prover) (call : Call) (m : NonceMemory) :
    ∃ own answer m', send server.network p.isSome (fun nonce => call.request p nonce) m log =
        ((answer, m'), log ++ own) ∧
      Course.Alone p call m.nonce own answer ∧ m'.nonce = (Log.nonce? own).or m.nonce := by
  unfold send
  cases hq : call.request p m.nonce with
  | error fault =>
    simp only [hq]
    exact ⟨[], _, m, by rw [List.append_nil]; rfl, .unmade hq, rfl⟩
  | ok q =>
    simp only [hq, bind_log, transmit_server]
    cases hfault : q.fault? with
    | some fault =>
      exact ⟨[], _, m, by rw [List.append_nil]; rfl, .unwritten hq hfault, rfl⟩
    | none =>
      generalize hr : server log q = r
      have hnonce : (m.afterFirst p.isSome r).2.nonce = (Log.nonce? [(q, r)]).or m.nonce := by
        rw [Log.nonce?_singleton]
        exact nonce_remember m r
      cases hretry : (m.afterFirst p.isSome r).1 with
      | none =>
        have hdone : ∀ fresh, ¬Renews p m.nonce r fresh := fun fresh hnew => by
          rw [← afterFirst_eq_some_iff_renews, hretry] at hnew
          cases hnew
        refine ⟨[(q, r)], .ok r, _, ?_, .once hq hfault hdone, hnonce⟩
        simp only [hretry]
        rfl
      | some fresh =>
        have hnew := afterFirst_eq_some_iff_renews.1 hretry
        simp only [hretry]
        cases hq' : call.request p (some fresh) with
        | error fault =>
          exact ⟨[(q, r)], _, _, rfl, .unmadeAgain hq hfault hnew hq', hnonce⟩
        | ok q' =>
          simp only [bind_log, transmit_server]
          cases hfault' : q'.fault? with
          | some fault =>
            exact ⟨[(q, r)], _, _, rfl, .unwrittenAgain hq hfault hnew hq' hfault', hnonce⟩
          | none =>
            generalize server (log ++ [(q, r)]) q' = r'
            refine ⟨[(q, r), (q', r')], .ok r', (m.afterFirst p.isSome r).2.afterSecond r', ?_,
              .twice hq hfault hnew hq' hfault', ?_⟩
            · rw [List.append_assoc]
              rfl
            · rw [NonceMemory.afterSecond, nonce_remember, hnonce, ← Option.or_assoc,
                ← Log.nonce?_singleton q' r', ← Log.nonce?_append]
              rfl

end

/-! ## The rule -/

section

variable {call : Call} {p : Option Prover} {prove : Prover} {nonce : Option String}

theorem request_some (call : Call) (prove : Prover) (nonce : Option String) :
    call.request (some prove) nonce = (call.proof prove nonce).map call.proved :=
  request_eq call nonce

theorem request_eq_ok_iff {q : HttpRequest} : call.request (some prove) nonce = .ok q ↔
    ∃ proof, call.proof prove nonce = .ok proof ∧ q = call.proved proof := by
  rw [request_some]
  cases call.proof prove nonce with
  | error fault => simp [Except.map]
  | ok proof => simp [Except.map, eq_comm]

theorem request_eq_error_iff {fault : AuthFault} : call.request p nonce = .error fault ↔
    ∃ prove, p = some prove ∧ call.proof prove nonce = .error fault := by
  cases p with
  | none =>
    obtain ⟨q, hq⟩ : ∃ q, call.request none nonce = .ok q := by cases call <;> exact ⟨_, rfl⟩
    simp [hq]
  | some prove =>
    rw [request_some]
    cases hproof : call.proof prove nonce <;> simp [Except.map, hproof]

theorem fault?_eq_none_iff {q : HttpRequest} : q.fault? = none ↔
    q.headers.all isWritable ∧ (q.url.scheme = "http" ∨ q.url.scheme = "https") := by
  unfold HttpRequest.fault?
  split_ifs with hheaders hscheme
  · have hnone : q.headers.all isWritable = false := by simpa using hheaders
    simp [hnone]
  · simp [hscheme]
  · have hall : q.headers.all isWritable = true := by simpa using hheaders
    simpa [hall, or_iff_not_imp_left] using hscheme

theorem fault?_proved_eq_none_iff {proof : String} : (call.proved proof).fault? = none ↔
    call.unproved.fault? = none ∧ (Bytes.ofText proof).all isValueByte := by
  have hwritable : isWritable ("DPoP", proof) = (Bytes.ofText proof).all isValueByte := by
    have htoken : isToken "DPoP" = true := by decide
    rw [isWritable, htoken, Bool.true_and]
  have hheaders : (call.proved proof).headers = call.unproved.headers ++ [("DPoP", proof)] := rfl
  have hurl : (call.proved proof).url = call.unproved.url := rfl
  rw [fault?_eq_none_iff, fault?_eq_none_iff, hheaders, hurl, List.all_append, List.all_cons,
    List.all_nil, Bool.and_true, hwritable, Bool.and_eq_true]
  exact and_right_comm

/-- The request of a call over a nonce cannot be sent: there is no proof, or it is not writable. -/
def Call.Unsendable (call : Call) (p : Option Prover) (nonce : Option String) (fault : AuthFault) :
    Prop :=
  (∃ prove, p = some prove ∧ call.proof prove nonce = .error fault) ∨
    ∃ q f, call.request p nonce = .ok q ∧ q.fault? = some f ∧ fault = .http f

end

/-- The rule for a call that begins with a remembered nonce. -/
structure KeepsRule (p : Option Prover) (call : Call) (nonce : Option String) (log : Log)
    (answer : Except AuthFault Response) : Prop where
  /-- It sends at most two requests. -/
  length_le : log.length ≤ 2
  /-- The first one has a proof over the remembered nonce, if there is a prover. -/
  first : ∀ q r, log.head? = some (q, r) → call.request p nonce = .ok q ∧
    ∀ prove, p = some prove → ∃ proof, call.proof prove nonce = .ok proof ∧ q = call.proved proof
  /-- There is a second one exactly if there is a prover, the response refuses the first one and
  hands out another nonce than the one used, and a proof over that nonce can be made and written. -/
  second_iff : log.length = 2 ↔ ∃ prove q r fresh proof, p = some prove ∧
    log.head? = some (q, r) ∧ Asks r fresh ∧ nonce ≠ some fresh ∧
      call.proof prove (some fresh) = .ok proof ∧ (Bytes.ofText proof).all isValueByte
  /-- It differs from the first one in the proof only, which is over the nonce handed out. -/
  second : ∀ q r q' r', log = [(q, r), (q', r')] → ∃ prove fresh proof proof', p = some prove ∧
    HandsOut r fresh ∧ call.proof prove nonce = .ok proof ∧
      call.proof prove (some fresh) = .ok proof' ∧ q = call.proved proof ∧ q' = call.proved proof'
  /-- A proof that fails ends the call before its first request is sent. -/
  unproved : ∀ prove fault, p = some prove → call.proof prove nonce = .error fault →
    log = [] ∧ answer = .error fault
  /-- A proof that fails ends the call before its second request is sent. -/
  unprovedAgain : ∀ prove q r fresh fault, p = some prove → log.head? = some (q, r) →
    Asks r fresh → nonce ≠ some fresh → call.proof prove (some fresh) = .error fault →
      log = [(q, r)] ∧ answer = .error fault
  /-- Else the last response is the answer, if no request was due that cannot be sent. -/
  answered : (∃ q r, log.getLast? = some (q, r) ∧ answer = .ok r) ∨
    ∃ due fault, answer = .error fault ∧ call.Unsendable p due fault ∧
      (log = [] ∧ due = nonce ∨
        ∃ q r fresh, log = [(q, r)] ∧ Renews p nonce r fresh ∧ due = some fresh)

namespace Course.Alone

variable {p : Option Prover} {call : Call} {nonce : Option String} {log : Log}
variable {answer : Except AuthFault Response}

theorem length_le (h : Course.Alone p call nonce log answer) : log.length ≤ 2 := by
  cases h <;> simp

theorem request_first (h : Course.Alone p call nonce log answer) {q : HttpRequest} {r : Response}
    (hfirst : log.head? = some (q, r)) : call.request p nonce = .ok q ∧ q.fault? = none := by
  cases h with
  | unmade h => cases hfirst
  | unwritten h hfault => cases hfirst
  | once h hfault | unmadeAgain h hfault | unwrittenAgain h hfault | twice h hfault =>
    cases hfirst
    exact ⟨h, hfault⟩

theorem second_iff (h : Course.Alone p call nonce log answer) :
    log.length = 2 ↔ ∃ prove q r fresh proof, p = some prove ∧ log.head? = some (q, r) ∧
      Asks r fresh ∧ nonce ≠ some fresh ∧ call.proof prove (some fresh) = .ok proof ∧
        (Bytes.ofText proof).all isValueByte := by
  constructor
  · intro hlength
    cases h with
    | @twice q q' r r' fresh h hfault hnew h' hfault' =>
      obtain ⟨hsome, hasks, hne⟩ := hnew
      obtain ⟨prove, rfl⟩ := Option.isSome_iff_exists.1 hsome
      obtain ⟨proof, hproof, rfl⟩ := request_eq_ok_iff.1 h'
      exact ⟨prove, q, r, fresh, proof, rfl, rfl, hasks, hne, hproof,
        (fault?_proved_eq_none_iff.1 hfault').2⟩
    | _ => cases hlength
  · rintro ⟨prove, q, r, fresh, proof, rfl, hfirst, hasks, hne, hproof, hwritable⟩
    have hrequest : call.request (some prove) (some fresh) = .ok (call.proved proof) :=
      request_eq_ok_iff.2 ⟨proof, hproof, rfl⟩
    cases h with
    | unmade h => cases hfirst
    | unwritten h hfault => cases hfirst
    | once h hfault hdone =>
      cases hfirst
      exact absurd ⟨rfl, hasks, hne⟩ (hdone fresh)
    | unmadeAgain h hfault hnew h' =>
      cases hfirst
      rw [hnew.2.1.unique hasks, hrequest] at h'
      cases h'
    | unwrittenAgain h hfault hnew h' hfault' =>
      -- Since the first request was written, only the proof could be at fault.
      cases hfirst
      obtain ⟨first, -, rfl⟩ := request_eq_ok_iff.1 h
      rw [hnew.2.1.unique hasks, hrequest] at h'
      cases h'
      have hplain := (fault?_proved_eq_none_iff.1 hfault).1
      rw [fault?_proved_eq_none_iff.2 ⟨hplain, hwritable⟩] at hfault'
      cases hfault'
    | twice => rfl

theorem second {q q' : HttpRequest} {r r' : Response}
    (h : Course.Alone p call nonce [(q, r), (q', r')] answer) :
    ∃ prove fresh proof proof', p = some prove ∧ HandsOut r fresh ∧
      call.proof prove nonce = .ok proof ∧ call.proof prove (some fresh) = .ok proof' ∧
        q = call.proved proof ∧ q' = call.proved proof' := by
  cases h with
  | @twice _ _ _ _ fresh h hfault hnew h' hfault' =>
    obtain ⟨hsome, hasks, -⟩ := hnew
    obtain ⟨prove, rfl⟩ := Option.isSome_iff_exists.1 hsome
    obtain ⟨proof, hproof, rfl⟩ := request_eq_ok_iff.1 h
    obtain ⟨proof', hproof', rfl⟩ := request_eq_ok_iff.1 h'
    exact ⟨prove, fresh, proof, proof', rfl, hasks.nonce, hproof, hproof', rfl, rfl⟩

theorem of_request_error {fault : AuthFault} (h : Course.Alone p call nonce log answer)
    (hrequest : call.request p nonce = .error fault) : log = [] ∧ answer = .error fault := by
  cases h with
  | unmade h =>
    rw [hrequest] at h
    cases h
    exact ⟨rfl, rfl⟩
  | unwritten h | once h | unmadeAgain h | unwrittenAgain h | twice h =>
    rw [hrequest] at h
    cases h

theorem of_second_request_error {q : HttpRequest} {r : Response} {fresh : String}
    {fault : AuthFault} (h : Course.Alone p call nonce log answer)
    (hfirst : log.head? = some (q, r)) (hrenews : Renews p nonce r fresh)
    (hrequest : call.request p (some fresh) = .error fault) :
    log = [(q, r)] ∧ answer = .error fault := by
  cases h with
  | unmade h => cases hfirst
  | unwritten h hfault => cases hfirst
  | once h hfault hdone =>
    cases hfirst
    exact absurd hrenews (hdone fresh)
  | unmadeAgain h hfault hnew h' =>
    cases hfirst
    rw [hnew.2.1.unique hrenews.2.1, hrequest] at h'
    cases h'
    exact ⟨rfl, rfl⟩
  | unwrittenAgain h hfault hnew h' | twice h hfault hnew h' =>
    cases hfirst
    rw [hnew.2.1.unique hrenews.2.1, hrequest] at h'
    cases h'

/-- A call is over with the last response, unless a request was due that cannot be sent. -/
theorem answered (h : Course.Alone p call nonce log answer) :
    (∃ q r, log.getLast? = some (q, r) ∧ answer = .ok r) ∨
      ∃ due fault, answer = .error fault ∧ call.Unsendable p due fault ∧
        (log = [] ∧ due = nonce ∨
          ∃ q r fresh, log = [(q, r)] ∧ Renews p nonce r fresh ∧ due = some fresh) := by
  cases h with
  | unmade h => exact .inr ⟨_, _, rfl, .inl (request_eq_error_iff.1 h), .inl ⟨rfl, rfl⟩⟩
  | unwritten h hfault => exact .inr ⟨_, _, rfl, .inr ⟨_, _, h, hfault, rfl⟩, .inl ⟨rfl, rfl⟩⟩
  | once h hfault hdone => exact .inl ⟨_, _, rfl, rfl⟩
  | unmadeAgain h hfault hnew h' =>
    exact .inr ⟨_, _, rfl, .inl (request_eq_error_iff.1 h'), .inr ⟨_, _, _, rfl, hnew, rfl⟩⟩
  | unwrittenAgain h hfault hnew h' hfault' =>
    exact .inr ⟨_, _, rfl, .inr ⟨_, _, h', hfault', rfl⟩, .inr ⟨_, _, _, rfl, hnew, rfl⟩⟩
  | twice h hfault hnew h' hfault' => exact .inl ⟨_, _, rfl, rfl⟩

theorem keepsRule (h : Course.Alone p call nonce log answer) :
    KeepsRule p call nonce log answer where
  length_le := h.length_le
  first q r hfirst := by
    have hrequest := (h.request_first hfirst).1
    refine ⟨hrequest, ?_⟩
    rintro prove rfl
    exact request_eq_ok_iff.1 hrequest
  second_iff := h.second_iff
  second := by
    rintro q r q' r' rfl
    exact h.second
  unproved prove fault hp hproof := h.of_request_error (request_eq_error_iff.2 ⟨prove, hp, hproof⟩)
  unprovedAgain prove q r fresh fault hp hfirst hasks hne hproof :=
    h.of_second_request_error hfirst ⟨by rw [hp]; rfl, hasks, hne⟩
      (request_eq_error_iff.2 ⟨prove, hp, hproof⟩)
  answered := h.answered

end Course.Alone

/-! ## Calls in a row -/

/-- Calls in a row that begin with a remembered nonce: each keeps the rule, and the next begins with
the nonce that was handed out last. -/
inductive InTurn : Option String → List (Option Prover × Call) → List Outcome → Log → Prop
  | nil (nonce : Option String) : InTurn nonce [] [] []
  | cons {nonce : Option String} {p : Option Prover} {call : Call}
      {answer : Except AuthFault Response} {calls : List (Option Prover × Call)}
      {outcomes : List Outcome} {log log' : Log}
      (h : KeepsRule p call nonce log answer)
      (hrest : InTurn (log.nonce?.or nonce) calls outcomes log') :
      InTurn nonce ((p, call) :: calls) (call.outcome answer :: outcomes) (log ++ log')

theorem perform_server (server : Server) (p : Option Prover) (call : Call) (m : NonceMemory)
    (past : Log) :
    ∃ log answer m', call.perform server.network p m past =
        ((call.outcome answer, m'), past ++ log) ∧
      KeepsRule p call m.nonce log answer ∧ m'.nonce = log.nonce?.or m.nonce := by
  obtain ⟨log, answer, m', hsend, halone, hnonce⟩ := send_server server past p call m
  refine ⟨log, answer, m', ?_, halone.keepsRule, hnonce⟩
  cases call with
  | grant r =>
    have hgrant : send server.network p.isSome (grantRequest p r) m past =
        ((answer, m'), past ++ log) := hsend
    rw [Call.perform, Http.grant, bind_log, bind_log, hgrant]
    rfl
  | fetch token r =>
    have hfetch : send server.network p.isSome (fetchRequest p token r) m past =
        ((answer, m'), past ++ log) := hsend
    rw [Call.perform, Http.fetch, bind_log, hfetch]
    rfl

/-- Calls that do not overlap, on a client with whatever provers and with a server that answers
every request: each keeps the rule, beginning with the nonce that was handed out last before it, and
that is the nonce that is remembered after all of them. -/
theorem nonce_retry_rule (server : Server) (calls : List (Option Prover × Call)) (m : NonceMemory)
    (past : Log) :
    ∃ outcomes m' log, performAll server.network m calls past = ((outcomes, m'), past ++ log) ∧
      InTurn m.nonce calls outcomes log ∧ m'.nonce = log.nonce?.or m.nonce := by
  induction calls generalizing m past with
  | nil => exact ⟨[], m, [], by rw [List.append_nil]; rfl, .nil _, rfl⟩
  | cons c calls ih =>
    obtain ⟨p, call⟩ := c
    obtain ⟨log, answer, m', hcall, hrule, hnonce⟩ := perform_server server p call m past
    obtain ⟨outcomes, m'', log', hcalls, hturn, hlast⟩ := ih m' (past ++ log)
    refine ⟨call.outcome answer :: outcomes, m'', log ++ log', ?_, .cons hrule (hnonce ▸ hturn), ?_⟩
    · rw [performAll, bind_log, hcall]
      simp only [bind_log, hcalls, List.append_assoc]
      rfl
    · rw [hlast, hnonce, Log.nonce?_append, Option.or_assoc]

/-- The nonce of a refusal is used at once, and by the next call. -/
example :
    let server : Server := fun log _ => if log.isEmpty then refusal "n1" else ⟨200, [], []⟩
    let fetch := (some Prover.sample, Call.sample)
    let ran := performAll server.network {} [fetch, fetch] []
    ran.2.map (fun x => x.1.headers.lookup "DPoP") = [some "", some "n1", some "n1"] ∧
      ran.1.2.nonce = some "n1" := by
  decide

end SignIn.Http
