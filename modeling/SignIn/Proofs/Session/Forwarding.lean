import SignIn.Proofs.Gateway
import SignIn.Proofs.Session.Restart
import SignIn.Proofs.Session.Teardown

/-!
# What a fetch passes on

A fetch that runs to its end hands the request of the application to the client once, as it was
built but for the header that names the way of authentication, and hands back what the client
answers. Only without a token, or if the credential was not accepted, it does something to the
session, which is then torn down; in all other cases nothing can be seen to have changed.
-/

namespace SignIn

/-! ## Requests that are built -/

namespace Request

/-- A call with which an application goes on building a request. -/
inductive Part where
  | header (name value : String)
  | body (bytes : Bytes)
  | json (value : Json)

def Part.headers : Part → List (String × String)
  | .header name value => [(name, value)]
  | .body _ => []
  | .json _ => [("Content-Type", "application/json")]

def Part.body? : Part → Option Bytes
  | .header .. => none
  | .body bytes => some bytes
  | .json value => some value.compact

def put (r : Request) : Part → Request
  | .header name value => r.withHeader name value
  | .body bytes => r.withBody bytes
  | .json value => r.withJson value

def build (method : Method) (target : String) (parts : List Part) : Request :=
  parts.foldl put { method, target }

/-- What is built has all headers in order, and the last body. -/
theorem build_eq (method : Method) (target : String) (parts : List Part) :
    build method target parts =
      ⟨method, target, parts.flatMap Part.headers, (parts.filterMap Part.body?).getLast?⟩ := by
  induction parts using List.reverseRecOn with
  | nil => rfl
  | append_singleton parts part ih =>
    rw [build, List.foldl_append]
    change put (build method target parts) part = _
    rw [ih]
    cases part <;> simp [put, withHeader, withBody, withJson, Part.headers, Part.body?]

theorem exists_build (r : Request) : ∃ parts, r = build r.method r.target parts := by
  obtain ⟨method, target, headers, body⟩ := r
  refine ⟨headers.map (fun h => .header h.1 h.2) ++ (body.map .body).toList, ?_⟩
  have hnone : (headers.map fun h => Part.header h.1 h.2).filterMap Part.body? = [] := by
    simp [Part.body?]
  rw [build_eq, List.filterMap_append, hnone]
  cases body <;> simp [List.flatMap_map, Part.headers, Part.body?]

end Request

/-! ## Fetches through a client -/

/-- A manager has lost its session for a reason: handle and token are forgotten, no key of the
session is kept, every other key is kept as before, and one notice was given. -/
structure Moment.Forfeits {A B : Type} (x : Moment A B) (n : Nat) (reason : DeauthReason) :
    Prop where
  forgets : ∃ m, x.before.managers[n]? = some m ∧
    x.after.managers = x.before.managers.set n m.tornDown
  keeps : ∀ key, x.after.keeps key = if key ∈ sessionKeys then .ok none else x.before.keeps key
  notifies : x.after.notices = x.before.notices ++ [(n, ⟨reason, .unauthenticated none⟩)]
  waiting : x.after.waiting = x.before.waiting

namespace OpenManagers

variable {σ : Type} {p : Platform σ} {Holds : σ → Entries → Prop} {o : OpenManagers σ}
  {o' o'' : OpenManagers Entries} {n : Nat} {m : Manager} {r : Request}

section Client

variable {M : Type → Type} [Monad M]
  (client : ResourceRequest → String → M (Except AuthFault Response))

/-- Runs a fetch to its end, with a client that is given the request and the token and says what
it is answered. -/
def fetchBy (p : Platform σ) (o : OpenManagers σ) (n : Nat) (r : Request) :
    M (Answer × OpenManagers σ) :=
  match o.step p (.startFetch n r) with
  | (.waits ⟨number, _, .fetch q⟩, o) => do
    let received ← client q.request q.token
    return o.step p (.finishFetch number received)
  | (answer, o) => return (answer, o)

theorem fetchBy_of_unsent {received : Except AuthFault Response}
    (h : o.outgoing? p (.fetch n r received) = none) :
    o.fetchBy client p n r = pure (o.operate p (.fetch n r received)) := by
  unfold outgoing? at h
  unfold fetchBy operate
  simp only [Operation.start] at h ⊢
  generalize o.step p (.startFetch n r) = started at h
  obtain ⟨answer, o₁⟩ := started
  cases answer with
  | waits t => cases h
  | _ => rfl

theorem fetchBy_of_sent [LawfulMonad M] {request : ResourceRequest} {token : String}
    (h : ∀ received, o.outgoing? p (.fetch n r received) = some (.fetch request token)) :
    o.fetchBy client p n r =
      (fun received => o.operate p (.fetch n r received)) <$> client request token := by
  unfold outgoing? at h
  unfold fetchBy operate
  simp only [Operation.start] at h ⊢
  generalize o.step p (.startFetch n r) = started at h
  obtain ⟨answer, o₁⟩ := started
  cases answer with
  | waits t =>
    obtain ⟨number, k, call⟩ := t
    cases call with
    | exchange q => cases h (.error .unauthenticated)
    | fetch q =>
      cases h (.error .unauthenticated)
      exact bind_pure_comp _ _
  | _ => cases h (.error .unauthenticated)

end Client

/-- Over a reliable store an operation comes to what its turn in memory says. -/
theorem MirroredBy.of_operationTurn (hp : p.Reliable Holds) (h : o.MirroredBy Holds o')
    (hn : o'.Numbered)
    {a : Operation} {sent : Option Outgoing} {answer : Answer}
    (hop : o'.OperationTurn p.endpoints a sent answer o'') :
    o.outgoing? p a = sent ∧ moment p.storage (OpenManagers.operate p) o a =
      ⟨o'.scene .memory, a, answer, o''.scene .memory⟩ := by
  obtain ⟨hsent, hanswer, hafter⟩ := (hn.operationTurn_operate p a).functional hop
  obtain ⟨hanswer', hafter'⟩ := h.operate hp a
  constructor
  · rw [h.outgoing?_eq hp, hsent]
  · rw [moment, h.scene_eq hp.storage, hafter'.scene_eq hp.storage, hanswer', hanswer, hafter]

theorem forfeits_tearDown (hm : o'.managers[n]? = some m) (a : Operation) (answer : Answer)
    (reason : DeauthReason) :
    Moment.Forfeits ⟨o'.scene .memory, a, answer, (o'.tearDown n m reason).scene .memory⟩ n
      reason := by
  constructor
  · exact ⟨m, hm, rfl⟩
  · intro key
    change Except.ok (o'.store.cleared.get? key) = if key ∈ sessionKeys then _ else
      Except.ok (o'.store.get? key)
    rw [show o'.store.cleared = o'.store.eraseAll sessionKeys from rfl, Entries.get?_eraseAll]
    split <;> rfl
  · rfl
  · rfl

end OpenManagers

theorem Gateway.mark_eq (headers : List (String × String)) :
    mark headers = headers.filter (fun h => Text.lowerAscii h.1 ≠ "habitat-auth-method") ++
      [("Habitat-Auth-Method", "oauth")] := by
  have hname : Text.lowerAscii markerName = "habitat-auth-method" := by decide
  have hother : ∀ h : String × String, (Text.lowerAscii h.1 != Text.lowerAscii markerName) =
      decide (Text.lowerAscii h.1 ≠ "habitat-auth-method") := by
    intro h
    rw [hname, Bool.eq_iff_iff, bne_iff_ne, decide_eq_true_iff]
  simp only [mark, hother]
  rfl

theorem Gateway.resourceRequest_build (method : Method) (target : String)
    (parts : List Request.Part) (url : Url) :
    resourceRequest (.build method target parts) url =
      { method := method
        url := url
        headers := (parts.flatMap Request.Part.headers).filter
            (fun h => Text.lowerAscii h.1 ≠ "habitat-auth-method") ++
          [("Habitat-Auth-Method", "oauth")]
        body := (parts.filterMap Request.Part.body?).getLast? } := by
  rw [Request.build_eq, resourceRequest, mark_eq]

theorem Gateway.interpret_of_not_rejects {received : Except AuthFault Response}
    (h : ¬ Rejects received) : interpret received = received := by
  cases received with
  | error fault => rfl
  | ok response => exact if_neg fun hstatus => h (.inr ⟨response, rfl, hstatus⟩)

theorem Gateway.fault_of_resolve {origin : Url} {target : String} {fault : AuthFault}
    (h : resolve origin target = .error fault) :
    (∃ cause, fault = .url cause) ∨ ∃ foreign, fault = .foreignOrigin foreign := by
  unfold resolve at h
  cases hjoin : origin.join target with
  | error cause =>
    rw [hjoin] at h
    cases h
    exact .inl ⟨cause, rfl⟩
  | ok url =>
    rw [hjoin] at h
    dsimp only at h
    split at h
    · cases h
    · cases h
      exact .inr ⟨_, rfl⟩

namespace OpenManagers

variable {σ : Type} {p : Platform σ} {Holds : σ → Entries → Prop} {o : OpenManagers σ}
  {o' : OpenManagers Entries} {n : Nat} {m : Manager} {r : Request}
    {received : Except AuthFault Response}
  (hp : p.Reliable Holds) (h : o.MirroredBy Holds o') (hn : o'.Numbered)
  (hm : o'.managers[n]? = some m)
include hp h hn hm

theorem MirroredBy.fetch_of_none (htoken : m.token = none) :
    o.outgoing? p (.fetch n r received) = none ∧
      let x := moment p.storage (OpenManagers.operate p) o (.fetch n r received)
      x.answer = .fault .unauthenticated ∧ x.Forfeits n .missingToken := by
  obtain ⟨hunsent, hx⟩ := h.of_operationTurn hp hn (a := .fetch n r received)
    (.brief (.tokenless hm htoken r) (by simp))
  refine ⟨hunsent, ?_⟩
  dsimp only
  rw [hx]
  exact ⟨rfl, forfeits_tearDown hm _ _ _⟩

variable {token : String} (htoken : m.token = some token)
include htoken

theorem MirroredBy.fetch_of_error {fault : AuthFault}
    (hr : Gateway.prepare p.endpoints.serverOrigin r = .error fault) :
    o.outgoing? p (.fetch n r received) = none ∧
      let x := moment p.storage (OpenManagers.operate p) o (.fetch n r received)
      x.answer = .fault fault ∧ x.after = x.before := by
  obtain ⟨hunsent, hx⟩ := h.of_operationTurn hp hn (a := .fetch n r received)
    (.brief (.unsent hm htoken hr) (by simp))
  refine ⟨hunsent, ?_⟩
  dsimp only
  rw [hx]
  exact ⟨rfl, rfl⟩

/-- A fetch whose credential is not accepted forfeits the session, and any other hands the answer
back and changes nothing. -/
theorem MirroredBy.fetch_of_ok {request : ResourceRequest}
    (hr : Gateway.prepare p.endpoints.serverOrigin r = .ok request)
    (received : Except AuthFault Response) :
    o.outgoing? p (.fetch n r received) = some (.fetch request token) ∧
      let x := moment p.storage (OpenManagers.operate p) o (.fetch n r received)
      (x.answer = .fault .unauthenticated ∧ x.Forfeits n .rejected ↔ Gateway.Rejects received) ∧
      (¬ Gateway.Rejects received → x.answer = .ofFetch received ∧ x.after = x.before) := by
  by_cases hrejects : Gateway.Rejects received
  · obtain ⟨hsent, hx⟩ := h.of_operationTurn hp hn (.rejected hm htoken hr
      (Gateway.interpret_eq_unauthenticated_iff.mpr hrejects))
    refine ⟨hsent, iff_of_true ?_ hrejects, fun hnot => absurd hrejects hnot⟩
    rw [hx]
    exact ⟨rfl, forfeits_tearDown hm _ _ _⟩
  · obtain ⟨hsent, hx⟩ := h.of_operationTurn hp hn (.answered hm htoken hr
      (mt Gateway.interpret_eq_unauthenticated_iff.mp hrejects))
    rw [Gateway.interpret_of_not_rejects hrejects] at hx
    refine ⟨hsent, iff_of_false ?_ hrejects, fun _ => ?_⟩
    · rintro ⟨-, hforfeits⟩
      have hnotices := hforfeits.notifies
      rw [hx] at hnotices
      simp [scene, counted] at hnotices
    · rw [hx]
      exact ⟨rfl, rfl⟩

end OpenManagers

/-- A fetch that runs to its end, of any manager after any run over a reliable store, and of any
request that was built. Without a token the client is not called and the session is forfeited. With
a token the client is called once if the target lands on the node, with the method, the body and
the headers of the request; the session is forfeited exactly if the credential was not accepted,
and otherwise the answer of the client is handed back and nothing changes. A target that does not
land on the node is refused, and nothing changes either. -/
theorem fetch_forwards_or_forfeits {σ : Type} {p : Platform σ} {Holds : σ → Entries → Prop}
    (hp : p.Reliable Holds) {st : σ} {st' : Entries} (hst : Holds st st') (acts : List Act)
    {n : Nat} {m : Manager} (method : Method) (target : String) (parts : List Request.Part)
    {M : Type → Type} [Monad M] [LawfulMonad M]
    (client : ResourceRequest → String → M (Except AuthFault Response)) :
    let o := reach (fun o a => OpenManagers.step p o a) (OpenManagers.closed st) acts
    let r := Request.build method target parts
    let run := fun received => o.operate p (.fetch n r received)
    let x := fun received => moment p.storage (OpenManagers.operate p) o (.fetch n r received)
    o.managers[n]? = some m →
    (m.token = none → ∀ received,
      o.fetchBy client p n r = pure (run received) ∧
      (x received).answer = .fault .unauthenticated ∧ (x received).Forfeits n .missingToken) ∧
    ∀ token, m.token = some token →
      (∀ fault, Gateway.resolve p.endpoints.serverOrigin target = .error fault →
        ((∃ cause, fault = .url cause) ∨ ∃ foreign, fault = .foreignOrigin foreign) ∧
        ∀ received, o.fetchBy client p n r = pure (run received) ∧
          (x received).answer = .fault fault ∧ (x received).after = (x received).before) ∧
      ∀ url, Gateway.resolve p.endpoints.serverOrigin target = .ok url →
        o.fetchBy client p n r = run <$> client
          { method := method
            url := url
            headers := (parts.flatMap Request.Part.headers).filter
                (fun h => Text.lowerAscii h.1 ≠ "habitat-auth-method") ++
              [("Habitat-Auth-Method", "oauth")]
            body := (parts.filterMap Request.Part.body?).getLast? } token ∧
        ∀ received,
          ((x received).answer = .fault .unauthenticated ∧ (x received).Forfeits n .rejected ↔
            Gateway.Rejects received) ∧
          (¬ Gateway.Rejects received → (x received).answer = .ofFetch received ∧
            (x received).after = (x received).before) := by
  intro o r run x hm
  have hclosed : (OpenManagers.closed st).MirroredBy Holds (OpenManagers.closed st') :=
    ⟨hst, rfl, rfl, rfl, rfl⟩
  obtain ⟨o', hmirrored, -, hn, -⟩ := hclosed.exists_reach hp.faltering
    (OpenManagers.numbered_closed st') (OpenManagers.dated_closed st') acts
  rw [hmirrored.managers] at hm
  have hprepare : Gateway.prepare p.endpoints.serverOrigin r =
      (Gateway.resolve p.endpoints.serverOrigin target).map (Gateway.resourceRequest r) := by
    rw [Gateway.prepare_eq, show r.target = target by rw [show r = _ from Request.build_eq ..]]
  refine ⟨fun htoken received => ?_, fun token htoken => ⟨fun fault hresolve => ?_,
    fun url hresolve => ?_⟩⟩
  · obtain ⟨hunsent, hforfeits⟩ := hmirrored.fetch_of_none hp hn hm htoken
    exact ⟨OpenManagers.fetchBy_of_unsent client hunsent, hforfeits⟩
  · rw [hresolve] at hprepare
    refine ⟨Gateway.fault_of_resolve hresolve, fun received => ?_⟩
    obtain ⟨hunsent, hsame⟩ := hmirrored.fetch_of_error hp hn hm htoken hprepare
    exact ⟨OpenManagers.fetchBy_of_unsent client hunsent, hsame⟩
  · rw [hresolve] at hprepare
    have hfetch := hmirrored.fetch_of_ok hp hn hm htoken hprepare
    refine ⟨?_, fun received => (hfetch received).2⟩
    have hsent := OpenManagers.fetchBy_of_sent client fun received => (hfetch received).1
    have hrequest : Gateway.resourceRequest r url = _ :=
      Gateway.resourceRequest_build method target parts url
    rw [hrequest] at hsent
    exact hsent

set_option maxRecDepth 10000 in
/-- A request that names another way of authentication is sent once and names the right one; what
comes back changes nothing, unless it is the status 401. -/
theorem fetch_forwards_post :
    let kept : Entries := .ofPairs [(handleKey, "alice.example"), (tokenKey, "token-1")]
    let noting := fun request token =>
      (do
        modify (· ++ [(request, token)])
        return .ok ⟨200, [], []⟩ :
          StateM (List (ResourceRequest × String)) (Except AuthFault Response))
    let o := reach (fun o a => OpenManagers.step .sample o a) (OpenManagers.closed kept)
      [.openManager]
    let r := Request.build .post "/x"
      [.header "HABITAT-auth-method" "none", .header "Accept" "*/*", .json (.bool true)]
    let x := fun received => moment .plain (OpenManagers.operate .sample) o (.fetch 0 r received)
    ((o.fetchBy noting .sample 0 r).run []).2 =
        [({ method := .post
            url := .secure "node.example" ["x"]
            headers := [("Accept", "*/*"), ("Content-Type", "application/json"),
              ("Habitat-Auth-Method", "oauth")]
            body := some (Json.bool true).compact }, "token-1")] ∧
      (x (.ok ⟨200, [], []⟩)).answer = .response ⟨200, [], []⟩ ∧
      (x (.ok ⟨200, [], []⟩)).after = (x (.ok ⟨200, [], []⟩)).before ∧
      (x (.ok ⟨401, [], []⟩)).Forfeits 0 .rejected := by
  intro kept noting o r x
  have hm : o.managers[0]? =
      some ⟨.authenticated, some "alice.example", some "token-1", 0, false⟩ :=
    rfl
  obtain ⟨hsent, hfetch⟩ := ((fetch_forwards_or_forfeits Platform.sample_reliable
    (rfl : kept = kept) [.openManager] .post "/x" [.header "HABITAT-auth-method" "none",
      .header "Accept" "*/*", .json (.bool true)] noting hm).2 _ rfl).2
    (.secure "node.example" ["x"]) rfl
  obtain ⟨hanswer, hsame⟩ := (hfetch (.ok ⟨200, [], []⟩)).2 (by simp [Gateway.Rejects])
  refine ⟨?_, hanswer, hsame, ((hfetch (.ok ⟨401, [], []⟩)).1.mpr (.inr ⟨_, rfl, rfl⟩)).2⟩
  rw [show o.fetchBy noting .sample 0 r = _ from hsent]
  rfl

end SignIn
