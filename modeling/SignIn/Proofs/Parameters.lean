import SignIn.Http.Client
import SignIn.Proofs.LoginFlow

/-!
# Parameters on their way to the server

What a login URL and a grant say is written in form encoding, once as a query and once as a body.
Both are read back as the pairs that were written, whatever texts the pairs are made of, so that
none of them can pass for another parameter. A login URL has no other query and no fragment, for
the endpoint that it is made of has none.
-/

namespace SignIn

open Text Url

/-! ## Endpoints below an origin -/

theorem Endpoints.exists_ofOrigin {origin : Url} (horigin : origin.isPlain = false)
    (clientId : String) :
    ∃ e, ofOrigin origin clientId = .ok e ∧ e.clientId = clientId ∧
      e.authorization.query = none ∧ e.authorization.fragment = none := by
  have hauthorize : significant "oauth/authorize" = "oauth/".toList ++ "authorize".toList := by
    decide
  have htoken : significant "oauth/token" = "oauth/".toList ++ "token".toList := by decide
  have hends : ∀ c ∈ "oauth/".toList ++ "authorize".toList, endsPath c = false :=
    forall_of_all (by decide)
  have hopen : ¬ origin.isPlain := by simp [horigin]
  obtain ⟨scheme, a, path, hjoin⟩ := (if_neg hopen).mp (Url.join_oauth origin hauthorize)
  obtain ⟨scheme', a', path', hjoin'⟩ := (if_neg hopen).mp (Url.join_oauth origin htoken)
  unfold ofOrigin
  rw [hjoin, hjoin', finish_of_endsPath hends]
  exact ⟨_, rfl, rfl, rfl, rfl⟩

/-! ## The login URL -/

theorem Url.appendPairs_of_none {u : Url} (hquery : u.query = none) (ps : List (String × String)) :
    u.appendPairs ps = { u with query := some (String.ofList (Form.encodePairs ps)) } := by
  unfold appendPairs
  rw [hquery]

theorem Url.text_of_query {u : Url} (hquery : u.query = none) (hfragment : u.fragment = none)
    (query : String) : { u with query := some query }.text = u.text ++ "?" ++ query := by
  obtain ⟨scheme, authority, path, _, _⟩ := u
  obtain rfl := hquery
  obtain rfl := hfragment
  simp [text, after, String.append_assoc]

/-! ## The grant -/

namespace Http

/-- A network that answers or fails by what it was handed before, which it keeps. -/
def recording (network : List HttpRequest → HttpRequest → Except HttpFault Response) :
    Network (StateM (List HttpRequest)) := fun q handed => (network handed q, handed ++ [q])

theorem body_of_grantRequest {prover : Option Prover} {r : TokenRequest} {nonce : Option String}
    {q : HttpRequest} (h : grantRequest prover r nonce = .ok q) : q.body = some (grantBody r) := by
  obtain ⟨proof, -, h⟩ := exists_of_bind_eq_ok h
  cases h
  rfl

section Sending

variable (network : List HttpRequest → HttpRequest → Except HttpFault Response)

theorem bind_recording {α β : Type} (x : StateM (List HttpRequest) α)
    (f : α → StateM (List HttpRequest) β) (handed : List HttpRequest) :
    (x >>= f) handed = f (x handed).1 (x handed).2 := rfl

theorem transmit_recording (q : HttpRequest) (handed : List HttpRequest) :
    (transmit (recording network) q handed).2 =
      if q.fault? = none then handed ++ [q] else handed := by
  unfold transmit
  cases q.fault? with
  | none => rfl
  | some fault => rfl

theorem prefix_transmit (q : HttpRequest) (handed : List HttpRequest) :
    handed <+: (transmit (recording network) q handed).2 := by
  rw [transmit_recording]
  split
  · exact List.prefix_append handed [q]
  · exact List.prefix_rfl

variable {proving : Bool} {build : Option String → Except AuthFault HttpRequest}
  {memory : NonceMemory}

/-- A request that is sent is the only one, or it is followed by one more. -/
theorem send_recording_cases {first : HttpRequest} (hfirst : build memory.nonce = .ok first) :
    let once := (transmit (recording network) first []).2
    let handed := (send (recording network) proving build memory []).2
    handed = once ∨ ∃ nonce second, build (some nonce) = .ok second ∧
      handed = (transmit (recording network) second once).2 := by
  unfold send
  rw [hfirst]
  simp only [bind_recording]
  generalize transmit (recording network) first [] = r
  obtain ⟨answer, once⟩ := r
  cases answer with
  | error fault => exact .inl rfl
  | ok response =>
    dsimp only
    cases (memory.afterFirst proving response).1 with
    | none => exact .inl rfl
    | some nonce =>
      dsimp only
      cases hsecond : build (some nonce) with
      | error fault => exact .inl rfl
      | ok second =>
        refine .inr ⟨nonce, second, hsecond, ?_⟩
        simp only [bind_recording]
        generalize transmit (recording network) second once = r
        obtain ⟨answer, handed⟩ := r
        cases answer <;> rfl

theorem forall_of_send {P : HttpRequest → Prop} (hbuild : ∀ nonce q, build nonce = .ok q → P q) :
    ∀ q ∈ (send (recording network) proving build memory []).2, P q := by
  have hone : ∀ q handed, P q → (∀ q' ∈ handed, P q') →
      ∀ q' ∈ (transmit (recording network) q handed).2, P q' := by
    intro q handed hq hhanded q' hq'
    rw [transmit_recording] at hq'
    split at hq'
    · rcases List.mem_append.mp hq' with hq' | hq'
      · exact hhanded q' hq'
      · rwa [List.mem_singleton.mp hq']
    · exact hhanded q' hq'
  cases hfirst : build memory.nonce with
  | error fault =>
    unfold send
    rw [hfirst]
    exact fun q hq => absurd hq List.not_mem_nil
  | ok first =>
    have honce := hone first [] (hbuild _ _ hfirst) (by simp)
    rcases send_recording_cases network hfirst with hsend | ⟨nonce, second, hsecond, hsend⟩
    · rwa [hsend]
    · rw [hsend]
      exact hone second _ (hbuild _ _ hsecond) honce

theorem mem_of_send {first : HttpRequest} (hfirst : build memory.nonce = .ok first)
    (hfault : first.fault? = none) :
    first ∈ (send (recording network) proving build memory []).2 := by
  have honce : first ∈ (transmit (recording network) first []).2 := by
    rw [transmit_recording, if_pos hfault]
    exact List.mem_singleton_self first
  rcases send_recording_cases network hfirst with hsend | ⟨nonce, second, -, hsend⟩
  · rwa [hsend]
  · rw [hsend]
    exact (prefix_transmit network second _).subset honce

end Sending

end Http

/-- Below an origin that can be a base a login URL is the authorization endpoint with a query that
is read back as the five parameters, and the store holds the handle and the state. A grant hands the
request that it builds to the network if it can be written, and every request that it hands over,
this one or a second one, has a body that is read back as the four parameters. -/
theorem parameters_arrive_unchanged {σ : Type} {s : Storage σ} {Holds : σ → Entries → Prop}
    (hs : s.Reliable Holds) {d : σ} {st : Entries} (hd : Holds d st) {origin : Url}
    (horigin : origin.isPlain = false) (clientId state handle : String) (redirect : Url) :
    (∃ e login after query, Endpoints.ofOrigin origin clientId = .ok e ∧
      LoginFlow.issue s e state handle redirect d = (.ok login, after) ∧
      login.query = some query ∧ { login with query := none } = e.authorization ∧
      login.text = e.authorization.text ++ "?" ++ query ∧
      Form.decodePairs query.toList =
        [("response_type", "code"), ("redirect_uri", redirect.text), ("handle", handle),
          ("state", state), ("client_id", clientId)] ∧
      ∀ key, (s.get key after).1 =
        if key = stateKey then .ok (some state)
        else if key = handleKey then .ok (some handle)
        else (s.get key d).1) ∧
    ∀ network prover (request : TokenRequest) memory,
      let handed := (Http.grant (Http.recording network) prover request memory []).2
      (∀ q, Http.grantRequest prover request memory.nonce = .ok q → q.fault? = none → q ∈ handed) ∧
      ∀ q ∈ handed, ∃ text, q.body.bind Bytes.text? = some text ∧
          Form.decodePairs text.toList =
            [("grant_type", "authorization_code"), ("code", request.code),
              ("redirect_uri", request.redirectUri), ("client_id", request.clientId)] := by
  constructor
  · obtain ⟨e, he, hclient, hquery, hfragment⟩ := Endpoints.exists_ofOrigin horigin clientId
    obtain ⟨hanswer, hafter⟩ := hs.issue e state handle redirect d st hd
    have hlogin : LoginFlow.loginUrl e state handle redirect = _ :=
      Url.appendPairs_of_none hquery (LoginFlow.loginPairs e state handle redirect)
    refine ⟨e, _, _, _, he, Prod.ext hanswer rfl, congrArg Url.query hlogin, ?_, ?_, ?_, ?_⟩
    · rw [hlogin, ← hquery]
    · rw [hlogin, Url.text_of_query hquery hfragment]
    · rw [String.toList_ofList, Form.decodePairs_encodePairs, LoginFlow.loginPairs, hclient]
    · intro key
      rw [(hs.get key _ _ hafter).1, (hs.get key _ _ hd).1]
      change Except.ok (((st.set handleKey handle).set stateKey state).get? key) = _
      rw [Entries.get?_set, Entries.get?_set]
      split_ifs <;> rfl
  · intro network prover request memory handed
    have hhanded : handed =
        (Http.send (Http.recording network) prover.isSome (Http.grantRequest prover request)
          memory []).2 := rfl
    rw [hhanded]
    refine ⟨fun q hq hfault => Http.mem_of_send network hq hfault, fun q hq => ?_⟩
    have hbody : q.body = some (Http.grantBody request) :=
      Http.forall_of_send network (fun _ _ h => Http.body_of_grantRequest h) q hq
    refine ⟨String.ofList (Form.encodePairs (Http.grantPairs request)), ?_, ?_⟩
    · rw [hbody]
      exact Bytes.text?_ofText _
    · rw [String.toList_ofList, Form.decodePairs_encodePairs]
      rfl

set_option maxRecDepth 10000 in
/-- A handle that spells a state, and a code that spells a client, are read back as they are. -/
theorem parameters_arrive_unchanged_with_signs :
    let request : TokenRequest :=
      ⟨.secure "node.example" ["oauth", "token"], "c&client_id=x", "https://app.example/cb",
        "app+1"⟩
    (∃ e login after query,
      Endpoints.ofOrigin (.secure "node.example" [""]) "app+1" = .ok e ∧
      LoginFlow.issue .memory e "s1" "a b&state=s2#%41" (.secure "app.example" ["cb"]) .empty =
        (.ok login, after) ∧
      login.query = some query ∧
      Form.decodePairs query.toList =
        [("response_type", "code"), ("redirect_uri", "https://app.example/cb"),
          ("handle", "a b&state=s2#%41"), ("state", "s1"), ("client_id", "app+1")] ∧
      (Storage.memory.get stateKey after).1 = .ok (some "s1")) ∧
    ∃ q text, (Http.grant (Http.recording fun _ _ => .ok ⟨200, [], []⟩) none request {} []).2 =
        [q] ∧
      q.body.bind Bytes.text? = some text ∧
      Form.decodePairs text.toList =
        [("grant_type", "authorization_code"), ("code", "c&client_id=x"),
          ("redirect_uri", "https://app.example/cb"), ("client_id", "app+1")] := by
  intro request
  obtain ⟨⟨e, login, after, query, he, hissue, hquery, -, -, hpairs, hstore⟩, hgrant⟩ :=
    parameters_arrive_unchanged Storage.memory_reliable (rfl : Entries.empty = .empty)
      (rfl : (Url.secure "node.example" [""]).isPlain = false) "app+1" "s1" "a b&state=s2#%41"
      (.secure "app.example" ["cb"])
  refine ⟨⟨e, login, after, query, he, hissue, hquery, hpairs, hstore stateKey⟩, ?_⟩
  obtain ⟨q, hsent⟩ : ∃ q, (Http.grant (Http.recording fun _ _ => .ok ⟨200, [], []⟩) none request {}
      []).2 = [q] := ⟨_, rfl⟩
  obtain ⟨text, htext, hread⟩ := (hgrant _ none request {}).2 q (hsent ▸ List.mem_singleton_self q)
  exact ⟨q, text, hsent, htext, hread⟩

end SignIn
