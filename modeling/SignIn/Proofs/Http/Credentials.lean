import SignIn.Gateway
import SignIn.Proofs.Http.Nonces
import SignIn.Proofs.Parameters

/-!
# The credential of a request

Headers are added at the end and none replaces another. The header that names the way of
authentication is taken from an application before it is added, so there is one of it. The header
with the token and the one with the proof are only added: they stand alone exactly if the
application brings no header of their names and the URL names no user, for a user name becomes a
header with a credential of its own. This is said of each request as it is handed to the network,
which puts it on the wire and follows redirects with it.
-/

namespace SignIn.Http

open Text

/-! ## Headers of a name -/

/-- The values of the headers of a name. Capitals in names are as good as small letters. -/
def valuesOf (name : String) (headers : List (String × String)) : List String :=
  (headers.filter fun h => lowerAscii h.1 == lowerAscii name).map (·.2)

def Lacks (name : String) (headers : List (String × String)) : Prop :=
  ∀ h ∈ headers, lowerAscii h.1 ≠ lowerAscii name

section Values

variable {name other value : String} {headers : List (String × String)}

@[simp] theorem valuesOf_nil : valuesOf name [] = [] := rfl

@[simp] theorem valuesOf_append (headers' : List (String × String)) :
    valuesOf name (headers ++ headers') = valuesOf name headers ++ valuesOf name headers' := by
  simp [valuesOf]

@[simp] theorem valuesOf_cons_self :
    valuesOf name ((name, value) :: headers) = value :: valuesOf name headers := by
  simp [valuesOf]

theorem valuesOf_cons_of_ne (h : lowerAscii other ≠ lowerAscii name) :
    valuesOf name ((other, value) :: headers) = valuesOf name headers := by
  simp [valuesOf, h]

theorem valuesOf_eq_nil_iff : valuesOf name headers = [] ↔ Lacks name headers := by
  simp [valuesOf, Lacks]

theorem valuesOf_mark_of_ne (h : lowerAscii Gateway.markerName ≠ lowerAscii name) :
    valuesOf name (Gateway.mark headers) = valuesOf name headers := by
  unfold Gateway.mark
  rw [valuesOf_append, valuesOf_cons_of_ne h, valuesOf_nil, List.append_nil]
  unfold valuesOf
  rw [List.filter_filter]
  congr 1
  apply List.filter_congr
  intro header _
  by_cases hname : lowerAscii header.1 = lowerAscii name
  · simp [hname, Ne.symm h]
  · simp [hname]

theorem valuesOf_mark_self :
    valuesOf Gateway.markerName (Gateway.mark headers) = [Gateway.markerValue] := by
  have hnone : Lacks Gateway.markerName
      (headers.filter fun h => lowerAscii h.1 != lowerAscii Gateway.markerName) := by
    intro h hh
    simpa using (List.mem_filter.mp hh).2
  unfold Gateway.mark
  rw [valuesOf_append, valuesOf_eq_nil_iff.mpr hnone, valuesOf_cons_self, valuesOf_nil,
    List.nil_append]

end Values

/-! ## The request of a fetch -/

/-- The credential that a URL brings along: its user name and password. -/
def userCredential (u : Url) : List String :=
  ((credentials? u).map fun c => (basicAuthorization c).2).toList

theorem headers_start (method : Method) (url : Url) :
    (start method url).headers =
      (userCredential url).map fun value => ("Authorization", value) := by
  unfold start userCredential
  cases credentials? url <;> rfl

theorem userCredential_eq_nil_iff {u : Url} : userCredential u = [] ↔ credentials? u = none := by
  simp [userCredential]

section Fetch

variable {prover : Option Prover} {token : String} {r : ResourceRequest} {nonce : Option String}
  {q : HttpRequest}

/-- The headers of a request: first the credential of its URL, then the token, then what was asked
for, and a proof at the end. -/
theorem exists_headers_of_fetchRequest (h : fetchRequest prover token r nonce = .ok q) :
    ∃ proof, proofHeaders prover r.method r.url nonce (some token) = .ok proof ∧
      q.headers = (userCredential r.url).map (fun value => ("Authorization", value)) ++
        ("Authorization", authorizationValue prover.isSome token) :: (r.headers ++ proof) := by
  obtain ⟨proof, hproof, h⟩ := exists_of_bind_eq_ok h
  cases h
  refine ⟨proof, hproof, ?_⟩
  simp [HttpRequest.withHeaders, headers_start]

theorem proofHeaders_some {prove : Prover} {method : Method} {url : Url} {token : Option String}
    {headers : List (String × String)}
    (h : proofHeaders (some prove) method url nonce token = .ok headers) :
    ∃ proof, prove method url nonce token = .ok proof ∧ headers = [("DPoP", proof)] := by
  obtain ⟨proof, hproof, h⟩ := exists_of_bind_eq_ok h
  cases h
  exact ⟨proof, hproof, rfl⟩

theorem valuesOf_proofHeaders {method : Method} {url : Url} {token : Option String}
    {headers : List (String × String)}
    (h : proofHeaders prover method url nonce token = .ok headers) {name : String}
    (hname : lowerAscii "DPoP" ≠ lowerAscii name) : valuesOf name headers = [] := by
  cases prover with
  | none =>
    cases h
    rfl
  | some prove =>
    obtain ⟨proof, -, rfl⟩ := proofHeaders_some h
    rw [valuesOf_cons_of_ne hname, valuesOf_nil]

theorem authorization_of_fetchRequest (h : fetchRequest prover token r nonce = .ok q) :
    valuesOf "Authorization" q.headers = userCredential r.url ++
      authorizationValue prover.isSome token :: valuesOf "Authorization" r.headers := by
  obtain ⟨proof, hproof, hheaders⟩ := exists_headers_of_fetchRequest h
  have huser : ∀ values : List String,
      valuesOf "Authorization" (values.map fun value => ("Authorization", value)) = values := by
    intro values
    induction values with
    | nil => rfl
    | cons value values ih => rw [List.map_cons, valuesOf_cons_self, ih]
  rw [hheaders, valuesOf_append, huser, valuesOf_cons_self, valuesOf_append,
    valuesOf_proofHeaders hproof (by decide), List.append_nil]

theorem valuesOf_fetchRequest (h : fetchRequest prover token r nonce = .ok q) (name : String)
    (hname : lowerAscii "Authorization" ≠ lowerAscii name) :
    ∃ proof, proofHeaders prover r.method r.url nonce (some token) = .ok proof ∧
      valuesOf name q.headers = valuesOf name r.headers ++ valuesOf name proof := by
  obtain ⟨proof, hproof, hheaders⟩ := exists_headers_of_fetchRequest h
  refine ⟨proof, hproof, ?_⟩
  have huser : ∀ values : List String,
      valuesOf name (values.map fun value => ("Authorization", value)) = [] := by
    intro values
    induction values with
    | nil => rfl
    | cons value values ih => rw [List.map_cons, valuesOf_cons_of_ne hname, ih]
  rw [hheaders, valuesOf_append, huser, valuesOf_cons_of_ne hname, valuesOf_append, List.nil_append]

end Fetch

/-! ## Requests that are handed to the network -/

section Sending

variable (network : List HttpRequest → HttpRequest → Except HttpFault Response)

/-- The nonce that a request of a call is to be proved over: the remembered one for the first, and
for any other the one that the response to the first hands out. -/
def dueNonce (memory : NonceMemory) (handed : List HttpRequest) (i : Nat) : Option String :=
  if i = 0 then memory.nonce
  else handed.head?.bind fun first => (network [] first).toOption.bind nonceOf?

variable (memory : NonceMemory) (proving : Bool)
  (build : Option String → Except AuthFault HttpRequest)

/-- Nothing is handed to the network, or one request, or another one after it that is built over the
nonce which the response to the first hands out. -/
theorem handed_cases :
    let handed := (send (recording network) proving build memory []).2
    handed = [] ∨ ∃ first, build memory.nonce = .ok first ∧ (handed = [first] ∨
      ∃ response fresh second, network [] first = .ok response ∧ nonceOf? response = some fresh ∧
        build (some fresh) = .ok second ∧ handed = [first, second]) := by
  unfold send
  cases hfirst : build memory.nonce with
  | error fault => exact .inl rfl
  | ok first =>
    simp only [bind_recording]
    cases hfault : first.fault? with
    | some fault =>
      left
      simp only [transmit, hfault]
      rfl
    | none =>
      right
      refine ⟨first, rfl, ?_⟩
      have htransmit : transmit (recording network) first [] =
          ((network [] first).mapError .http, [first]) := by
        simp only [transmit, hfault]
        rfl
      rw [htransmit]
      cases hanswer : network [] first with
      | error fault => exact .inl rfl
      | ok response =>
        dsimp only [Except.mapError]
        cases hretry : (memory.afterFirst proving response).1 with
        | none => exact .inl rfl
        | some fresh =>
          dsimp only
          cases hsecond : build (some fresh) with
          | error fault => exact .inl rfl
          | ok second =>
            have hhanded := transmit_recording network second [first]
            simp only [bind_recording]
            generalize transmit (recording network) second [first] = sent at hhanded
            obtain ⟨answer, handed⟩ := sent
            split_ifs at hhanded
            · subst hhanded
              right
              have hnonce := nonceOf?_eq_some_iff.mpr (afterFirst_eq_some_iff.mp hretry).2.1.nonce
              refine ⟨response, fresh, second, rfl, hnonce, hsecond, ?_⟩
              cases answer <;> rfl
            · subst hhanded
              left
              cases answer <;> rfl

variable {network memory proving build}

/-- Every request that is handed to the network was built over the nonce that is due. -/
theorem build_of_handed {i : Nat} {q : HttpRequest}
    (h : (send (recording network) proving build memory []).2[i]? = some q) :
    build (dueNonce network memory (send (recording network) proving build memory []).2 i) =
      .ok q := by
  have hcases := handed_cases network memory proving build
  dsimp only at hcases
  generalize (send (recording network) proving build memory []).2 = handed at h hcases ⊢
  rcases hcases with rfl | ⟨first, hfirst, rfl | ⟨response, fresh, second, hanswer, hnonce,
    hsecond, rfl⟩⟩
  · cases h
  · cases i with
    | zero =>
      cases h
      exact hfirst
    | succ i => cases h
  · cases i with
    | zero =>
      cases h
      exact hfirst
    | succ i =>
      cases i with
      | zero =>
        cases h
        simpa [dueNonce, hanswer, Except.toOption, hnonce] using hsecond
      | succ i => cases h

end Sending

/-! ## One credential -/

/-- A request presents a token and nothing else. One header authorizes it, with the token. Where
there is a prover one header proves it, by a proof over a nonce for the request and the token. One
header names the way of authentication. -/
structure HttpRequest.PresentsOnly (q : HttpRequest) (prover : Option Prover)
    (r : ResourceRequest) (token : String) (nonce : Option String) : Prop where
  authorization : valuesOf "Authorization" q.headers =
    [(if prover.isSome then "DPoP " else "Bearer ") ++ token]
  proof : ∀ prove, prover = some prove → ∃ proof,
    prove r.method r.url nonce (some token) = .ok proof ∧ valuesOf "DPoP" q.headers = [proof]
  marker : valuesOf "Habitat-Auth-Method" q.headers = ["oauth"]

/-- An application brings no credential of its own: its URL names no user, and none of its headers
authorizes or, where there is a prover, proves a request. -/
structure BringsNoCredential (proving : Bool) (url : Url) (headers : List (String × String)) :
    Prop where
  user : credentials? url = none
  authorization : Lacks "Authorization" headers
  proof : proving → Lacks "DPoP" headers

section Marked

variable {prover : Option Prover} {token : String} {resource : ResourceRequest}
  {nonce : Option String} {q : HttpRequest} {headers : List (String × String)}
  (hq : fetchRequest prover token resource nonce = .ok q)
  (hheaders : resource.headers = Gateway.mark headers)
include hq hheaders

theorem authorization_of_marked :
    valuesOf "Authorization" q.headers = userCredential resource.url ++
      authorizationValue prover.isSome token :: valuesOf "Authorization" headers := by
  have hvalues := authorization_of_fetchRequest hq
  rwa [hheaders, valuesOf_mark_of_ne (by decide)] at hvalues

theorem marker_of_marked : valuesOf "Habitat-Auth-Method" q.headers = ["oauth"] := by
  obtain ⟨proof, hproof, hvalues⟩ := valuesOf_fetchRequest hq "Habitat-Auth-Method" (by decide)
  rw [hvalues, valuesOf_proofHeaders hproof (by decide), hheaders, List.append_nil]
  exact valuesOf_mark_self

theorem proof_of_marked {prove : Prover} (hprover : prover = some prove) :
    ∃ proof, prove resource.method resource.url nonce (some token) = .ok proof ∧
      valuesOf "DPoP" q.headers = valuesOf "DPoP" headers ++ [proof] := by
  subst hprover
  obtain ⟨proofs, hproof, hvalues⟩ := valuesOf_fetchRequest hq "DPoP" (by decide)
  obtain ⟨proof, hprove, rfl⟩ := proofHeaders_some hproof
  rw [hheaders, valuesOf_mark_of_ne (by decide), valuesOf_cons_self, valuesOf_nil] at hvalues
  exact ⟨proof, hprove, hvalues⟩

theorem HttpRequest.PresentsOnly.bringsNoCredential
    (h : q.PresentsOnly prover resource token nonce) :
    BringsNoCredential prover.isSome resource.url headers := by
  have hone := h.authorization
  rw [authorization_of_marked hq hheaders, List.append_eq_singleton_iff] at hone
  obtain ⟨huser, hvalues⟩ | ⟨-, hvalues⟩ := hone
  · constructor
    · exact userCredential_eq_nil_iff.mp huser
    · exact valuesOf_eq_nil_iff.mp (List.cons.inj hvalues).2
    · intro hproving
      obtain ⟨prove, hprover⟩ := Option.isSome_iff_exists.mp hproving
      obtain ⟨proof, -, hone⟩ := h.proof prove hprover
      obtain ⟨proof', -, hvalues⟩ := proof_of_marked hq hheaders hprover
      rw [hvalues, List.append_eq_singleton_iff] at hone
      obtain ⟨hnone, -⟩ | ⟨-, hnone⟩ := hone
      · exact valuesOf_eq_nil_iff.mp hnone
      · cases hnone
  · cases hvalues

theorem BringsNoCredential.presentsOnly
    (h : BringsNoCredential prover.isSome resource.url headers) :
    q.PresentsOnly prover resource token nonce := by
  constructor
  · rw [authorization_of_marked hq hheaders, userCredential_eq_nil_iff.mpr h.user,
      valuesOf_eq_nil_iff.mpr h.authorization]
    rfl
  · intro prove hprover
    obtain ⟨proof, hprove, hvalues⟩ := proof_of_marked hq hheaders hprover
    have hnone := valuesOf_eq_nil_iff.mpr (h.proof (by rw [hprover]; rfl))
    rw [hnone, List.nil_append] at hvalues
    exact ⟨proof, hprove, hvalues⟩
  · exact marker_of_marked hq hheaders

end Marked

/-- Every request that a fetch hands to the network, the first one or one more over another nonce,
names the way of authentication in one header and has a header with the token. It presents the token
and nothing else exactly if the application brings no credential of its own. -/
theorem presents_only_token_iff {origin : Url} {r : Request} {resource : ResourceRequest}
    (hr : Gateway.prepare origin r = .ok resource) (prover : Option Prover) (token : String)
    (memory : NonceMemory) (network : List HttpRequest → HttpRequest → Except HttpFault Response)
    {i : Nat} {q : HttpRequest}
    (hq : (fetch (recording network) prover token resource memory []).2[i]? = some q) :
    valuesOf "Habitat-Auth-Method" q.headers = ["oauth"] ∧
    (if prover.isSome then "DPoP " else "Bearer ") ++ token ∈
      valuesOf "Authorization" q.headers ∧
    (q.PresentsOnly prover resource token (dueNonce network memory
        (fetch (recording network) prover token resource memory []).2 i) ↔
      BringsNoCredential prover.isSome resource.url r.headers) := by
  have hbuild := build_of_handed hq
  have hheaders : resource.headers = Gateway.mark r.headers := by
    obtain ⟨url, -, hr⟩ := exists_of_bind_eq_ok hr
    cases hr
    rfl
  refine ⟨marker_of_marked hbuild hheaders, ?_, ?_⟩
  · rw [authorization_of_marked hbuild hheaders]
    exact List.mem_append_right _ List.mem_cons_self
  · constructor
    · exact fun h => h.bringsNoCredential hbuild hheaders
    · exact fun h => h.presentsOnly hbuild hheaders

/-- A network that refuses the first request over no nonce, and accepts any other. -/
def renewing (handed : List HttpRequest) (_ : HttpRequest) : Except HttpFault Response :=
  if handed.isEmpty then .ok (refusal "n1") else .ok ⟨200, [], []⟩

set_option maxRecDepth 10000 in
/-- An application that names another way of authentication, and a request that is sent once more:
the second one presents the token and a proof over the new nonce. -/
theorem presents_only_token_over_new_nonce :
    let r : Request := ⟨.get, "/x", [("Accept", "*/*"), ("habitat-auth-METHOD", "none")], none⟩
    let handed := fun resource =>
      (fetch (recording renewing) (some .sample) "token-1" resource {} []).2
    ∃ resource q, Gateway.prepare (.secure "node.example" [""]) r = .ok resource ∧
      (handed resource)[1]? = some q ∧ valuesOf "Authorization" q.headers = ["DPoP token-1"] ∧
      valuesOf "DPoP" q.headers = ["n1"] ∧
      valuesOf "Habitat-Auth-Method" q.headers = ["oauth"] := by
  intro r handed
  have hr : Gateway.prepare (.secure "node.example" [""]) r =
      .ok ⟨.get, .secure "node.example" ["x"],
        [("Accept", "*/*"), ("Habitat-Auth-Method", "oauth")], none⟩ := by
    decide +kernel
  refine ⟨_, _, hr, rfl, ?_⟩
  obtain ⟨-, -, hpresents⟩ := presents_only_token_iff hr (some .sample) "token-1" {} renewing
    (i := 1) rfl
  have h := hpresents.mpr ⟨rfl, forall_of_all (by decide), fun _ => forall_of_all (by decide)⟩
  obtain ⟨proof, hprove, hproof⟩ := h.proof _ rfl
  cases hprove
  exact ⟨h.authorization, hproof, h.marker⟩

set_option maxRecDepth 10000 in
/-- A user in the URL and headers of the application stand beside the token and the proof. -/
theorem not_presents_only_token_of_user :
    let r : Request := ⟨.get, "https://user:pw@node.example/x",
      [("authorization", "Bearer other"), ("dpop", "old")], none⟩
    let handed := fun resource =>
      (fetch (recording renewing) (some .sample) "token-1" resource {} []).2
    ∃ resource q, Gateway.prepare (.secure "node.example" [""]) r = .ok resource ∧
      (handed resource)[0]? = some q ∧
      valuesOf "Authorization" q.headers =
        ["Basic dXNlcjpwdw==", "DPoP token-1", "Bearer other"] ∧
      valuesOf "DPoP" q.headers = ["old", ""] ∧
      ¬ q.PresentsOnly (some .sample) resource "token-1" none := by
  intro r handed
  have hr : Gateway.prepare (.secure "node.example" [""]) r =
      .ok ⟨.get, ⟨"https", some ⟨"user", some "pw", some (.name "node.example"), none⟩,
          .segments ["x"], none, none⟩,
        [("authorization", "Bearer other"), ("dpop", "old"), ("Habitat-Auth-Method", "oauth")],
        none⟩ := by
    decide +kernel
  refine ⟨_, _, hr, rfl, by decide +kernel, by decide +kernel, ?_⟩
  intro h
  have hone := h.authorization
  revert hone
  decide +kernel

end SignIn.Http
