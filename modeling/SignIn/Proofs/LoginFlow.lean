import SignIn.Proofs.Session.Handover
import SignIn.Proofs.Url.Parsed
import SignIn.Proofs.Url.Site

/-!
# From the login URL to the token request

A login URL names the redirect URI, and the token request names it again: there it is taken from
the callback, without query and fragment. The callback is the redirect URI with the code and the
state added to its query. It is read back as it was written, so the two agree exactly for a
redirect URI that has no query of its own. One that has a query loses it; its own parameters come
before the server's, and the callback is accepted exactly if they say nothing else than these.
-/

namespace SignIn

open Text Url

namespace Url

variable {u : Url} {ps : List (String × String)}

/-! ## Pairs at the end of the query -/

theorem query_appendPairs_of_ne {q : String} (hquery : u.query = some q) (hq : q ≠ "")
    (hne : ps ≠ []) :
    (u.appendPairs ps).query = some (q ++ "&" ++ String.ofList (Form.encodePairs ps)) := by
  have hempty : ps.isEmpty = false := by simpa using hne
  unfold appendPairs
  dsimp only
  rw [hquery]
  split
  · next hnone => cases hnone
  · next hsome =>
    cases hsome
    exact absurd rfl hq
  · next own hown =>
    cases hown
    rw [hempty, if_neg Bool.false_ne_true]

theorem pairs_appendPairs (hne : ps ≠ []) : (u.appendPairs ps).pairs = u.pairs ++ ps := by
  cases hquery : u.query with
  | none => simp [pairs, appendPairs, hquery]
  | some q =>
    by_cases hq : q = ""
    · subst hq
      have hnone : Form.decodePairs [] = [] := rfl
      simp [pairs, appendPairs, hquery, hnone]
    · have hsign : (q ++ "&" ++ String.ofList (Form.encodePairs ps)).toList =
          q.toList ++ '&' :: Form.encodePairs ps := by simp
      simp only [pairs, query_appendPairs_of_ne hquery hq hne, hquery]
      rw [hsign, Form.decodePairs_append, Form.decodePairs_encodePairs]

theorem Settled.appendPairs (h : u.Settled) (ps : List (String × String)) :
    (u.appendPairs ps).Settled := by
  have hwider : ∀ c, specialQuerySet c = false → querySetOf (Style.of u.scheme) c = false := by
    intro c hc
    unfold querySetOf
    split_ifs
    · exact hc
    · exact querySet_of_specialQuerySet hc
  have hadded : Clean (querySetOf (Style.of u.scheme))
      (String.ofList (Form.encodePairs ps)).toList := by
    rw [String.toList_ofList]
    exact (Form.clean_encodePairs ps).mono hwider
  refine ⟨h.scheme, h.authority, h.special, h.segments, h.plain, ?_, h.fragment⟩
  intro q hq
  unfold Url.appendPairs at hq
  dsimp only at hq
  split at hq
  · cases hq
    exact hadded
  · cases hq
    exact hadded
  · next own _ hown =>
    cases hq
    split_ifs
    · exact h.query own hown
    · have hsign : Clean (querySetOf (Style.of u.scheme)) "&".toList := by
        intro c hc
        obtain rfl : c = '&' := by simpa using hc
        exact ⟨by decide, hwider _ (by decide)⟩
      rw [String.toList_append, String.toList_append]
      exact ((h.query own hown).append hsign).append hadded

theorem query_appendPairs_ne_none (u : Url) (ps : List (String × String)) :
    (u.appendPairs ps).query ≠ none := by
  unfold appendPairs
  dsimp only
  split <;> simp

/-- A URL that was read is read back with the pairs that were added to its query. -/
theorem parse_text_appendPairs {s : String} (h : Url.parse s = .ok u) (hbar : ¬u.BarBehindHost)
    (ps : List (String × String)) :
    Url.parse (u.appendPairs ps).text = .ok (u.appendPairs ps) := by
  apply parse_text ((settled_of_parse h).1.appendPairs ps) hbar
  intro _ _ hquery
  exact absurd hquery (query_appendPairs_ne_none u ps)

/-! ## Without query and fragment -/

theorem trimSpaces_of_getLast? {s : String} (h : s.toList.getLast? ≠ some ' ') :
    trimSpaces s = s := by
  have hkeep : s.toList.reverse.dropWhile (· == ' ') = s.toList.reverse := by
    apply dropWhile_of_head
    intro c hc
    rw [List.head?_reverse] at hc
    rw [beq_eq_false_iff_ne]
    rintro rfl
    exact h hc
  rw [trimSpaces, hkeep, List.reverse_reverse, String.ofList_toList]

theorem length_trimSpaces_le (s : String) : (trimSpaces s).toList.length ≤ s.toList.length := by
  rw [trimSpaces, String.toList_ofList, List.length_reverse]
  have hle := (List.dropWhile_sublist (· == ' ') (l := s.toList.reverse)).length_le
  rwa [List.length_reverse] at hle

theorem length_text_bare_le (u : Url) :
    u.bare.path.text.toList.length ≤ u.path.text.toList.length := by
  unfold bare
  cases u.path with
  | segments parts => exact Nat.le_refl _
  | plain s => exact length_trimSpaces_le s

theorem front_bare (u : Url) : u.bare.front = u.front := by
  obtain ⟨scheme, authority, path, query, fragment⟩ := u
  cases path <;> rfl

/-- Nothing but query and fragment is lost. -/
theorem text_bare_eq_iff (hend : u.EndsVisibly) (hfragment : u.fragment = none) :
    u.bare.text = u.text ↔ u.query = none := by
  constructor
  · intro htext
    have hlen := congrArg (fun s => s.toList.length) htext
    have hpath := length_text_bare_le u
    have hnone : u.bare.ending = [] := ending_eq_nil_iff.2 ⟨rfl, rfl⟩
    have hscheme : u.bare.scheme = u.scheme := rfl
    simp only [toList_text, front_bare, hnone, hscheme, List.length_append, List.length_cons,
      List.length_nil] at hlen
    have hending : u.ending = [] := List.length_eq_zero_iff.1 (by omega)
    exact (ending_eq_nil_iff.1 hending).1
  · intro hquery
    have hpath : u.bare.path = u.path := by
      unfold bare
      cases hpath : u.path with
      | segments parts => rfl
      | plain s =>
        exact congrArg UrlPath.plain (trimSpaces_of_getLast? (hend s hpath hquery hfragment))
    have hself : u.bare = u := by
      obtain ⟨scheme, authority, path, query, fragment⟩ := u
      obtain rfl : query = none := hquery
      obtain rfl : fragment = none := hfragment
      exact Url.mk.injEq .. |>.mpr ⟨rfl, rfl, hpath, rfl, rfl⟩
    rw [hself]

end Url

/-! ## Endpoints -/

theorem Url.join_oauth (origin : Url) {s : String} {rest : List Char}
    (hread : significant s = "oauth/".toList ++ rest) :
    if origin.isPlain then origin.join s = .error .relativeToOpaqueBase
    else ∃ scheme a path, origin.join s = .ok (finish scheme a path ("oauth/".toList ++ rest)) := by
  have hscheme : readScheme? ("oauth/".toList ++ rest) = none := rfl
  have hjoin : origin.join s =
      if origin.isPlain then .error .relativeToOpaqueBase
      else if origin.scheme == "file" then readFile (some origin) ("oauth/".toList ++ rest)
      else readRelative origin ("oauth/".toList ++ rest) := by
    unfold Url.join Url.read
    dsimp only
    rw [hread, hscheme]
    rfl
  rw [hjoin]
  split
  · rfl
  · split
    · exact ⟨_, _, _, rfl⟩
    · exact ⟨_, _, _, rfl⟩

theorem query_authorization {origin : Url} {clientId : String} {e : Endpoints}
    (h : Endpoints.ofOrigin origin clientId = .ok e) : e.authorization.query = none := by
  obtain ⟨authorization, hjoin, h⟩ := exists_of_bind_eq_ok h
  obtain ⟨token, -, h⟩ := exists_of_bind_eq_ok h
  cases h
  have hread : significant "oauth/authorize" = "oauth/".toList ++ "authorize".toList := by decide
  have hends : ∀ c ∈ "oauth/".toList ++ "authorize".toList, endsPath c = false :=
    forall_of_all (by decide)
  have hcases := Url.join_oauth origin hread
  rw [hjoin] at hcases
  split at hcases
  · cases hcases
  · obtain ⟨scheme, a, path, hfinish⟩ := hcases
    cases hfinish
    exact congrArg Url.query (finish_of_endsPath hends)

/-! ## Callbacks -/

/-- The callback for a redirect URI: code and state stand at the end of its query. -/
def Url.answered (redirect : Url) (code state : String) : Url :=
  redirect.appendPairs [("code", code), ("state", state)]

/-- What a redirect URI says itself in its query is nothing else than what the server says. -/
structure CallbackParams.Agrees (c : CallbackParams) (e : Endpoints) (code state : String) :
    Prop where
  error : c.error = none
  state : ∀ own, c.state = some own → own = state
  iss : ∀ iss, c.iss = some iss → iss = e.issuer
  code : ∀ own, c.code = some own → own = code

theorem CallbackParams.agrees_of_query {redirect : Url} (h : redirect.query = none) (e : Endpoints)
    (code state : String) : (ofUrl redirect).Agrees e code state := by
  have hpairs : redirect.pairs = [] := by rw [Url.pairs, h]
  have hown : ofUrl redirect = ofPairs [] := by rw [ofUrl, hpairs]
  rw [hown]
  constructor
  · rfl
  all_goals
    intro _ hsome
    cases hsome

/-- A parameter of the redirect URI hides the server's parameter of the same name. -/
theorem CallbackParams.ofUrl_answered (redirect : Url) (code state : String) :
    ofUrl (redirect.answered code state) =
      { ofUrl redirect with
        code := (ofUrl redirect).code.or (some code)
        state := (ofUrl redirect).state.or (some state) } := by
  unfold ofUrl Url.answered
  rw [Url.pairs_appendPairs (by simp), ofPairs, List.foldl_append]
  rfl

namespace LoginFlow

variable {σ : Type} {s : Storage σ} {Holds : σ → Entries → Prop} {d : σ} {st : Entries}
variable {e : Endpoints} {code state handle : String} {request : TokenRequest}

theorem check_eq_ok_iff {expected : String} {callback : Url} {p : CallbackParams} :
    check e expected callback p = .ok request ↔
      p.error = none ∧ p.state.getD "" = expected ∧ (∀ iss, p.iss = some iss → iss = e.issuer) ∧
        ∃ code, p.code = some code ∧ code ≠ "" ∧
          request = ⟨e.token, code, redirectUriOf callback, e.clientId⟩ := by
  have hforeign : p.iss.filter (· ≠ e.issuer) = none ↔
      ∀ iss, p.iss = some iss → iss = e.issuer := by
    rw [Option.filter_eq_none_iff]
    simp
  have hfilled : ∀ code, p.code.filter (· ≠ "") = some code ↔ p.code = some code ∧ code ≠ "" := by
    intro code
    rw [Option.filter_eq_some_iff]
    simp
  constructor
  · intro h
    unfold check at h
    split at h
    · cases h
    · next herror =>
      split_ifs at h with hsame
      have hstate : p.state.getD "" = expected := eq_of_sameSecret (by simpa using hsame)
      dsimp only at h
      split at h
      · cases h
      · cases h
      · next code hiss hcode =>
        obtain ⟨hcode, hne⟩ := (hfilled code).mp hcode
        cases h
        exact ⟨herror, hstate, hforeign.mp hiss, code, hcode, hne, rfl⟩
  · rintro ⟨herror, hstate, hiss, code, hcode, hne, rfl⟩
    unfold check
    rw [herror, hstate, sameSecret_self]
    simp only [hforeign.mpr hiss, (hfilled code).mpr ⟨hcode, hne⟩, Bool.not_true,
      Bool.false_eq_true, if_false]

/-- The code of the server is passed on exactly if the redirect URI agrees with the server. -/
theorem check_answered_iff {callback redirect : Url} (hcode : code ≠ "") :
    check e state callback (CallbackParams.ofUrl (redirect.answered code state)) = .ok request ∧
        request.code = code ↔
      (CallbackParams.ofUrl redirect).Agrees e code state ∧
        request = ⟨e.token, code, redirectUriOf callback, e.clientId⟩ := by
  rw [check_eq_ok_iff, CallbackParams.ofUrl_answered]
  generalize CallbackParams.ofUrl redirect = own
  have hhidden : ∀ {own : Option String} {value : String},
      own.or (some value) = some value ↔ ∀ v, own = some v → v = value := by
    intro own value
    cases own <;> simp
  constructor
  · rintro ⟨⟨herror, hstate, hiss, k, hk, -, rfl⟩, rfl⟩
    refine ⟨⟨herror, hhidden.mp ?_, hiss, hhidden.mp hk⟩, rfl⟩
    cases hown : own.state with
    | none => rfl
    | some v => simpa [hown] using hstate
  · rintro ⟨hagrees, rfl⟩
    refine ⟨⟨hagrees.error, ?_, hagrees.iss, code, hhidden.mpr hagrees.code, hcode, rfl⟩, rfl⟩
    dsimp only
    rw [hhidden.mpr hagrees.state, Option.getD_some]

theorem prepare_of_kept (hs : s.Reliable Holds) (hd : Holds d st)
    (hstate : st.get? stateKey = some state) {callback : String} {url : Url}
    (hread : Url.parse callback = .ok url) :
    (prepare s e callback d).1 = check e state url (CallbackParams.ofUrl url) := by
  rw [(hs.prepare e callback d st hd).1, prepare_memory]
  unfold verdict checkCallback
  rw [hstate]
  dsimp only
  rw [hread]

theorem first?_loginUrl (h : e.authorization.query = none) (state handle : String)
    (redirect : Url) :
    Form.first? "redirect_uri" (loginUrl e state handle redirect).pairs = some redirect.text := by
  have hnone : e.authorization.pairs = [] := by rw [Url.pairs, h]
  unfold loginUrl
  rw [Url.pairs_appendPairs (by simp [loginPairs]), hnone]
  rfl

end LoginFlow

/-! ## From one to the other -/

/-- A call that issues a login URL: of the flow itself, or of a manager. -/
inductive LoginCall where
  | flow
  | manager (m : Manager) (notices : List Notice)

namespace LoginCall

variable {σ : Type} {s : Storage σ} {Holds : σ → Entries → Prop}

def run (s : Storage σ) (e : Endpoints) (state handle : String) (redirect : Url) :
    LoginCall → StoreOp σ Url
  | .flow => Access.asOp (LoginFlow.issue s e state handle redirect)
  | .manager m notices => fun d =>
    let (answer, after) := Manager.login s e state handle redirect ⟨m, d, notices⟩
    (answer, after.store)

theorem run_mirrors (hs : s.Reliable Holds) (e : Endpoints) (state handle : String) (redirect : Url)
    (call : LoginCall) :
    Mirrors Holds (call.run s e state handle redirect)
      (call.run .memory e state handle redirect) := by
  cases call with
  | flow => exact (hs.issue e state handle redirect).asOp
  | manager m notices =>
    intro d st hd
    obtain ⟨hanswer, -, hstore, -⟩ :=
      hs.login e state handle redirect ⟨m, d, notices⟩ ⟨m, st, notices⟩ ⟨rfl, hd, rfl⟩
    exact ⟨hanswer, hstore⟩

theorem run_memory (e : Endpoints) (state handle : String) (redirect : Url) (call : LoginCall)
    (st : Entries) :
    ∃ st', call.run .memory e state handle redirect st =
      (.ok (LoginFlow.loginUrl e state handle redirect), st') ∧ st'.get? stateKey = some state := by
  cases call with
  | flow => exact ⟨(st.set handleKey handle).set stateKey state, rfl, by simp⟩
  | manager m notices =>
    unfold run
    dsimp only
    rw [Manager.login_memory]
    exact ⟨_, rfl, by simp⟩

end LoginCall

/-- A login URL for a redirect URI without a fragment names it, and the callback to it is accepted
with its code and gives the same redirect URI exactly if that has no query. Otherwise the redirect
URI of the token request is without the query, and it is given exactly if what the query says is
nothing else than what the server says. -/
theorem token_request_follows_login_url {σ : Type} {s : Storage σ} {Holds : σ → Entries → Prop}
    (hs : s.Reliable Holds) {d : σ} {st : Entries} (hd : Holds d st) {origin : Url}
    {clientId : String} {e : Endpoints} (he : Endpoints.ofOrigin origin clientId = .ok e)
    {text : String} {redirect : Url} (hread : Url.parse text = .ok redirect)
    (hfragment : redirect.fragment = none) (hbar : ¬redirect.BarBehindHost) (call : LoginCall)
    (state handle : String) {code : String} (hcode : code ≠ "") :
    ∃ login after, call.run s e state handle redirect d = (.ok login, after) ∧
      Form.first? "redirect_uri" login.pairs = some redirect.text ∧
      ((∃ request,
          (LoginFlow.prepare s e (redirect.answered code state).text after).1 = .ok request ∧
            request.code = code ∧ request.redirectUri = redirect.text) ↔ redirect.query = none) ∧
      ∀ request,
        (LoginFlow.prepare s e (redirect.answered code state).text after).1 = .ok request ∧
            request.code = code ↔
          (CallbackParams.ofUrl redirect).Agrees e code state ∧
            request = ⟨e.token, code, redirect.bare.text, e.clientId⟩ := by
  obtain ⟨st', hmemory, hstate⟩ := call.run_memory e state handle redirect st
  obtain ⟨hanswer, hafter⟩ := LoginCall.run_mirrors hs e state handle redirect call d st hd
  rw [hmemory] at hanswer hafter
  have hprepare := LoginFlow.prepare_of_kept (e := e) hs hafter hstate
    (Url.parse_text_appendPairs hread hbar [("code", code), ("state", state)])
  have hiff : ∀ request,
      (LoginFlow.prepare s e (redirect.answered code state).text
          (call.run s e state handle redirect d).2).1 = .ok request ∧ request.code = code ↔
        (CallbackParams.ofUrl redirect).Agrees e code state ∧
          request = ⟨e.token, code, redirect.bare.text, e.clientId⟩ := by
    intro request
    rw [Url.answered, hprepare]
    exact LoginFlow.check_answered_iff hcode
  have hbare := Url.text_bare_eq_iff (Url.settled_of_parse hread).2 hfragment
  refine ⟨_, _, Prod.ext hanswer rfl, LoginFlow.first?_loginUrl (query_authorization he) _ _ _,
    ?_, hiff⟩
  constructor
  · rintro ⟨request, hok, hsame, hredirect⟩
    obtain ⟨-, rfl⟩ := (hiff request).mp ⟨hok, hsame⟩
    exact hbare.mp hredirect
  · intro hquery
    obtain ⟨hok, hsame⟩ := (hiff ⟨e.token, code, redirect.bare.text, e.clientId⟩).mpr
      ⟨CallbackParams.agrees_of_query hquery e code state, rfl⟩
    exact ⟨_, hok, hsame, hbare.mpr hquery⟩

set_option maxRecDepth 10000 in
/-- A redirect URI without a query is the same in both places. -/
theorem token_request_follows_login_url_plainly :
    let redirect := Url.secure "app.example" ["cb"]
    ∃ login after, LoginCall.flow.run .memory .sample "s1" "alice.example" redirect .empty =
        (.ok login, after) ∧
      Form.first? "redirect_uri" login.pairs = some "https://app.example/cb" ∧
      ∃ request, (LoginFlow.prepare .memory .sample (redirect.answered "XYZ" "s1").text after).1 =
          .ok request ∧
        request.code = "XYZ" ∧ request.redirectUri = "https://app.example/cb" := by
  have hbar : ¬(Url.secure "app.example" ["cb"]).BarBehindHost := fun h => absurd h.1 (by decide)
  obtain ⟨login, after, hrun, hfirst, hsame, -⟩ := token_request_follows_login_url
    Storage.memory_reliable (rfl : Entries.empty = .empty)
    (rfl : Endpoints.ofOrigin (.secure "node.example" [""])
      "https://app.example/client-metadata.json" = .ok .sample)
    (rfl : Url.parse "https://app.example/cb" = .ok (.secure "app.example" ["cb"])) rfl hbar .flow
    "s1" "alice.example" (by decide : "XYZ" ≠ "")
  exact ⟨login, after, hrun, hfirst, hsame.mpr rfl⟩

set_option maxRecDepth 10000 in
/-- A redirect URI with a query loses it, and a bar behind the letter of a drive becomes a colon. -/
theorem not_token_request_follows_login_url :
    let asking : Url := { Url.secure "app.example" ["cb"] with query := some "x=1" }
    let barred : Url :=
      ⟨"file", some (Url.fileAuthority (some (.name "app.example"))), .segments ["c|", "cb"], none,
        none⟩
    Url.parse "https://app.example/cb?x=1" = .ok asking ∧
      Url.parse "file://app.example//c|/cb" = .ok barred ∧
      ∀ redirect ∈ [asking, barred], ∃ login after request,
        LoginCall.flow.run .memory .sample "s1" "alice.example" redirect .empty =
            (.ok login, after) ∧
          Form.first? "redirect_uri" login.pairs = some redirect.text ∧
          (LoginFlow.prepare .memory .sample (redirect.answered "XYZ" "s1").text after).1 =
            .ok request ∧
          request.code = "XYZ" ∧ request.redirectUri ≠ redirect.text := by
  refine ⟨rfl, rfl, ?_⟩
  simp only [List.forall_mem_cons, List.not_mem_nil, false_implies, implies_true, and_true]
  constructor
  · exact ⟨_, _, _, rfl, rfl, rfl, rfl, by decide⟩
  · exact ⟨_, _, _, rfl, rfl, rfl, rfl, by decide⟩

end SignIn
