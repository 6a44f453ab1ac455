import SignIn.Proofs.Session.Agreement
import SignIn.Proofs.Session.OperationTurn
import SignIn.Proofs.Text.Secret

/-!
# Logins that any manager can complete

Managers share a store, and each of their operations runs to its end before the next begins. Then
each manager shows a session exactly if it remembers a token, and no phase refuses its event. A
login is kept in the store and not with the manager that issued it. While its state is kept, every
manager can complete it, whatever it has come to itself: one that waits for no login adopts it,
and one that waits for another login takes the callback for its own.
-/

namespace SignIn

/-- A manager shows a session exactly if it remembers a token, and then it goes by a handle. -/
structure Manager.Whole (m : Manager) : Prop where
  shown : m.isAuthenticated = m.token.isSome
  named : m.token.isSome → m.handle.isSome

/-- Whether a fault is the answer of the network that an operation hands on. -/
def Operation.relays (fault : AuthFault) : Operation → Prop
  | .exchange _ _ (.error f) | .fetch _ _ (.error f) => f = fault
  | _ => False

/-- After the moment all managers are whole, and no phase refused its event. -/
structure Moment.Coherent (x : Moment Operation Answer) : Prop where
  whole : ∀ m ∈ x.after.managers, m.Whole
  placed : ∀ text, x.answer = .fault (.invalidTransition text) →
    x.act.relays (.invalidTransition text)

/-- The parameters of a callback that completes the login of a state. -/
structure CallbackParams.Completes (c : CallbackParams) (e : Endpoints) (state : String) :
    Prop where
  error : c.error = none
  state : c.state = some state
  iss : ∀ iss ∈ c.iss, iss = e.issuer
  code : ∃ code, c.code = some code ∧ code ≠ ""

def LoginFlow.Completes (e : Endpoints) (state callback : String) : Prop :=
  ∃ url, Url.parse callback = .ok url ∧ (CallbackParams.ofUrl url).Completes e state

theorem LoginFlow.Completes.checkCallback {e : Endpoints} {state callback : String}
    (h : Completes e state callback) :
    ∃ request, checkCallback e state callback = .ok request := by
  obtain ⟨url, hparse, hcompletes⟩ := h
  obtain ⟨code, hcode, hne⟩ := hcompletes.code
  have hforeign : (CallbackParams.ofUrl url).iss.filter (· ≠ e.issuer) = none := by
    rw [Option.filter_eq_none_iff]
    intro iss hiss
    simpa using hcompletes.iss iss hiss
  have hfilled : (CallbackParams.ofUrl url).code.filter (· ≠ "") = some code := by
    rw [hcode]
    simp [hne]
  refine ⟨⟨e.token, code, redirectUriOf url, e.clientId⟩, ?_⟩
  simp only [LoginFlow.checkCallback, hparse, check, hcompletes.error, hcompletes.state,
    Option.getD_some, Text.sameSecret_self, hforeign, hfilled, Bool.not_true, Bool.false_eq_true,
    if_false]

namespace Manager

variable {m : Manager}

theorem whole_of_token_eq_none (hshown : m.isAuthenticated = false) (htoken : m.token = none) :
    m.Whole := by
  constructor <;> simp [hshown, htoken]

theorem whole_expecting (m : Manager) (handle : Option String) : (m.expecting handle).Whole :=
  whole_of_token_eq_none rfl rfl

theorem whole_tornDown (m : Manager) : m.tornDown.Whole := whole_of_token_eq_none rfl rfl

theorem Whole.adopting (h : m.Whole) (st : Entries) : (m.adopting st).Whole := by
  unfold Manager.adopting
  split
  · exact whole_expecting m _
  · exact h

theorem Whole.exchanging (h : m.Whole) (b : Bool) : { m with exchanging := b }.Whole :=
  ⟨h.shown, h.named⟩

theorem Whole.failExchange (h : m.Whole) : m.failExchange.Whole := by
  constructor
  · simpa using h.shown
  · simpa using h.named

theorem Whole.refusing (h : m.Whole) : m.refusing.Whole := by
  unfold Manager.refusing
  split
  · exact h
  · exact h.failExchange

theorem whole_recording (h : m.phase.isPending) (handle token : String) :
    (m.recording handle token).Whole :=
  ⟨OpenManagers.isAuthenticated_recording h handle token, fun _ => rfl⟩

end Manager

namespace OpenManagers

variable {e : Endpoints} {o o' : OpenManagers Entries} {a : Operation} {sent : Option Outgoing}
  {answer : Answer} {n : Nat} {m' : Manager}

/-! ## All managers are whole -/

theorem whole_set (h : ∀ m ∈ o.managers, m.Whole) (hm : m'.Whole) :
    ∀ m ∈ o.managers.set n m', m.Whole := by
  intro m hmem
  rcases List.mem_or_eq_of_mem_set hmem with hmem | rfl
  · exact h m hmem
  · exact hm

theorem whole_concat (h : ∀ m ∈ o.managers, m.Whole) (hm : m'.Whole) :
    ∀ m ∈ o.managers ++ [m'], m.Whole := by
  intro m hmem
  rcases List.mem_append.mp hmem with hmem | hmem
  · exact h m hmem
  · rw [List.mem_singleton.mp hmem]
    exact hm

theorem Turn.whole {b : Act} (h : o.Turn e b answer o') (hb : b.ticket? = none)
    (hw : ∀ t, answer ≠ .waits t) (ho : ∀ m ∈ o.managers, m.Whole) :
    ∀ m ∈ o'.managers, m.Whole := by
  cases h with
  | restored => exact whole_concat ho ⟨rfl, fun _ => rfl⟩
  | orphaned => exact whole_concat ho (Manager.whole_of_token_eq_none rfl rfl)
  | resumed =>
    refine whole_concat ho (Manager.whole_of_token_eq_none ?_ rfl)
    dsimp only [Manager.isAuthenticated]
    split <;> rfl
  | login => exact whole_set ho (Manager.whole_expecting _ _)
  | refused hm => exact whole_set ho ((ho _ (List.mem_of_getElem? hm)).adopting _).refusing
  | started | sent => exact absurd rfl (hw _)
  | tokenless | loggedOut => exact whole_set ho (Manager.whole_tornDown _)
  | unsent | absent => exact ho
  | superseded | failed | recorded | rejected | late | answered | dropped => cases hb
  | lost ha | unknown ha => cases hb.symm.trans ha

/-- An exchange that runs to its end records its token in a login that is under way. -/
theorem OperationTurn.whole (h : o.OperationTurn e a sent answer o')
    (ho : ∀ m ∈ o.managers, m.Whole) :
    ∀ m ∈ o'.managers, m.Whole := by
  cases h with
  | brief h hw => exact h.whole a.ticket?_start hw ho
  | failed hm =>
    exact whole_set ho (((ho _ (List.mem_of_getElem? hm)).adopting _).exchanging _).failExchange
  | recorded hm hv =>
    exact whole_set ho (Manager.whole_recording
      (Manager.isPending_adopting _ (LoginFlow.ne_none_of_verdict hv)) _ _)
  | rejected => exact whole_set ho (Manager.whole_tornDown _)
  | answered => exact ho

theorem OperationTurn.placed {text : String}
    (h : o.OperationTurn e a sent (.fault (.invalidTransition text)) o') :
    a.relays (.invalidTransition text) := by
  generalize hanswer : Answer.fault (.invalidTransition text) = answer at h
  cases h with
  | brief h =>
    rw [← hanswer] at h
    rcases h.invalidTransition with hrelays | ⟨number, n, q, m, granted, record, hstart, -⟩
    · cases a <;> cases hrelays
    · cases a <;> cases hstart
  | failed hm hv hr =>
    cases hanswer
    rw [recorded_eq_invalidTransition hr]
    rfl
  | @answered n m token request prepared received hm htoken hr ha =>
    cases hi : Gateway.interpret received with
    | ok response =>
      rw [hi] at hanswer
      cases hanswer
    | error fault =>
      rw [hi] at hanswer
      cases hanswer
      rw [interpret_eq_invalidTransition hi]
      rfl
  | recorded | rejected => cases hanswer

/-! ## Any manager completes a login that is kept -/

theorem OperationTurn.of_login {state handle : String} {redirect url : Url}
    (h : o.OperationTurn e (.login n state handle redirect) sent (.loginUrl url) o') :
    o'.store.get? stateKey = some state := by
  cases h with
  | brief h =>
    cases h with
    | login => simp

theorem verdict_of_completes {state callback : String} (hstate : o.store.get? stateKey = some state)
    (h : LoginFlow.Completes e state callback) :
    ∃ request, LoginFlow.verdict e o.store callback = .ok request := by
  simp only [LoginFlow.verdict, hstate]
  exact h.checkCallback

/-- The login whose state is kept is completed by any manager, for there is always a handle. -/
theorem Named.completed (ho : o.Named) {m : Manager} (hm : o.managers[n]? = some m)
    {state callback : String} (hstate : o.store.get? stateKey = some state)
    (hcompletes : LoginFlow.Completes e state callback) {granted : TokenResponse}
    (h : o.OperationTurn e (.exchange n callback (.ok granted)) sent answer o') :
    answer = .token granted.accessToken ∧
      (∃ handle, (o'.scene .memory).Holds n handle granted.accessToken) ∧
      o'.store.get? stateKey = none := by
  obtain ⟨request, hv⟩ := verdict_of_completes hstate hcompletes
  have hpending := Manager.isPending_adopting m (LoginFlow.ne_none_of_verdict hv)
  obtain ⟨handle, hhandle⟩ := Option.ne_none_iff_exists'.mp (ho.claims_adopting hm hpending)
  have hr : (m.adopting o.store).recorded (.ok granted) = .ok (handle, granted.accessToken) := by
    simp [Manager.recorded, hhandle]
  obtain ⟨-, rfl, rfl⟩ := h.functional (.recorded hm hv hr)
  obtain ⟨hn, -⟩ := List.getElem?_eq_some_iff.mp hm
  refine ⟨rfl, ⟨handle, ?_, congrArg Except.ok ?_, congrArg Except.ok ?_⟩, ?_⟩
  · exact ⟨_, List.getElem?_set_self hn, isAuthenticated_recording hpending _ _, rfl, rfl⟩
  all_goals simp

/-! ## Runs -/

section Runs

variable {σ : Type} {p : Platform σ}

theorem coherent_chronicle (ho : o.Numbered) (hwhole : ∀ m ∈ o.managers, m.Whole)
    (operations : List Operation) : ∀ x ∈ o.chronicle p.inMemory operations, x.Coherent := by
  induction operations generalizing o with
  | nil => exact fun x hx => absurd hx List.not_mem_nil
  | cons a operations ih =>
    have hop := ho.operationTurn_operate p a
    intro x hx
    rcases List.mem_cons.mp hx with rfl | hx
    · refine ⟨hop.whole hwhole, fun text (htext : (operate p.inMemory o a).1 = _) => ?_⟩
      rw [htext] at hop
      exact hop.placed
    · exact ih (operate_of_turn (fun h => h.numbered) ho a) (hop.whole hwhole) x hx

theorem reach_operations {P : OpenManagers Entries → Prop}
    (hturn : ∀ {o o' a answer}, o.Turn p.endpoints a answer o' → P o → P o') (ho : P o)
    (operations : List Operation) : P (reach (operate p.inMemory) o operations) :=
  story_induction (P := fun _ => P) (s := .memory) ho
    (fun _ _ a h => operate_of_turn hturn h a) operations

theorem keeps_reach {k : String} (operations : List Operation)
    (h : ∀ z ∈ o.chronicle p.inMemory operations, z.after.keeps k = z.before.keeps k) :
    (reach (operate p.inMemory) o operations).store.get? k = o.store.get? k := by
  induction operations generalizing o with
  | nil => rfl
  | cons a operations ih =>
    have hfirst := Except.ok.inj (h _ List.mem_cons_self)
    exact (ih fun z hz => h z (List.mem_cons_of_mem _ hz)).trans hfirst

end Runs

end OpenManagers

/-- All managers are whole at all times and no phase refuses its event. Over a store that is empty
at first, a login whose state is still as it was kept is completed by any manager. -/
theorem login_completes_in_any_manager {σ : Type} {p : Platform σ} {Holds : σ → Entries → Prop}
    (hp : p.Reliable Holds) {st : σ} {st' : Entries} (hst : Holds st st')
    (operations : List Operation) :
    (∀ x ∈ (OpenManagers.closed st).chronicle p operations, x.Coherent) ∧
    ((∀ k ∈ sessionKeys, st'.get? k = none) →
      ∀ before x between y rest n state handle redirect url k callback granted,
        (OpenManagers.closed st).chronicle p operations = before ++ x :: (between ++ y :: rest) →
        x.act = .login n state handle redirect → x.answer = .loginUrl url →
        (∀ z ∈ between, z.after.keeps stateKey = z.before.keeps stateKey) →
        y.act = .exchange k callback (.ok granted) → (∃ m, y.before.managers[k]? = some m) →
        LoginFlow.Completes p.endpoints state callback →
        y.answer = .token granted.accessToken ∧
          (∃ recorded, y.after.Holds k recorded granted.accessToken) ∧
          y.after.keeps stateKey = .ok none) := by
  rw [OpenManagers.chronicle_eq_inMemory hp hst]
  refine ⟨OpenManagers.coherent_chronicle (OpenManagers.numbered_closed st')
    (fun m hm => absurd hm List.not_mem_nil) operations, ?_⟩
  intro hempty before x between y rest n state handle redirect url k callback granted hstory hlogin
    hurl hbetween hexchange ⟨m, hm⟩ hcompletes
  obtain ⟨early, a, late, rfl, -, rfl, hlate⟩ := exists_of_story_eq hstory
  obtain ⟨middle, b, last, rfl, rfl, rfl, -⟩ := exists_of_story_eq hlate.symm
  have hinvariant : ∀ {o o' : OpenManagers Entries} {a answer}, o.Turn p.endpoints a answer o' →
      o.Numbered ∧ o.Named → o'.Numbered ∧ o'.Named :=
    fun hturn h => ⟨hturn.numbered h.1, h.2.turn hturn⟩
  have hearly := OpenManagers.reach_operations hinvariant ⟨OpenManagers.numbered_closed st',
    .closed st' (hempty stateKey (by simp [sessionKeys]))⟩ early
  have hop := hearly.1.operationTurn_operate p a
  have hlater := OpenManagers.reach_operations hinvariant
    (OpenManagers.operate_of_turn hinvariant hearly a) middle
  have hop' := hlater.1.operationTurn_operate p b
  obtain rfl : a = _ := hlogin
  obtain rfl : b = _ := hexchange
  rw [show (OpenManagers.operate p.inMemory _ _).1 = _ from hurl] at hop
  have hkept := (OpenManagers.keeps_reach middle hbetween).trans hop.of_login
  obtain ⟨hanswer, hholds, hnone⟩ := hlater.2.completed hm hkept hcompletes hop'
  exact ⟨hanswer, hholds, congrArg Except.ok hnone⟩

set_option maxRecDepth 10000 in
/-- A manager that waits for an older login of its own completes the login of another. -/
theorem login_completes_in_waiting_manager :
    let told := (OpenManagers.closed .empty).chronicle .sample
      [.openManager, .openManager, .login 1 "s1" "bob.example" (.secure "app.example" ["cb"]),
        .login 0 "s2" "alice.example" (.secure "app.example" ["cb"]),
        .exchange 1 "https://app.example/cb?code=XYZ&state=s2"
          (.ok { accessToken := "token-XYZ" })]
    ∃ y, told[4]? = some y ∧ y.answer = .token "token-XYZ" ∧
      (∃ recorded, y.after.Holds 1 recorded "token-XYZ") ∧ y.after.keeps stateKey = .ok none := by
  have hcompletes : LoginFlow.Completes Endpoints.sample "s2"
      "https://app.example/cb?code=XYZ&state=s2" := by
    refine ⟨_, rfl, rfl, rfl, ?_, "XYZ", rfl, by decide⟩
    intro iss hiss
    cases hiss
  have hfinish := (login_completes_in_any_manager Platform.sample_reliable
    (rfl : Entries.empty = .empty)
    [.openManager, .openManager, .login 1 "s1" "bob.example" (.secure "app.example" ["cb"]),
      .login 0 "s2" "alice.example" (.secure "app.example" ["cb"]),
      .exchange 1 "https://app.example/cb?code=XYZ&state=s2"
        (.ok { accessToken := "token-XYZ" })]).2 (fun _ _ => rfl)
  exact ⟨_, rfl, hfinish [_, _, _] _ [] _ [] _ _ _ _ _ _ _ _ rfl rfl rfl
    (fun z hz => absurd hz List.not_mem_nil) rfl ⟨_, rfl⟩ hcompletes⟩

end SignIn
