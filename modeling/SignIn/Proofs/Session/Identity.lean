import SignIn.Proofs.Session.Continuity
import SignIn.Proofs.Session.SingleUse

/-!
# Whose login an exchange completes

A manager that waits for a login of its own completes every login under its own handle; any other
manager completes a login under the handle that is kept. So the token of a login can be recorded
under the handle of another. It is not if the manager issued the login itself or was opened later;
in general it is not exactly if the manager, as it sends the exchange, goes by the handle of the
login.
-/

namespace SignIn

/-- The handle under which a manager would complete a login now. -/
def Scene.claimed (c : Scene) (n : Nat) : Option String :=
  match c.managers[n]? with
  | none => none
  | some m => if m.phase.isPending then m.handle else (c.keeps handleKey).toOption.join

/-- A manager has a session under a handle with a token, and so does the store. -/
structure Scene.Holds (c : Scene) (n : Nat) (handle token : String) : Prop where
  manager : ∃ m, c.managers[n]? = some m ∧ m.isAuthenticated ∧ m.handle = some handle ∧
    m.token = some token
  handle : c.keeps handleKey = .ok (some handle)
  token : c.keeps tokenKey = .ok (some token)

namespace Moment

def Issues (x : Moment Act Answer) (n : Nat) (state handle : String) : Prop :=
  ∃ redirect url, x.act = .login n state handle redirect ∧ x.answer = .loginUrl url

/-- The callback of a login passes, and its exchange is sent. -/
def Sends (x : Moment Act Answer) (n : Nat) (t : Ticket) : Prop :=
  ∃ callback, x.act = .startExchange n callback ∧ x.answer = .waits t

/-- An exchange comes back with a grant, and gives its token. -/
def Succeeds (x : Moment Act Answer) (t : Ticket) (granted : TokenResponse) (token : String) :
    Prop :=
  x.act = .finishExchange t.number (.ok granted) ∧ x.answer = .token token

end Moment

namespace OpenManagers

variable {e : Endpoints} {o o' o₁ o₂ o₃ : OpenManagers Entries} {a : Act} {answer : Answer}

/-! ## From the sending of an exchange to its success -/

theorem claimed_eq {n : Nat} {m : Manager} (hm : o.managers[n]? = some m)
    (hstate : o.store.get? stateKey ≠ none) :
    (o.scene .memory).claimed n = (m.adopting o.store).handle := by
  have hsome := Option.isSome_iff_ne_none.mpr hstate
  simp only [Scene.claimed, scene, hm, Manager.adopting, hsome, and_true]
  cases m.phase.isPending <;> rfl

theorem Turn.of_sent {n : Nat} {callback : String} {t : Ticket}
    (h : o.Turn e (.startExchange n callback) (.waits t) o₁) :
    ∃ m request, o.managers[n]? = some m ∧ o.store.get? stateKey ≠ none ∧
      t = ⟨o.issued, n, .exchange ⟨request, (m.adopting o.store).epoch⟩⟩ ∧ t ∈ o₁.waiting ∧
      t.number < o₁.issued ∧
      o₁.managers[n]? = some { m.adopting o.store with exchanging := true } := by
  cases h with
  | started hm hv =>
    obtain ⟨hn, -⟩ := List.getElem?_eq_some_iff.mp hm
    exact ⟨_, _, hm, LoginFlow.ne_none_of_verdict hv, rfl,
      List.mem_append_right _ List.mem_cons_self, Nat.lt_succ_self o.issued,
      List.getElem?_set_self hn⟩

theorem Turn.of_token {number : Nat} {granted : Except AuthFault TokenResponse} {token : String}
    (h : o.Turn e (.finishExchange number granted) (.token token) o₁) :
    ∃ n q m handle, o.ticket? number = some ⟨number, n, .exchange q⟩ ∧
      o.managers[n]? = some m ∧ m.epoch = q.epoch ∧ m.phase.isPending ∧
      m.recorded granted = .ok (handle, token) ∧
      o₁.managers[n]? = some (m.recording handle token) ∧
      o₁.store = (o.store.set handleKey handle).set tokenKey token := by
  generalize hanswer : Answer.token token = answer at h
  cases h with
  | @recorded _ n m q _ handle token' ht hm hq hr =>
    cases hpending : m.phase.isPending with
    | false => simp [hpending] at hanswer
    | true =>
      obtain rfl : token = token' := by simpa [hpending] using hanswer
      obtain ⟨hn, -⟩ := List.getElem?_eq_some_iff.mp hm
      exact ⟨n, q, m, handle, ht, hm, hq, hpending, hr, List.getElem?_set_self hn, rfl⟩
  | superseded | failed | absent | lost | unknown => cases hanswer

theorem isAuthenticated_recording {m : Manager} (h : m.phase.isPending) (handle token : String) :
    (m.recording handle token).isAuthenticated := by
  obtain ⟨phase, _⟩ := m
  cases phase <;> first | rfl | cases h

/-- An exchange that succeeds was sent by the manager that it comes back to, which has waited for
the login ever since. -/
theorem holds_of_success (ho : o₁.Numbered) {n : Nat} {callback token : String} {t : Ticket}
    {granted : TokenResponse} (hsend : o.Turn e (.startExchange n callback) (.waits t) o₁)
    (hlater : o₁.Later o₂)
    (hsucceed : o₂.Turn e (.finishExchange t.number (.ok granted)) (.token token) o₃) :
    ∃ recorded, ((o.scene .memory).claimed n).or granted.sub = some recorded ∧
      (o₃.scene .memory).Holds n recorded token := by
  obtain ⟨m, request, hm, hstate, ht, hmem, hnumber, hm₁⟩ := hsend.of_sent
  obtain ⟨n', q, m₂, recorded, hticket, hm₂, hepoch, hpending, hrecorded, hm₃, hstore⟩ :=
    hsucceed.of_token
  have hsame : (⟨t.number, n', .exchange q⟩ : Ticket) = t :=
    ho.injective _ (hlater.waiting _ (mem_of_ticket? hticket) hnumber) t hmem rfl
  rw [ht] at hsame
  cases hsame
  obtain ⟨m₂', hm₂', hle⟩ := hlater.manager n _ hm₁
  obtain rfl : m₂ = m₂' := Option.some.inj (hm₂.symm.trans hm₂')
  have hhandle : m₂.handle = (o.scene .memory).claimed n := by
    rw [claimed_eq hm hstate]
    exact (hle.pending hepoch hpending).2
  obtain ⟨hrecord, -⟩ := Manager.recorded_eq_ok hrecorded
  rw [hhandle] at hrecord
  refine ⟨recorded, hrecord, ⟨_, hm₃, isAuthenticated_recording hpending _ _, rfl, rfl⟩, ?_, ?_⟩
  · change Except.ok (o₃.store.get? handleKey) = _
    simp [hstore]
  · change Except.ok (o₃.store.get? tokenKey) = _
    simp [hstore]

theorem holds_iff_of_success (ho : o₁.Numbered) {n : Nat} {callback token handle : String}
    {t : Ticket} {granted : TokenResponse}
    (hsend : o.Turn e (.startExchange n callback) (.waits t) o₁) (hlater : o₁.Later o₂)
    (hsucceed : o₂.Turn e (.finishExchange t.number (.ok granted)) (.token token) o₃) :
    (o₃.scene .memory).Holds n handle token ↔
      ((o.scene .memory).claimed n).or granted.sub = some handle := by
  obtain ⟨recorded, hclaimed, hholds⟩ := holds_of_success ho hsend hlater hsucceed
  rw [hclaimed]
  constructor
  · intro hholds'
    exact Except.ok.inj (hholds.handle.symm.trans hholds'.handle)
  · intro heq
    rw [← Option.some.inj heq]
    exact hholds

/-! ## From a login to the sending of its exchange -/

/-- While the state of a login is kept, the manager that issued it and those opened later wait for
it under its handle. The handle that is kept is the same, unless a token came in. -/
structure Pledged (o : OpenManagers Entries) (k first : Nat) (handle : String) : Prop where
  kept : o.store.get? handleKey = some handle ∨ (o.store.get? tokenKey).isSome
  pending : ∀ n m, o.managers[n]? = some m → n = k ∨ first ≤ n →
    m.phase.isPending ∧ m.handle = some handle ∧ m.token = none
  older : ∀ n m, o.managers[n]? = some m → n = k ∨ first ≤ n →
    ∀ t ∈ o.waiting, t.manager = n → t.call.epoch < m.epoch

/-- A turn that does not issue a login URL sets no state. -/
theorem Turn.state_eq (h : o.Turn e a answer o')
    (hissues : ∀ n state handle,
      ¬ Moment.Issues ⟨o.scene .memory, a, answer, o'.scene .memory⟩ n state handle)
    (hkept : o'.store.get? stateKey ≠ none) :
    o'.store.get? stateKey = o.store.get? stateKey := by
  cases h.handles with
  | @issues state hissued =>
    cases a with
    | login n state' handle redirect =>
      cases answer with
      | loginUrl url => exact absurd ⟨redirect, url, rfl, rfl⟩ (hissues n state' handle)
      | _ => cases hissued
    | _ => cases hissued
  | clears _ _ hnone => exact absurd hnone hkept
  | grants _ _ _ _ hnone => exact absurd hnone hkept
  | leaves _ _ _ hsame => exact hsame

namespace Pledged

variable {k first : Nat} {handle : String}

theorem not_current (h : o.Pledged k first handle) {number n : Nat} {q : PendingExchange}
    {m : Manager} (ht : o.ticket? number = some ⟨number, n, .exchange q⟩)
    (hm : o.managers[n]? = some m) (hq : m.epoch = q.epoch) : ¬ (n = k ∨ first ≤ n) := by
  intro hn
  have hlt := h.older n m hm hn _ (mem_of_ticket? ht) rfl
  exact absurd hq hlt.ne'

theorem keep (h : o.Pledged k first handle)
    (hm : ∀ n m', o'.managers[n]? = some m' → n = k ∨ first ≤ n →
      ∃ m b, o.managers[n]? = some m ∧ m' = { m with exchanging := b })
    (hw : ∀ t ∈ o'.waiting, t.manager = k ∨ first ≤ t.manager → t ∈ o.waiting)
    (hkept : o'.store.get? handleKey = some handle ∨ (o'.store.get? tokenKey).isSome) :
    o'.Pledged k first handle := by
  refine ⟨hkept, fun n m' hm' hn => ?_, fun n m' hm' hn t ht htn => ?_⟩
  · obtain ⟨m, b, hget, rfl⟩ := hm n m' hm' hn
    exact h.pending n m hget hn
  · obtain ⟨m, b, hget, rfl⟩ := hm n m' hm' hn
    exact h.older n m hget hn t (hw t ht (htn ▸ hn)) htn

theorem keep_set (h : o.Pledged k first handle) {n₁ : Nat} {m₁ : Manager}
    (hm : o'.managers = o.managers.set n₁ m₁) (hn₁ : ¬ (n₁ = k ∨ first ≤ n₁))
    (hw : ∀ t ∈ o'.waiting, t ∈ o.waiting)
    (hkept : o'.store.get? handleKey = some handle ∨ (o'.store.get? tokenKey).isSome) :
    o'.Pledged k first handle := by
  refine h.keep (fun n m' hm' hn => ?_) (fun t ht _ => hw t ht) hkept
  have hne : n₁ ≠ n := fun heq => hn₁ (heq ▸ hn)
  rw [hm, List.getElem?_set_ne hne] at hm'
  exact ⟨m', m'.exchanging, hm', rfl⟩

theorem keep_same (h : o.Pledged k first handle) (hm : o'.managers = o.managers)
    (hw : ∀ t ∈ o'.waiting, t.manager = k ∨ first ≤ t.manager → t ∈ o.waiting)
    (hstore : o'.store = o.store) : o'.Pledged k first handle := by
  refine h.keep (fun n m' hm' _ => ?_) hw (hstore ▸ h.kept)
  exact ⟨m', m'.exchanging, hm ▸ hm', rfl⟩

theorem of_login (ho : o.Dated) {redirect : Url} {state : String} {url : Url}
    (h : o.Turn e (.login k state handle redirect) (.loginUrl url) o') :
    o'.store.get? stateKey = some state ∧ o'.Pledged k o'.managers.length handle := by
  cases h with
  | @login _ m hm =>
    obtain ⟨hk, -⟩ := List.getElem?_eq_some_iff.mp hm
    have hself : ∀ n m', (o.managers.set k (m.expecting (some handle)))[n]? = some m' →
        n = k ∨ (o.managers.set k (m.expecting (some handle))).length ≤ n →
        n = k ∧ m' = m.expecting (some handle) := by
      intro n m' hm' hn
      obtain ⟨hlt, -⟩ := List.getElem?_eq_some_iff.mp hm'
      obtain rfl : n = k := by omega
      rw [List.getElem?_set_self hk] at hm'
      exact ⟨rfl, (Option.some.inj hm').symm⟩
    refine ⟨by simp, .inl (by simp), ?_, ?_⟩
    · intro n m' hm' hn
      obtain ⟨-, rfl⟩ := hself n m' hm' hn
      exact ⟨rfl, rfl, rfl⟩
    · intro n m' hm' hn t ht htn
      obtain ⟨rfl, rfl⟩ := hself n m' hm' hn
      obtain ⟨m₁, hm₁, hle⟩ := ho t ht
      rw [htn, hm] at hm₁
      cases hm₁
      exact Nat.lt_succ_of_le hle

theorem of_resumed (h : o.Pledged k first handle) (ho : o.Dated)
    (ht : o.store.get? tokenKey = none) (hstate : o.store.get? stateKey ≠ none) :
    Pledged
      { o with
        managers := o.managers ++
          [{ phase := if (o.store.get? stateKey).isSome then .loginPending else .unauthenticated
             handle := o.store.get? handleKey }] } k first handle := by
  have hhandle : o.store.get? handleKey = some handle := by
    rcases h.kept with hhandle | htoken
    · exact hhandle
    · rw [ht] at htoken
      cases htoken
  rw [if_pos (Option.isSome_iff_ne_none.mpr hstate), hhandle]
  have hcases : ∀ {new : Manager} {n m'}, (o.managers ++ [new])[n]? = some m' →
      o.managers[n]? = some m' ∨ n = o.managers.length ∧ m' = new := by
    intro new n m' hm'
    rcases Nat.lt_or_ge n o.managers.length with hlt | hge
    · exact .inl ((List.getElem?_append_left hlt).symm.trans hm')
    · rw [List.getElem?_append_right hge] at hm'
      obtain ⟨hlt, heq⟩ := List.getElem?_eq_some_iff.mp hm'
      have hzero : n - o.managers.length = 0 := by simpa using hlt
      exact .inr ⟨by omega, by simpa [hzero] using heq.symm⟩
  refine ⟨.inl hhandle, fun n m' hm' hn => ?_, fun n m' hm' hn t hw htn => ?_⟩
  · rcases hcases hm' with hm' | ⟨-, rfl⟩
    · exact h.pending n m' hm' hn
    · exact ⟨rfl, rfl, rfl⟩
  · rcases hcases hm' with hm' | ⟨rfl, -⟩
    · exact h.older n m' hm' hn t hw htn
    · obtain ⟨m₁, hm₁, -⟩ := ho t hw
      obtain ⟨hlt, -⟩ := List.getElem?_eq_some_iff.mp hm₁
      omega

theorem turn (h : o.Pledged k first handle) (ho : o.Dated) (hturn : o.Turn e a answer o')
    (hissues : ∀ n state handle,
      ¬ Moment.Issues ⟨o.scene .memory, a, answer, o'.scene .memory⟩ n state handle)
    (hstate : o'.store.get? stateKey ≠ none) : o'.Pledged k first handle := by
  cases hturn with
  | restored | refused | started => exact absurd (by simp) hstate
  | orphaned | tokenless | rejected | loggedOut =>
    exact absurd (by simp) hstate
  | login _ state handle' redirect =>
    exact absurd ⟨redirect, _, rfl, rfl⟩ (hissues _ state handle')
  | resumed ht => exact h.of_resumed ho ht hstate
  | @superseded _ n₁ m₁ _ ht hm hp =>
    refine h.keep (fun n m' hm' _ => ?_) (fun t ht _ => (mem_without.mp ht).1) h.kept
    by_cases hn : n₁ = n
    · subst hn
      obtain ⟨hlt, -⟩ := List.getElem?_eq_some_iff.mp hm
      refine ⟨m₁, false, hm, ?_⟩
      exact (Option.some.inj ((List.getElem?_set_self hlt).symm.trans hm')).symm
    · exact ⟨m', m'.exchanging, (List.getElem?_set_ne hn).symm.trans hm', rfl⟩
  | failed ht hm hp =>
    exact h.keep_set rfl (h.not_current ht hm hp) (fun t ht => (mem_without.mp ht).1) h.kept
  | recorded ht hm hp =>
    exact h.keep_set rfl (h.not_current ht hm hp) (fun t ht => (mem_without.mp ht).1)
      (.inr (by simp))
  | sent hm htoken =>
    refine h.keep_same rfl (fun t ht hn => ?_) rfl
    rcases List.mem_append.mp ht with ht | ht
    · exact ht
    · rw [List.mem_singleton.mp ht] at hn
      rw [(h.pending _ _ hm hn).2.2] at htoken
      cases htoken
  | late | answered | dropped | lost =>
    exact h.keep_same rfl (fun t ht _ => (mem_without.mp ht).1) rfl
  | unsent | absent | unknown => exact h.keep_same rfl (fun t ht _ => ht) rfl

end Pledged

section Runs

variable {σ : Type} {p : Platform σ} {acts : List Act}

theorem state_of_reach
    (hissues : ∀ z ∈ o.story p.inMemory acts, ∀ n state handle, ¬ z.Issues n state handle)
    (hkept : (reach (fun o a => o.step p.inMemory a) o acts).store.get? stateKey ≠ none) :
    (reach (fun o a => o.step p.inMemory a) o acts).store.get? stateKey =
      o.store.get? stateKey := by
  induction acts generalizing o with
  | nil => rfl
  | cons a acts ih =>
    have hlast := ih (fun z hz => hissues z (List.mem_cons_of_mem _ hz)) hkept
    have hfirst := (turn_step (o := o) p a).state_eq (hissues _ List.mem_cons_self)
      fun hnone => hkept (hlast.trans hnone)
    exact hlast.trans hfirst

theorem Pledged.reach {k first : Nat} {handle : String} (h : o.Pledged k first handle)
    (ho : o.Dated)
    (hissues : ∀ z ∈ o.story p.inMemory acts, ∀ n state handle, ¬ z.Issues n state handle)
    (hkept : (SignIn.reach (fun o a => o.step p.inMemory a) o acts).store.get? stateKey ≠ none) :
    (SignIn.reach (fun o a => o.step p.inMemory a) o acts).Pledged k first handle := by
  induction acts generalizing o with
  | nil => exact h
  | cons a acts ih =>
    have hrest := fun z hz => hissues z (List.mem_cons_of_mem _ hz)
    have hturn := turn_step (o := o) p a
    have hlast := state_of_reach (o := (o.step p.inMemory a).2) hrest hkept
    exact ih (h.turn ho hturn (hissues _ List.mem_cons_self) fun hnone => hkept (hlast.trans hnone))
      (hturn.dated ho) hrest hkept

theorem claimed_of_login {k n : Nat} {state handle : String} {redirect url : Url} {m : Manager}
    (ho : o.Dated)
    (hlogin : o.Turn p.endpoints (.login k state handle redirect) (.loginUrl url) o')
    (hissues : ∀ z ∈ o'.story p.inMemory acts, ∀ n state handle, ¬ z.Issues n state handle)
    (hkept : (reach (fun o a => o.step p.inMemory a) o' acts).store.get? stateKey ≠ none)
    (hm : (reach (fun o a => o.step p.inMemory a) o' acts).managers[n]? = some m)
    (hn : n = k ∨ o'.managers.length ≤ n) :
    ((reach (fun o a => o.step p.inMemory a) o' acts).scene .memory).claimed n = some handle := by
  obtain ⟨-, hpledged⟩ := Pledged.of_login ho hlogin
  have hreached := hpledged.reach (hlogin.dated ho) hissues hkept
  obtain ⟨hpending, hhandle, -⟩ := hreached.pending n m hm hn
  simp [Scene.claimed, scene, hm, hpending, hhandle]

end Runs

end OpenManagers

/-- The token of a login is recorded under its handle exactly if that is the handle by which the
manager goes as it sends the exchange. It is, if the manager issued the login itself or was opened
later. -/
theorem holds_login_handle_iff {σ : Type} {p : Platform σ} {Holds : σ → Entries → Prop}
    (hp : p.Reliable Holds) {st : σ} {st' : Entries} (hst : Holds st st') {acts : List Act}
    {as bs cs ds : List (Moment Act Answer)} {w x y : Moment Act Answer}
    (hstory : (OpenManagers.closed st).story p acts = as ++ w :: (bs ++ x :: (cs ++ y :: ds)))
    {k n : Nat} {state handle token : String} {t : Ticket} {granted : TokenResponse}
    (hissues : w.Issues k state handle)
    (hnewest : ∀ z ∈ bs, ∀ k state handle, ¬ z.Issues k state handle)
    (hsends : x.Sends n t) (hsucceeds : y.Succeeds t granted token) :
    x.before.keeps stateKey = .ok (some state) ∧
    (∃ recorded, y.after.Holds n recorded token) ∧
    (y.after.Holds n handle token ↔
      (x.before.claimed n).or granted.sub = some handle) ∧
    (n = k ∨ w.after.managers.length ≤ n → y.after.Holds n handle token) := by
  rw [OpenManagers.story_eq_inMemory hp hst] at hstory
  obtain ⟨before, a, rest, -, -, hw, hrest⟩ := exists_of_story_eq hstory
  obtain ⟨between, b, rest', -, hbs, hx, hrest'⟩ := exists_of_story_eq hrest.symm
  obtain ⟨after, c, rest'', -, -, hy, -⟩ := exists_of_story_eq hrest'.symm
  set o₀ := reach (fun o a => OpenManagers.step p.inMemory o a) (.closed st') before
  set o₁ := (o₀.step p.inMemory a).2
  set o₂ := reach (fun o a => OpenManagers.step p.inMemory o a) o₁ between
  set o₃ := (o₂.step p.inMemory b).2
  set o₄ := reach (fun o a => OpenManagers.step p.inMemory o a) o₃ after
  set o₅ := (o₄.step p.inMemory c).2
  have hdated : o₀.Dated := OpenManagers.dated_reach p (OpenManagers.dated_closed st') before
  have hnumbered : o₀.Numbered :=
    OpenManagers.numbered_reach p (OpenManagers.numbered_closed st') before
  have hlogin : o₀.Turn p.endpoints w.act w.answer o₁ := by
    rw [hw]
    exact OpenManagers.turn_step p a
  have hsend : o₂.Turn p.endpoints x.act x.answer o₃ := by
    rw [hx]
    exact OpenManagers.turn_step p b
  have hsucceed : o₄.Turn p.endpoints y.act y.answer o₅ := by
    rw [hy]
    exact OpenManagers.turn_step p c
  obtain ⟨redirect, url, hact, hanswer⟩ := hissues
  obtain ⟨callback, hact', hanswer'⟩ := hsends
  rw [hact, hanswer] at hlogin
  rw [hact', hanswer'] at hsend
  rw [hsucceeds.1, hsucceeds.2] at hsucceed
  obtain ⟨m, request, hm, hkept, -⟩ := hsend.of_sent
  obtain ⟨hstate, -⟩ := OpenManagers.Pledged.of_login hdated hlogin
  rw [hbs] at hnewest
  have hsame := OpenManagers.state_of_reach hnewest hkept
  have hnumbered₃ : o₃.Numbered :=
    hsend.numbered (OpenManagers.numbered_reach p (hlogin.numbered hnumbered) between)
  have hlater : o₃.Later o₄ := OpenManagers.later_reach p o₃ after
  obtain ⟨recorded, -, hholds⟩ := OpenManagers.holds_of_success hnumbered₃ hsend hlater hsucceed
  have hiff : (o₅.scene .memory).Holds n handle token ↔
      ((o₂.scene .memory).claimed n).or granted.sub = some handle :=
    OpenManagers.holds_iff_of_success hnumbered₃ hsend hlater hsucceed
  have hbefore : x.before = o₂.scene .memory := congrArg Moment.before hx
  have hafter : y.after = o₅.scene .memory := congrArg Moment.after hy
  have hlength : w.after.managers.length = o₁.managers.length := by rw [hw]; rfl
  rw [hbefore, hafter, hlength]
  refine ⟨congrArg Except.ok (hsame.trans hstate), ⟨recorded, hholds⟩, hiff, fun hn => ?_⟩
  rw [hiff, OpenManagers.claimed_of_login hdated hlogin hnewest hkept hm hn, Option.some_or]

set_option maxRecDepth 10000 in
/-- A manager that is opened after a login completes it under its handle. -/
theorem holds_login_handle_of_opened_later :
    ∃ y ∈ (OpenManagers.closed .empty).story .sample
      [.openManager, .login 0 "s1" "alice.example" (.secure "app.example" ["cb"]), .openManager,
        .startExchange 1 "https://app.example/cb?code=XYZ&state=s1",
        .finishExchange 0 (.ok { accessToken := "token-XYZ" })],
      y.after.Holds 1 "alice.example" "token-XYZ" := by
  refine ⟨_, List.getElem_mem (n := 4) (by decide), ?_⟩
  have hstory : (OpenManagers.closed .empty).story .sample
      [.openManager, .login 0 "s1" "alice.example" (.secure "app.example" ["cb"]), .openManager,
        .startExchange 1 "https://app.example/cb?code=XYZ&state=s1",
        .finishExchange 0 (.ok { accessToken := "token-XYZ" })] =
      [_] ++ _ :: ([_] ++ _ :: ([] ++ _ :: [])) := rfl
  refine (holds_login_handle_iff Platform.sample_reliable rfl hstory ⟨_, _, rfl, rfl⟩ ?_
    ⟨_, rfl, rfl⟩ ⟨rfl, rfl⟩).2.2.2 (.inr (by decide))
  intro z hz k state handle
  rw [List.mem_singleton.mp hz]
  rintro ⟨redirect, url, hact, -⟩
  cases hact

set_option maxRecDepth 10000 in
/-- A manager that waits for its own login completes a newer one under the handle of its own. -/
theorem not_holds_login_handle_of_pending :
    ∃ as w bs x cs y ds t granted token, (OpenManagers.closed .empty).story .sample
        [.openManager, .openManager,
          .login 0 "s1" "alice.example" (.secure "app.example" ["cb"]),
          .login 1 "s2" "bob.example" (.secure "app.example" ["cb"]),
          .startExchange 0 "https://app.example/cb?code=XYZ&state=s2",
          .finishExchange 0 (.ok { accessToken := "token-XYZ" })] =
        as ++ w :: (bs ++ x :: (cs ++ y :: ds)) ∧
      w.Issues 1 "s2" "bob.example" ∧ x.before.keeps stateKey = .ok (some "s2") ∧
      x.Sends 0 t ∧ y.Succeeds t granted token ∧
      ¬ y.after.Holds 0 "bob.example" token := by
  refine ⟨[_, _, _], _, [], _, [], _, [], _, _, _, rfl, ⟨_, _, rfl, rfl⟩, rfl, ⟨_, rfl, rfl⟩,
    ⟨rfl, rfl⟩, fun hholds => ?_⟩
  have hhandle := Except.ok.inj hholds.handle
  revert hhandle
  decide

end SignIn
