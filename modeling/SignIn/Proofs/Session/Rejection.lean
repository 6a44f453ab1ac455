import SignIn.Proofs.Session.Epochs

/-!
# Fetches that are rejected

A fetch whose credential was not accepted ends the session that sent it, if that session is still
there, and otherwise changes nothing. Before a second rejection is noticed a token has to come in,
however many fetches are on the network.
-/

namespace SignIn

/-- The credential of a fetch was not accepted. -/
def Gateway.Rejects (answer : Except AuthFault Response) : Prop :=
  answer = .error .unauthenticated ∨ ∃ response, answer = .ok response ∧ response.status = 401

theorem Gateway.interpret_eq_unauthenticated_iff {answer : Except AuthFault Response} :
    interpret answer = .error .unauthenticated ↔ Rejects answer := by
  cases answer with
  | error fault => simp [interpret, Rejects]
  | ok response =>
    by_cases hstatus : response.status = 401
    · simp [interpret, Rejects, hstatus]
    · simp [interpret, Rejects, hstatus]

namespace Moment

/-- One notice is given, by the first manager. -/
def Notifies (x : Moment Act Answer) (reason : DeauthReason) : Prop :=
  ∃ seen, x.after.notices = x.before.notices ++ [(0, ⟨reason, seen⟩)]

/-- The session is torn down: handle and token are forgotten, no key is kept, and one notice is
given. -/
structure TearsDown (x : Moment Act Answer) (reason : DeauthReason) : Prop where
  sessions : ∀ m ∈ x.after.managers, m.session = (.unauthenticated, none, none)
  keeps : ∀ key ∈ sessionKeys, x.after.keeps key = .ok none
  notifies : x.Notifies reason

def Fetches (x : Moment Act Answer) (n : Nat) (t : Ticket) : Prop :=
  ∃ request, x.act = .startFetch n request ∧ x.answer = .waits t

def Answers (x : Moment Act Answer) (t : Ticket) (answer : Except AuthFault Response) : Prop :=
  x.act = .finishFetch t.number answer ∧ t ∈ x.before.waiting

/-- An exchange brings a token where none was held. -/
def Installs (x : Moment Act Answer) : Prop :=
  ∃ t granted handle, x.Returns t (.ok granted) ∧ (∀ m ∈ x.before.managers, m.token = none) ∧
    x.after.Records 0 handle granted.accessToken

variable {x : Moment Act Answer} {reason : DeauthReason}

theorem Notifies.notices_ne (h : x.Notifies reason) : x.after.notices ≠ x.before.notices := by
  obtain ⟨seen, hnotices⟩ := h
  rw [hnotices]
  simp

theorem Notifies.renews (h : x.Notifies reason) : x.Renews := .inr h.notices_ne

theorem Notifies.eq {reason' : DeauthReason} (h : x.Notifies reason) (h' : x.Notifies reason') :
    reason = reason' := by
  obtain ⟨seen, hnotices⟩ := h
  obtain ⟨seen', hnotices'⟩ := h'
  have hlast := List.append_cancel_left (hnotices.symm.trans hnotices')
  cases hlast
  rfl

end Moment

namespace OpenManagers

variable {e : Endpoints} {o o' : OpenManagers Entries} {a : Act} {answer : Answer} {m m' : Manager}
  {x : Moment Act Answer} {t : Ticket}

inductive Loses (o : OpenManagers Entries) (n : Nat) (m : Manager) : Act → DeauthReason → Prop
  | logout : Loses o n m (.logout n) .logout
  | missingToken (request) (htoken : m.token = none) :
      Loses o n m (.startFetch n request) .missingToken
  | rejected {number q received} (ht : o.ticket? number = some ⟨number, n, .fetch q⟩)
      (ha : Gateway.interpret received = .error .unauthenticated) (hq : q.epoch = m.epoch) :
      Loses o n m (.finishFetch number received) .rejected

theorem Turn.notices_cases (h : o.Turn e a answer o') :
    o'.notices = o.notices ∨
    ∃ n m reason, o.managers[n]? = some m ∧ o.Loses n m a reason ∧
      o'.managers = o.managers.set n m.tornDown ∧ o'.store = o.store.cleared ∧
      o'.notices = o.notices ++ [(n, m.notice reason)] := by
  cases h with
  | tokenless hm htoken request =>
    exact .inr ⟨_, _, _, hm, .missingToken request htoken, rfl, rfl, rfl⟩
  | loggedOut hm => exact .inr ⟨_, _, _, hm, .logout, rfl, rfl, rfl⟩
  | rejected ht hm ha hq =>
    exact .inr ⟨_, _, _, hm, .rejected ht ha hq, rfl, rfl, rfl⟩
  | restored | orphaned | resumed | login | refused | started | superseded | failed | recorded
  | unsent | sent | late | answered | dropped | absent | lost | unknown => exact .inl rfl

theorem Turn.of_url (h : o.Turn e a answer o') (hanswer : answer.url? ≠ none) :
    ∃ n m state handle redirect url, o.managers[n]? = some m ∧
      a = .login n state handle redirect ∧ answer = .loginUrl url := by
  cases h with
  | login hm state handle redirect => exact ⟨_, _, state, handle, redirect, _, hm, rfl, rfl⟩
  | @recorded number n m =>
    cases hpending : m.phase.isPending <;> simp [hpending, Answer.url?] at hanswer
  | @answered number n m p received =>
    cases hr : Gateway.interpret received <;> simp [hr, Answer.ofFetch, Answer.url?] at hanswer
  | restored | orphaned | resumed | refused | started | superseded | failed | tokenless | unsent
  | sent | rejected | late | dropped | loggedOut | absent | lost | unknown =>
    exact absurd rfl hanswer

theorem Turn.of_fetched {n : Nat} {request : Request}
    (h : o.Turn e (.startFetch n request) (.waits t) o') : ∃ q, t.call = .fetch q := by
  cases h with
  | sent => exact ⟨_, rfl⟩

theorem Turn.of_rejected {q : PendingFetch} {received : Except AuthFault Response}
    (h : o.Turn e (.finishFetch t.number received) answer o') (ho : o.Numbered)
    (ht : t ∈ o.waiting) (hcall : t.call = .fetch q) (hm : o.managers[t.manager]? = some m)
    (ha : Gateway.interpret received = .error .unauthenticated) :
    answer = .fault .unauthenticated ∧
      (q.epoch = m.epoch ∧ o' = (o.without t.number).tearDown t.manager m .rejected ∨
        q.epoch ≠ m.epoch ∧ o' = o.without t.number) := by
  have hticket := ho.ticket?_eq ht
  obtain ⟨number, n, call⟩ := t
  dsimp only at h hcall hm hticket ⊢
  subst hcall
  cases h with
  | rejected ht' hm' _ hq =>
    obtain ⟨rfl, ⟨⟩⟩ := ho.eq_of_ticket? ht ht'
    obtain rfl := Option.some.inj (hm.symm.trans hm')
    exact ⟨rfl, .inl ⟨hq, rfl⟩⟩
  | late ht' hm' _ hq =>
    obtain ⟨rfl, ⟨⟩⟩ := ho.eq_of_ticket? ht ht'
    obtain rfl := Option.some.inj (hm.symm.trans hm')
    exact ⟨rfl, .inr ⟨hq, rfl⟩⟩
  | answered _ _ ha' => exact absurd ha ha'
  | absent ha' => cases ha'
  | lost ha' ht' hm' =>
    cases ha'
    rw [hticket] at ht'
    cases ht'
    rw [hm] at hm'
    cases hm'
  | unknown ha' ht' =>
    cases ha'
    cases ht' _ hticket

namespace Alone

theorem tearsDown (h : o.Alone m) (hx : o.Spans e x o') {reason : DeauthReason}
    (hmanagers : o'.managers = o.managers.set 0 m.tornDown) (hstore : o'.store = o.store.cleared)
    (hnotices : o'.notices = o.notices ++ [(0, m.notice reason)]) : x.TearsDown reason := by
  constructor
  · intro m' hm'
    rw [hx.after, scene, hmanagers, h.managers] at hm'
    rw [List.mem_singleton.mp hm']
    rfl
  · intro key hkey
    rw [hx.after]
    refine congrArg Except.ok ?_
    rw [hstore]
    revert key
    simp [sessionKeys]
  · refine ⟨m.tornDown.view, ?_⟩
    rw [hx.before, hx.after]
    exact hnotices

/-- Where notice is given, the session is torn down, for the reason that the notice gives. -/
theorem loses (h : o.Alone m) (hx : o.Spans e x o') (hne : x.after.notices ≠ x.before.notices) :
    ∃ reason, o.Loses 0 m x.act reason ∧ x.TearsDown reason := by
  rw [hx.before, hx.after] at hne
  rcases hx.turn.notices_cases with hsame | ⟨n, m', reason, hm, hloses, hmanagers, hstore, hgiven⟩
  · exact absurd hsame hne
  · obtain ⟨rfl, rfl⟩ := h.eq_of_get hm
    exact ⟨reason, hloses, h.tearsDown hx hmanagers hstore hgiven⟩

theorem loses_of_notifies (h : o.Alone m) (hx : o.Spans e x o') {reason : DeauthReason}
    (hnotifies : x.Notifies reason) : o.Loses 0 m x.act reason ∧ x.TearsDown reason := by
  obtain ⟨reason', hloses, hdown⟩ := h.loses hx hnotifies.notices_ne
  obtain rfl := hdown.notifies.eq hnotifies
  exact ⟨hloses, hdown⟩

theorem renewed (h : o.Alone m) (hx : o.Spans e x o') (hrenews : x.Renews) :
    (∃ state handle, x.Issues 0 state handle) ∨ ∃ reason, x.TearsDown reason := by
  rcases hrenews with hanswer | hnotices
  · obtain ⟨n, m', state, handle, redirect, url, hm, hact, hurl⟩ := hx.turn.of_url hanswer
    obtain ⟨rfl, -⟩ := h.eq_of_get hm
    exact .inl ⟨state, handle, redirect, url, hact, hurl⟩
  · obtain ⟨reason, -, hdown⟩ := h.loses hx hnotices
    exact .inr ⟨reason, hdown⟩

theorem token_of_rejected (h : o.Alone m) (hx : o.Spans e x o') (hrejected : x.Notifies .rejected) :
    m.token ≠ none := by
  obtain ⟨hloses, -⟩ := h.loses_of_notifies hx hrejected
  generalize x.act = act at hloses
  cases hloses with
  | @rejected number q received ht ha hq =>
    rw [h.fetch _ (mem_of_ticket? ht) q rfl hq]
    exact Option.some_ne_none _

theorem installs_of_passes {xs : List (Moment Act Answer)} (h : o.Alone m) (htoken : m.token = none)
    (hpasses : o.Passes e xs o') (h' : o'.Alone m') (htoken' : m'.token ≠ none) :
    ∃ z ∈ xs, z.Installs := by
  refine h.passes_induction (motive := fun xs _ m' => m'.token ≠ none → ∃ z ∈ xs, z.Installs)
    (fun hheld => absurd htoken hheld) ?_ hpasses h' htoken'
  intro xs o₁ m₁ x o₂ m₂ hpasses h₁ hx ha h₂ hlone ih hheld
  cases hlone with
  | issues _ _ _ _ hnone | ends _ _ hnone => exact absurd hnone hheld
  | @records t granted handle _ ht hreturns _ _ _ hrecords =>
    refine ⟨x, by simp, t, granted, handle, hreturns, fun m hm => ?_, hrecords⟩
    rw [hx.before, h₁.mem_scene_iff] at hm
    rw [hm]
    exact (h₁.current t ht).2
  | rests _ _ _ hsame =>
    obtain ⟨z, hz, hinstalls⟩ := ih (hsame ▸ hheld)
    exact ⟨z, List.mem_append_left _ hz, hinstalls⟩

/-- A rejected fetch ends the session exactly if it comes back to the epoch in which it was sent. -/
theorem of_rejected (h : o.Alone m) (hx : o.Spans e x o') {received : Except AuthFault Response}
    (hanswers : x.Answers t received) {q : PendingFetch} (hcall : t.call = .fetch q)
    (ha : Gateway.Rejects received) :
    x.answer = .fault .unauthenticated ∧
      (q.epoch = m.epoch ∧ x.TearsDown .rejected ∨
        q.epoch ≠ m.epoch ∧ x.after = { x.before with waiting := x.after.waiting }) := by
  obtain ⟨hact, hmem⟩ := hanswers
  rw [hx.before] at hmem
  have hzero := (h.sent hmem).1
  have hturn := hx.turn
  rw [hact] at hturn
  obtain ⟨hanswer, ⟨hq, hnext⟩ | ⟨hq, hnext⟩⟩ := hturn.of_rejected h.numbered hmem hcall
    (hzero ▸ h.get) (Gateway.interpret_eq_unauthenticated_iff.mpr ha)
  · rw [hzero] at hnext
    refine ⟨hanswer, .inl ⟨hq, h.tearsDown hx ?_ ?_ ?_⟩⟩ <;> rw [hnext] <;> rfl
  · refine ⟨hanswer, .inr ⟨hq, ?_⟩⟩
    rw [hx.before, hx.after, hnext]
    rfl

end Alone

section Stories

variable {σ : Type} {p : Platform σ} {st : Entries} {acts : List Act}

/-- A moment of a run renews the session with a login or by tearing it down. -/
theorem renews_iff_of_mem_story (hacts : .openManager ∉ acts)
    (hx : x ∈ (closed st).story p.inMemory (.openManager :: acts)) :
    x.Renews ↔ (∃ state handle, x.Issues 0 state handle) ∨ ∃ reason, x.TearsDown reason := by
  constructor
  · intro hrenews
    have hopened := spans_moment p (closed st) .openManager
    rcases List.mem_cons.mp hx with rfl | hx
    · exact absurd hrenews (hopened.not_renews rfl)
    · obtain ⟨past, rest, hsplit⟩ := List.append_of_mem hx
      obtain ⟨m₀, h₀, -⟩ := Alone.opened hopened rfl
      obtain ⟨o₁, o₂, -, hpasses, hspans, -⟩ := exists_passes_of_story_eq hacts hsplit
      obtain ⟨m₁, h₁, -⟩ := h₀.passes hpasses
      exact h₁.renewed hspans hrenews
  · rintro (⟨state, handle, hissues⟩ | ⟨reason, hdown⟩)
    · exact hissues.renews
    · exact hdown.notifies.renews

end Stories

end OpenManagers

/-- A rejected fetch tears the session down exactly if no login URL was issued and no session was
torn down since it was sent, and otherwise changes nothing. Between two rejections of which notice
is given an exchange brings a token. -/
theorem rejection_ends_its_session {σ : Type} {p : Platform σ} {Holds : σ → Entries → Prop}
    (hp : p.Reliable Holds) {st : σ} {st' : Entries} (hst : Holds st st') {acts : List Act}
    (hacts : .openManager ∉ acts) :
    (∀ x ∈ (OpenManagers.closed st).story p (.openManager :: acts),
      (x.Renews ↔ (∃ state handle, x.Issues 0 state handle) ∨ ∃ reason, x.TearsDown reason)) ∧
    (∀ before x between y rest t received,
      (OpenManagers.closed st).story p (.openManager :: acts) =
        before ++ x :: (between ++ y :: rest) →
      x.Fetches 0 t → y.Answers t received → Gateway.Rejects received →
      y.answer = .fault .unauthenticated ∧
      (y.TearsDown .rejected ↔ ∀ z ∈ between, ¬ z.Renews) ∧
      ((∃ z ∈ between, z.Renews) → y.after = { y.before with waiting := y.after.waiting })) ∧
    ∀ before x between y rest,
      (OpenManagers.closed st).story p (.openManager :: acts) =
        before ++ x :: (between ++ y :: rest) →
      x.Notifies .rejected → y.Notifies .rejected → ∃ z ∈ between, z.Installs := by
  rw [OpenManagers.story_eq_inMemory hp hst]
  refine ⟨fun x hx => OpenManagers.renews_iff_of_mem_story hacts hx, ?_, ?_⟩
  · intro before x between y rest t received hstory hfetches hanswers hrejects
    obtain ⟨request, hact, hwaits⟩ := hfetches
    obtain ⟨x₀, past, o₀, o₁, m₁, o₂, m₂, o₃, m₃, o₄, -, -, -, -, -, hx, h₂, -, hbetween, h₃, hy⟩ :=
      OpenManagers.exists_course_of_story_eq hacts hstory (by rw [hact]; exact Act.noConfusion)
    have hturn := hx.turn
    rw [hact, hwaits] at hturn
    obtain ⟨q, hcall⟩ := hturn.of_fetched
    have hiff : q.epoch = m₃.epoch ↔ ∀ z ∈ between, ¬ z.Renews := by
      rw [← OpenManagers.Alone.epoch_iff hx hwaits h₂ hbetween h₃, hcall]
      rfl
    obtain ⟨hanswer, ⟨hq, hdown⟩ | ⟨hq, hsame⟩⟩ := h₃.of_rejected hy hanswers hcall hrejects
    · refine ⟨hanswer, iff_of_true hdown (hiff.mp hq), ?_⟩
      rintro ⟨z, hz, hrenews⟩
      exact absurd hrenews (hiff.mp hq z hz)
    · have hnotices : y.after.notices = y.before.notices := by rw [hsame]
      exact ⟨hanswer, iff_of_false (fun hdown => hdown.notifies.notices_ne hnotices)
        (fun hnone => hq (hiff.mpr hnone)), fun _ => hsame⟩
  · intro before x between y rest hstory hx hy
    have hact : x.act ≠ .openManager := by
      intro hopens
      obtain ⟨o, o', hspans⟩ := OpenManagers.exists_spans_of_story_eq hstory
      exact hspans.not_renews hopens hx.renews
    obtain ⟨x₀, past, o₀, o₁, m₁, o₂, m₂, o₃, m₃, o₄, -, -, -, -, h₁, hspans, h₂, -, hbetween, h₃,
      hspans'⟩ := OpenManagers.exists_course_of_story_eq hacts hstory hact
    obtain ⟨-, hdown⟩ := h₁.loses_of_notifies hspans hx
    have hmem : m₂ ∈ x.after.managers := by
      rw [hspans.after, h₂.mem_scene_iff]
    have hnone : m₂.token = none := congrArg (·.2.2) (hdown.sessions m₂ hmem)
    exact h₂.installs_of_passes hnone hbetween h₃ (h₃.token_of_rejected hspans' hy)

set_option maxRecDepth 10000 in
/-- Two fetches of one session are rejected, and the session is torn down once. -/
theorem rejection_ends_session_of_two_fetches :
    let kept : Entries := .ofPairs [(handleKey, "alice.example"), (tokenKey, "token-1")]
    let told := (OpenManagers.closed kept).story .sample
      [.openManager, .startFetch 0 { method := .get, target := "/a" },
        .startFetch 0 { method := .get, target := "/b" },
        .finishFetch 0 (.error .unauthenticated), .finishFetch 1 (.error .unauthenticated)]
    ∃ y z, told[3]? = some y ∧ told[4]? = some z ∧ y.TearsDown .rejected ∧
      z.answer = .fault .unauthenticated ∧
      z.after = { z.before with waiting := z.after.waiting } := by
  have hrejects := (rejection_ends_its_session Platform.sample_reliable
    (rfl : Entries.ofPairs [(handleKey, "alice.example"), (tokenKey, "token-1")] = .ofPairs _)
    (by simp : Act.openManager ∉ [Act.startFetch 0 { method := .get, target := "/a" },
      .startFetch 0 { method := .get, target := "/b" },
      .finishFetch 0 (.error .unauthenticated), .finishFetch 1 (.error .unauthenticated)])).2.1
  obtain ⟨-, hfirst, -⟩ := hrejects [_] _ [_] _ [_] _ _ rfl ⟨_, rfl, rfl⟩ ⟨rfl, .head _⟩ (.inl rfl)
  obtain ⟨hanswer, -, hsame⟩ := hrejects [_, _] _ [_] _ [] _ _ rfl ⟨_, rfl, rfl⟩ ⟨rfl, .head _⟩
    (.inl rfl)
  have hdown := hfirst.mpr (by
    intro z hz
    rw [List.mem_singleton.mp hz]
    decide)
  exact ⟨_, _, rfl, rfl, hdown, hanswer, hsame ⟨_, .head _, hdown.notifies.renews⟩⟩

end SignIn
