import SignIn.Proofs.Session.Rejection

/-!
# Rejections among managers that share a store

Managers share a store, and their operations overlap in any order. A fetch that comes back with a
credential that was not accepted ends the session of its manager, unless that manager has begun a
new epoch since. What other managers have done is not asked for: where one of them has kept a
newer token meanwhile, this goes with the rest. So a late rejection spares the session of another
manager exactly if its own manager has begun a new epoch.
-/

namespace SignIn

namespace Moment

/-- A manager takes over a login that is kept. -/
def Adopts (x : Moment Act Answer) (n : Nat) : Prop :=
  ∃ callback m state, x.act = .startExchange n callback ∧ x.before.managers[n]? = some m ∧
    m.phase.isPending = false ∧ x.before.keeps stateKey = .ok (some state)

/-- A manager issues a login URL, takes over a login, or has its session torn down. -/
def RenewsBy (x : Moment Act Answer) (n : Nat) : Prop :=
  (∃ state handle, x.Issues n state handle) ∨ x.Adopts n ∨
    ∃ notice, x.after.notices = x.before.notices ++ [(n, notice)]

/-- Nothing that is kept changes while another token is kept. -/
def Spares (x : Moment Act Answer) (token : String) : Prop :=
  ∀ other, x.before.keeps tokenKey = .ok (some other) → other ≠ token →
    x.after.keeps = x.before.keeps

theorem spares_iff_of_cleared {x : Moment Act Answer} {token : String}
    (h : x.after.keeps tokenKey = .ok none) :
    x.Spares token ↔ ∀ other, x.before.keeps tokenKey = .ok (some other) → other = token := by
  constructor
  · intro hspares other hkept
    by_contra hne
    have hsame := congrFun (hspares other hkept hne) tokenKey
    rw [h, hkept] at hsame
    cases hsame
  · exact fun hown other hkept hne => absurd (hown other hkept) hne

end Moment

namespace OpenManagers

variable {e : Endpoints} {o o' : OpenManagers Entries} {x : Moment Act Answer} {n : Nat}
  {m m' : Manager} {t : Ticket}

/-! ## Epochs of one among several managers -/

theorem get_set_cases {n₁ : Nat} {m₁ m₁' : Manager} (hm₁ : o.managers[n₁]? = some m₁)
    (hm : o.managers[n]? = some m) (hm' : (o.managers.set n₁ m₁')[n]? = some m') :
    n₁ = n ∧ m₁ = m ∧ m₁' = m' ∨ n₁ ≠ n ∧ m = m' := by
  by_cases hn : n₁ = n
  · subst hn
    obtain ⟨hlt, -⟩ := List.getElem?_eq_some_iff.mp hm
    exact .inl ⟨rfl, Option.some.inj (hm₁.symm.trans hm),
      Option.some.inj ((List.getElem?_set_self hlt).symm.trans hm')⟩
  · rw [List.getElem?_set_ne hn] at hm'
    exact .inr ⟨hn, Option.some.inj (hm.symm.trans hm')⟩

theorem get_append (hm : o.managers[n]? = some m) {m₁ : Manager}
    (hm' : (o.managers ++ [m₁])[n]? = some m') : m = m' := by
  obtain ⟨hlt, -⟩ := List.getElem?_eq_some_iff.mp hm
  rw [List.getElem?_append_left hlt] at hm'
  exact Option.some.inj (hm.symm.trans hm')

theorem not_renewsBy_of_act
    (hlogin : ∀ state handle redirect, x.act ≠ .login n state handle redirect)
    (hstart : ∀ callback, x.act ≠ .startExchange n callback)
    (hnotices : ∀ notice, x.after.notices ≠ x.before.notices ++ [(n, notice)]) :
    ¬ x.RenewsBy n := by
  rintro (⟨state, handle, redirect, url, hact, -⟩ | ⟨callback, m, state, hact, -⟩ |
    ⟨notice, hgiven⟩)
  · exact hlogin state handle redirect hact
  · exact hstart callback hact
  · exact hnotices notice hgiven

theorem renewsBy_startExchange_iff {n₁ : Nat} {callback : String} {answer : Answer} {c : Scene}
    (hnotices : c.notices = o.notices) :
    (⟨o.scene .memory, .startExchange n₁ callback, answer, c⟩ : Moment Act Answer).RenewsBy n ↔
      n₁ = n ∧ ∃ m, o.managers[n]? = some m ∧ m.phase.isPending = false ∧
        ∃ state, o.store.get? stateKey = some state := by
  simp [Moment.RenewsBy, Moment.Issues, Moment.Adopts, scene, hnotices, Storage.memory,
    Storage.Memory.get]

theorem epoch_cases_of_startExchange {n₁ : Nat} {m₁ m₁' : Manager} {callback : String}
    {answer : Answer} {c : Scene} (hm₁ : o.managers[n₁]? = some m₁)
    (hepoch : m₁'.epoch = (m₁.adopting o.store).epoch) (hm : o.managers[n]? = some m)
    (hm' : (o.managers.set n₁ m₁')[n]? = some m') (hnotices : c.notices = o.notices) :
    m'.epoch = m.epoch + 1 ∧
        (⟨o.scene .memory, .startExchange n₁ callback, answer, c⟩ : Moment Act Answer).RenewsBy n ∨
      m'.epoch = m.epoch ∧
        ¬ (⟨o.scene .memory, .startExchange n₁ callback, answer, c⟩ :
          Moment Act Answer).RenewsBy n := by
  rw [renewsBy_startExchange_iff hnotices]
  rcases get_set_cases hm₁ hm hm' with ⟨rfl, rfl, rfl⟩ | ⟨hn, rfl⟩
  · rcases m₁.adopting_cases o.store with ⟨hidle, hstate, hadopts⟩ | ⟨hnot, hsame⟩
    · rw [hadopts] at hepoch
      exact .inl ⟨hepoch, rfl, m₁, hm, hidle, Option.ne_none_iff_exists'.mp hstate⟩
    · rw [hsame] at hepoch
      refine .inr ⟨hepoch, ?_⟩
      rintro ⟨-, m₂, hm₂, hidle, hstate⟩
      cases hm.symm.trans hm₂
      exact hnot ⟨hidle, Option.ne_none_iff_exists'.mpr hstate⟩
  · exact .inr ⟨rfl, fun h => hn h.1⟩

theorem Spans.epoch_cases (hx : o.Spans e x o') (hm : o.managers[n]? = some m)
    (hm' : o'.managers[n]? = some m') :
    m'.epoch = m.epoch + 1 ∧ x.RenewsBy n ∨ m'.epoch = m.epoch ∧ ¬ x.RenewsBy n := by
  obtain ⟨before, a, answer, after⟩ := x
  obtain ⟨hturn, rfl, rfl⟩ := hx
  dsimp only at hturn
  cases hturn with
  | restored | orphaned | resumed =>
    obtain rfl := get_append hm hm'
    exact .inr ⟨rfl, not_renewsBy_of_act (by simp) (by simp) (by simp [scene])⟩
  | @login n₁ m₁ hm₁ state handle redirect =>
    rcases get_set_cases hm₁ hm hm' with ⟨rfl, rfl, rfl⟩ | ⟨hn, rfl⟩
    · exact .inl ⟨rfl, .inl ⟨state, handle, redirect, _, rfl, rfl⟩⟩
    · exact .inr ⟨rfl, not_renewsBy_of_act (by simp [hn]) (by simp) (by simp [scene, seat])⟩
  | refused hm₁ =>
    exact epoch_cases_of_startExchange hm₁ (Manager.epoch_refusing _) hm hm' rfl
  | @started n₁ m₁ callback request hm₁ =>
    have hepoch : ({ m₁.adopting o.store with exchanging := true } : Manager).epoch =
        (m₁.adopting o.store).epoch := rfl
    exact epoch_cases_of_startExchange hm₁ hepoch hm hm' rfl
  | superseded ht hm₁ | failed ht hm₁ | recorded ht hm₁ =>
    have hepoch : m'.epoch = m.epoch := by
      rcases get_set_cases (o := o.without _) hm₁ hm hm' with ⟨rfl, rfl, rfl⟩ | ⟨hn, rfl⟩ <;>
        simp [Manager.recording]
    exact .inr ⟨hepoch, not_renewsBy_of_act (by simp) (by simp) (by simp [scene, seat, without])⟩
  | tokenless hm₁ | loggedOut hm₁ | rejected _ hm₁ =>
    rcases get_set_cases hm₁ hm hm' with ⟨rfl, rfl, rfl⟩ | ⟨hn, rfl⟩
    · exact .inl ⟨rfl, .inr (.inr ⟨_, rfl⟩)⟩
    · exact .inr ⟨rfl, not_renewsBy_of_act (by simp) (by simp)
        (by simp [scene, tearDown, without, hn])⟩
  | unsent | sent | late | answered | dropped =>
    cases hm.symm.trans hm'
    exact .inr ⟨rfl, not_renewsBy_of_act (by simp) (by simp) (by simp [scene, enter, without])⟩
  | absent ha hnone =>
    cases hm.symm.trans hm'
    refine .inr ⟨rfl, not_renewsBy_of_act ?_ ?_ (by simp)⟩
    · rintro state handle redirect rfl
      cases ha
      cases hm.symm.trans hnone
    · rintro callback rfl
      cases ha
      cases hm.symm.trans hnone
  | lost ha | unknown ha =>
    cases hm.symm.trans hm'
    refine .inr ⟨rfl, not_renewsBy_of_act ?_ ?_ (by simp [scene, without])⟩
    · rintro state handle redirect rfl
      cases ha
    · rintro callback rfl
      cases ha

section Stories

variable {σ : Type} {p : Platform σ}

theorem epoch_iff_of_reach (hm : o.managers[n]? = some m) {acts : List Act}
    (hm' : (reach (fun o a => o.step p.inMemory a) o acts).managers[n]? = some m') :
    m'.epoch = m.epoch ↔ ∀ z ∈ o.story p.inMemory acts, ¬ z.RenewsBy n := by
  induction acts generalizing o m with
  | nil =>
    cases hm.symm.trans hm'
    exact iff_of_true rfl fun _ hz => absurd hz List.not_mem_nil
  | cons a acts ih =>
    have hspans := spans_moment p o a
    obtain ⟨m₁, hm₁, -⟩ := hspans.turn.later.manager n m hm
    obtain ⟨m₂, hm₂, hlater⟩ := (later_reach p (o.step p.inMemory a).2 acts).manager n m₁ hm₁
    cases hm'.symm.trans hm₂
    have hle := hlater.epoch_le
    have hstory : (∀ z ∈ o.story p.inMemory (a :: acts), ¬ z.RenewsBy n) ↔
        ¬ (moment .memory (fun o a => OpenManagers.step p.inMemory o a) o a).RenewsBy n ∧
          ∀ z ∈ (o.step p.inMemory a).2.story p.inMemory acts, ¬ z.RenewsBy n :=
      List.forall_mem_cons
    rw [hstory, ← ih hm₁ hm']
    rcases hspans.epoch_cases hm hm₁ with ⟨hnext, hrenews⟩ | ⟨hsame, hnot⟩
    · exact iff_of_false (by omega) fun h => h.1 hrenews
    · rw [hsame]
      exact (and_iff_right hnot).symm

theorem Turn.of_fetch_sent {request : Request}
    (h : o.Turn e (.startFetch n request) (.waits t) o') :
    ∃ m q, o'.managers[n]? = some m ∧ t.manager = n ∧ t.call = .fetch q ∧
      m.token = some q.token ∧ q.epoch = m.epoch := by
  cases h with
  | sent hm htoken => exact ⟨_, _, hm, rfl, rfl, htoken, rfl⟩

/-- From the sending of a fetch to its answer: it comes back to the epoch in which it was sent
exactly if its manager was not renewed in between. -/
theorem exists_spans_of_fetch (ho : o.Numbered) {acts : List Act}
    {before between rest : List (Moment Act Answer)} {y : Moment Act Answer} {q : PendingFetch}
    (hstory : o.story p.inMemory acts = before ++ x :: (between ++ y :: rest))
    (hfetches : x.Fetches n t) (hcall : t.call = .fetch q) :
    ∃ (o₁ o₂ : OpenManagers Entries) (m : Manager), o₁.Spans p.endpoints y o₂ ∧ o₁.Numbered ∧
      o₁.managers[t.manager]? = some m ∧ (q.epoch = m.epoch ↔ ∀ z ∈ between, ¬ z.RenewsBy n) := by
  obtain ⟨early, a, late, -, -, hx, hlate⟩ := exists_of_story_eq hstory
  obtain ⟨middle, b, last, -, rfl, rfl, -⟩ := exists_of_story_eq hlate.symm
  obtain ⟨request, hact, hwaits⟩ := hfetches
  have hspans : (reach _ o early).Spans p.endpoints x _ := hx ▸ spans_moment p _ a
  have hturn := hspans.turn
  have hnumbered := hturn.numbered (numbered_reach p ho early)
  rw [hact, hwaits] at hturn
  obtain ⟨m, q', hm, rfl, hcall', -, hepoch⟩ := hturn.of_fetch_sent
  obtain rfl : q' = q := Waiting.fetch.inj (hcall'.symm.trans hcall)
  obtain ⟨m', hm', -⟩ := (later_reach p _ middle).manager _ m hm
  refine ⟨_, _, m', spans_moment p _ b, numbered_reach p hnumbered middle, hm', ?_⟩
  rw [hepoch, eq_comm]
  exact epoch_iff_of_reach hm hm'

end Stories

/-- A rejected fetch clears the store exactly if it comes back to the epoch in which it was sent. -/
theorem Spans.of_rejected (hx : o.Spans e x o') (ho : o.Numbered)
    {received : Except AuthFault Response} (hanswers : x.Answers t received) {q : PendingFetch}
    (hcall : t.call = .fetch q) (hm : o.managers[t.manager]? = some m)
    (hrejects : Gateway.Rejects received) :
    x.answer = .fault .unauthenticated ∧
      (q.epoch = m.epoch ∧ (∀ key ∈ sessionKeys, x.after.keeps key = .ok none) ∨
        q.epoch ≠ m.epoch ∧ x.after.keeps = x.before.keeps) := by
  obtain ⟨hact, hmem⟩ := hanswers
  rw [hx.before] at hmem
  have hturn := hx.turn
  rw [hact] at hturn
  obtain ⟨hanswer, ⟨hq, hnext⟩ | ⟨hq, hnext⟩⟩ := hturn.of_rejected ho hmem hcall hm
    (Gateway.interpret_eq_unauthenticated_iff.mpr hrejects)
  · refine ⟨hanswer, .inl ⟨hq, fun key hkey => ?_⟩⟩
    rw [hx.after, hnext]
    refine congrArg Except.ok ?_
    rw [tearDown_store]
    revert key
    simp [sessionKeys]
  · refine ⟨hanswer, .inr ⟨hq, ?_⟩⟩
    rw [hx.before, hx.after, hnext]
    rfl

end OpenManagers

/-- A rejected fetch leaves nothing of a session in the store if its manager is in the epoch in
which it was sent, and otherwise leaves the store as it is. So it spares what is kept with another
token exactly if its manager was renewed in between, whatever the other managers did. -/
theorem rejection_spares_iff {σ : Type} {p : Platform σ} {Holds : σ → Entries → Prop}
    (hp : p.Reliable Holds) {st : σ} {st' : Entries} (hst : Holds st st') (acts : List Act) :
    ∀ before x between y rest n t q received,
      (OpenManagers.closed st).story p acts = before ++ x :: (between ++ y :: rest) →
      x.Fetches n t → t.call = .fetch q → y.Answers t received → Gateway.Rejects received →
      y.answer = .fault .unauthenticated ∧
      ((∀ z ∈ between, ¬ z.RenewsBy n) → ∀ key ∈ sessionKeys, y.after.keeps key = .ok none) ∧
      ((∃ z ∈ between, z.RenewsBy n) → y.after.keeps = y.before.keeps) ∧
      (y.Spares q.token ↔ (∃ z ∈ between, z.RenewsBy n) ∨
        ∀ other, y.before.keeps tokenKey = .ok (some other) → other = q.token) := by
  intro before x between y rest n t q received hstory hfetches hcall hanswers hrejects
  rw [OpenManagers.story_eq_inMemory hp hst] at hstory
  obtain ⟨o, o', m, hspans, hnumbered, hm, hiff⟩ :=
    OpenManagers.exists_spans_of_fetch (OpenManagers.numbered_closed st') hstory hfetches hcall
  obtain ⟨hanswer, ⟨hq, hgone⟩ | ⟨hq, hsame⟩⟩ :=
    hspans.of_rejected hnumbered hanswers hcall hm hrejects
  · have hquiet : ¬ ∃ z ∈ between, z.RenewsBy n := by
      simpa using hiff.mp hq
    refine ⟨hanswer, fun _ => hgone, fun hrenewed => absurd hrenewed hquiet, ?_⟩
    rw [or_iff_right hquiet]
    exact Moment.spares_iff_of_cleared (hgone tokenKey (by simp [sessionKeys]))
  · have hrenewed : ∃ z ∈ between, z.RenewsBy n := by
      by_contra hquiet
      exact hq (hiff.mpr (by simpa using hquiet))
    refine ⟨hanswer, fun hquiet => absurd (hiff.mpr hquiet) hq, fun _ => hsame, ?_⟩
    exact iff_of_true (fun _ _ _ => hsame) (.inl hrenewed)

set_option maxRecDepth 10000 in
/-- A manager whose fetch is on the network issues a login URL, and another manager completes the
login; then the fetch is rejected, and the new session stays. -/
theorem rejection_spares_renewed_session :
    let kept : Entries := .ofPairs [(handleKey, "alice.example"), (tokenKey, "token-1")]
    let told := (OpenManagers.closed kept).story .sample
      [.openManager, .openManager, .startFetch 0 { method := .get, target := "/x" },
        .login 0 "s1" "alice.example" (.secure "app.example" ["cb"]),
        .startExchange 1 "https://app.example/cb?code=XYZ&state=s1",
        .finishExchange 1 (.ok { accessToken := "token-2" }),
        .finishFetch 0 (.error .unauthenticated)]
    ∃ y, told[6]? = some y ∧ y.before.keeps tokenKey = .ok (some "token-2") ∧
      y.Spares "token-1" := by
  have hspares := (rejection_spares_iff Platform.sample_reliable
    (rfl : Entries.ofPairs [(handleKey, "alice.example"), (tokenKey, "token-1")] = .ofPairs _)
    [.openManager, .openManager, .startFetch 0 { method := .get, target := "/x" },
      .login 0 "s1" "alice.example" (.secure "app.example" ["cb"]),
      .startExchange 1 "https://app.example/cb?code=XYZ&state=s1",
      .finishExchange 1 (.ok { accessToken := "token-2" }),
      .finishFetch 0 (.error .unauthenticated)]
    [_, _] _ [_, _, _] _ [] 0 _ _ _ rfl ⟨_, rfl, rfl⟩ rfl ⟨rfl, .head _⟩ (.inl rfl)).2.2.2
  exact ⟨_, rfl, rfl, hspares.mpr (.inl ⟨_, .head _, .inl ⟨_, _, _, _, rfl, rfl⟩⟩)⟩

set_option maxRecDepth 10000 in
/-- Another manager completes a login while a fetch is on the network; then the fetch is rejected,
and the new session is gone. -/
theorem not_spares_of_other_manager :
    let kept : Entries := .ofPairs [(handleKey, "alice.example"), (tokenKey, "token-1")]
    let told := (OpenManagers.closed kept).story .sample
      [.openManager, .openManager, .startFetch 0 { method := .get, target := "/x" },
        .login 1 "s1" "bob.example" (.secure "app.example" ["cb"]),
        .startExchange 1 "https://app.example/cb?code=XYZ&state=s1",
        .finishExchange 1 (.ok { accessToken := "token-2" }),
        .finishFetch 0 (.error .unauthenticated)]
    ∃ x y t q, told[2]? = some x ∧ told[6]? = some y ∧ x.Fetches 0 t ∧ t.call = .fetch q ∧
      q.token = "token-1" ∧ y.Answers t (.error .unauthenticated) ∧
      y.before.keeps tokenKey = .ok (some "token-2") ∧ ¬ y.Spares q.token := by
  refine ⟨_, _, _, _, rfl, rfl, ⟨_, rfl, rfl⟩, rfl, rfl, ⟨rfl, .head _⟩, rfl, fun hspares => ?_⟩
  have hsame := congrFun (hspares "token-2" rfl (by decide)) tokenKey
  cases hsame

end SignIn
