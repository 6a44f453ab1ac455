import SignIn.Proofs.Session.OperationTurn

/-!
# A manager that is opened again goes on as before

A manager whose operations run to their end keeps in the store all that it remembers between them,
but for its epoch, and nothing can be told from the epoch then. So a manager that is opened on the
store in its place is the same manager, and whatever happens afterwards happens as it would have
without the restart. Operations that each have a process of their own come to what they come to in
one process.
-/

namespace SignIn

/-- An operation, or a new manager in the place of the old one. -/
inductive Episode where
  | serve (a : Operation)
  | restart

def Manager.sight (m : Manager) : SessionView × Phase × Option String := (m.view, m.phase, m.handle)

/-- What can be observed of a scene: what the managers show, the notices, and what is kept. -/
structure Sight where
  managers : List (SessionView × Phase × Option String)
  notices : List (Nat × Notice)
  keeps : String → Except StoreFault (Option String)

def Scene.sight (c : Scene) : Sight := ⟨c.managers.map Manager.sight, c.notices, c.keeps⟩

def Moment.sight {A B : Type} (x : Moment A B) : Sight × B × Sight :=
  (x.before.sight, x.answer, x.after.sight)

namespace OpenManagers

variable {σ : Type} (p : Platform σ)

/-- One manager in the place of all, opened on what the store keeps. -/
def reopened (o : OpenManagers σ) : OpenManagers σ :=
  (({ o with managers := [], waiting := [] } : OpenManagers σ).openManager p).2

/-- Carries an episode out, with the answer to an operation and what it sends. -/
def episode (restart : OpenManagers σ → OpenManagers σ) (o : OpenManagers σ) :
    Episode → Option (Answer × Option Outgoing) × OpenManagers σ
  | .serve a => (some ((o.operate p a).1, o.outgoing? p a), (o.operate p a).2)
  | .restart => (none, restart o)

def episodeStory (restart : OpenManagers σ → OpenManagers σ) (o : OpenManagers σ)
    (episodes : List Episode) : List (Moment Episode (Option (Answer × Option Outgoing))) :=
  SignIn.story p.storage (episode p restart) o episodes

end OpenManagers

namespace Manager

def undated (m : Manager) : Manager := { m with epoch := 0 }

/-- A manager between its operations: it remembers what is kept, and stands where a manager stands
that is opened on it. -/
structure AtRest (m : Manager) (st : Entries) : Prop where
  handle : st.get? handleKey = m.handle
  token : st.get? tokenKey = m.token
  named : m.token.isSome → m.handle.isSome
  used : m.token.isSome → st.get? stateKey = none
  phase : m.phase =
    if m.token.isSome then .authenticated
    else if (st.get? stateKey).isSome then .loginPending else .unauthenticated
  lowered : m.exchanging = false

variable {m : Manager} {st : Entries}

/-! ## Without epochs -/

@[simp] theorem undated_undated (m : Manager) : m.undated.undated = m.undated := rfl

@[simp] theorem sight_undated (m : Manager) : m.undated.sight = m.sight := by
  obtain ⟨phase, _⟩ := m
  cases phase <;> rfl

theorem undated_refusing (m : Manager) : m.undated.refusing = m.refusing.undated := by
  obtain ⟨phase, handle, token, epoch, exchanging⟩ := m
  cases exchanging <;> cases phase <;> rfl

theorem undated_failed (m : Manager) :
    { m.undated with exchanging := false }.failExchange =
      { m with exchanging := false }.failExchange.undated := by
  obtain ⟨phase, _⟩ := m
  cases phase <;> rfl

theorem undated_adopting (m : Manager) (st : Entries) :
    (m.undated.adopting st).undated = (m.adopting st).undated := by
  obtain ⟨phase, _⟩ := m
  cases hstate : st.get? stateKey <;> cases phase <;>
    simp [adopting, undated, expecting, hstate, Phase.isPending]

theorem recorded_adopting_undated (m : Manager) (st : Entries)
    (granted : Except AuthFault TokenResponse) :
    (m.undated.adopting st).recorded granted = (m.adopting st).recorded granted := by
  have hhandle : (m.undated.adopting st).handle = (m.adopting st).handle :=
    congrArg (·.handle) (undated_adopting m st)
  simp only [recorded, hhandle]

/-! ## Between operations -/

/-- A manager that is opened on what is kept is the manager that kept it. -/
theorem AtRest.openOn (h : m.AtRest st) : openOn .memory st = (.ok m.undated, st) := by
  have hphase := h.phase
  rw [openOn_memory, h.token, h.handle]
  cases htoken : m.token with
  | none => simp [undated, hphase, htoken, h.lowered]
  | some token =>
    obtain ⟨handle, hhandle⟩ := Option.isSome_iff_exists.mp (h.named (by simp [htoken]))
    have hused := Entries.erase_of_get?_eq_none (h.used (by simp [htoken]))
    simp [undated, hphase, htoken, hhandle, hused, h.lowered]

theorem AtRest.undated (h : m.AtRest st) : m.undated.AtRest st :=
  ⟨h.handle, h.token, h.named, h.used, h.phase, h.lowered⟩

theorem atRest_of_token_eq_none (hhandle : st.get? handleKey = m.handle)
    (hkept : st.get? tokenKey = none) (htoken : m.token = none)
    (hphase : m.phase = if (st.get? stateKey).isSome then .loginPending else .unauthenticated)
    (hlowered : m.exchanging = false) : m.AtRest st := by
  constructor
  · exact hhandle
  · rw [hkept, htoken]
  · simp [htoken]
  · simp [htoken]
  · simpa [htoken] using hphase
  · exact hlowered

theorem AtRest.adopting_eq (h : m.AtRest st) : m.adopting st = m := by
  unfold adopting
  rw [if_neg]
  rintro ⟨hpending, hstate⟩
  refine hpending ?_
  rw [h.phase, if_pos hstate]
  cases htoken : m.token with
  | none => rfl
  | some token =>
    rw [h.used (by simp [htoken])] at hstate
    cases hstate

theorem atRest_expecting (m : Manager) (handle state : String) (hlowered : m.exchanging = false)
    (htoken : st.get? tokenKey = none) :
    (m.expecting (some handle)).AtRest ((st.set handleKey handle).set stateKey state) :=
  atRest_of_token_eq_none (by simp [expecting]) (by simp [htoken]) rfl (by simp [expecting])
    hlowered

theorem atRest_tornDown (m : Manager) (st : Entries) (hlowered : m.exchanging = false) :
    m.tornDown.AtRest st.cleared :=
  atRest_of_token_eq_none (by simp [tornDown]) (by simp) rfl (by simp [tornDown]) hlowered

theorem phase_failExchange (m : Manager) :
    m.failExchange.phase = if m.phase.isPending then .unauthenticated else m.phase := by
  obtain ⟨phase, _⟩ := m
  cases phase <;> rfl

theorem AtRest.failExchange (h : m.AtRest st) : m.failExchange.AtRest (st.erase stateKey) := by
  constructor
  · simpa using h.handle
  · simpa using h.token
  · simpa using h.named
  · simp
  · rw [phase_failExchange, token_failExchange, h.phase]
    cases m.token <;> cases hstate : st.get? stateKey <;> simp [Phase.isPending]
  · have hlowered := h.lowered
    unfold Manager.failExchange
    split <;> exact hlowered

theorem atRest_recording (h : m.phase.isPending) (handle token : String)
    (hstate : st.get? stateKey = none) :
    (m.recording handle token).AtRest ((st.set handleKey handle).set tokenKey token) := by
  constructor
  · simp [recording]
  · simp [recording]
  · exact fun _ => rfl
  · exact fun _ => by simpa using hstate
  · obtain ⟨phase, _⟩ := m
    cases phase <;> first | rfl | cases h
  · rfl

end Manager

namespace OpenManagers

variable {e : Endpoints} {o o' : OpenManagers Entries} {a : Operation} {sent : Option Outgoing}
  {answer : Answer} {n : Nat} {m m' : Manager} {st : Entries}

/-! ## Nothing can be told from epochs -/

/-- The managers without their epochs. -/
def undated (o : OpenManagers Entries) : OpenManagers Entries :=
  { o with managers := o.managers.map Manager.undated }

theorem get_undated (hm : o.managers[n]? = some m) :
    o.undated.managers[n]? = some m.undated := by
  simp [undated, hm]

theorem undated_seat (h : m.undated = m'.undated) :
    (o.undated.seat n m st).undated = (o.seat n m' st).undated := by
  simp [undated, seat, List.map_set, h, Function.comp_def]

@[simp] theorem undated_undated (o : OpenManagers Entries) : o.undated.undated = o.undated := by
  simp [undated, Function.comp_def]

theorem undated_tearDown (reason : DeauthReason) :
    (o.undated.tearDown n m.undated reason).undated = (o.tearDown n m reason).undated := by
  have hdown : m.undated.tornDown.undated = m.tornDown.undated := rfl
  have hnotice : m.undated.notice reason = m.notice reason := rfl
  simp [undated, tearDown, List.map_set, Function.comp_def, hdown, hnotice]

theorem Turn.undated {b : Act} (h : o.Turn e b answer o') (hopen : b ≠ .openManager)
    (hb : b.ticket? = none) (hw : ∀ t, answer ≠ .waits t) :
    ∃ o'', o.undated.Turn e b answer o'' ∧ o''.undated = o'.undated := by
  cases h with
  | restored | orphaned | resumed => exact absurd rfl hopen
  | login hm state handle redirect =>
    exact ⟨_, .login (get_undated hm) state handle redirect, undated_seat rfl⟩
  | refused hm hv =>
    refine ⟨_, .refused (get_undated hm) hv, undated_seat ?_⟩
    rw [← Manager.undated_refusing, ← Manager.undated_refusing]
    exact congrArg Manager.refusing (Manager.undated_adopting _ _)
  | started | sent => exact absurd rfl (hw _)
  | tokenless hm htoken request =>
    exact ⟨_, .tokenless (get_undated hm) htoken request, undated_tearDown _⟩
  | unsent hm htoken hr => exact ⟨_, .unsent (get_undated hm) htoken hr, undated_undated o⟩
  | loggedOut hm => exact ⟨_, .loggedOut (get_undated hm), undated_tearDown _⟩
  | absent ha hm => exact ⟨_, .absent ha (by simp [undated, hm]), undated_undated o⟩
  | superseded | failed | recorded | rejected | late | answered | dropped => cases hb
  | lost ha | unknown ha => cases hb.symm.trans ha

theorem start_ne_openManager (ha : a ≠ .openManager) : a.start ≠ .openManager := by
  cases a <;> first | exact absurd rfl ha | exact Act.noConfusion

theorem OperationTurn.undated (h : o.OperationTurn e a sent answer o') (ha : a ≠ .openManager) :
    ∃ o'', o.undated.OperationTurn e a sent answer o'' ∧ o''.undated = o'.undated := by
  cases h with
  | brief h hw =>
    obtain ⟨o'', hturn, heq⟩ := h.undated (start_ne_openManager ha) a.ticket?_start hw
    exact ⟨o'', .brief hturn hw, heq⟩
  | @failed n m callback request granted fault hm hv hr =>
    rw [← Manager.recorded_adopting_undated] at hr
    refine ⟨_, .failed (get_undated hm) hv hr, undated_seat (o := o.counted) ?_⟩
    rw [← Manager.undated_failed, ← Manager.undated_failed]
    exact congrArg (fun m : Manager => { m with exchanging := false }.failExchange)
      (Manager.undated_adopting m o.store)
  | @recorded n m callback request granted handle token hm hv hr =>
    rw [← Manager.recorded_adopting_undated] at hr
    exact ⟨_, .recorded (get_undated hm) hv hr, undated_seat (o := o.counted)
      (congrArg (fun m : Manager => m.recording handle token)
        (Manager.undated_adopting m o.store))⟩
  | rejected hm htoken hr hrejected =>
    exact ⟨_, .rejected (get_undated hm) htoken hr hrejected, undated_tearDown (o := o.counted) _⟩
  | answered hm htoken hr hanswered =>
    exact ⟨_, .answered (get_undated hm) htoken hr hanswered, undated_undated o.counted⟩

/-- An operation takes the same turn where only the epochs differ. -/
theorem OperationTurn.agree {o₁ o₁' : OpenManagers Entries} {sent₁ : Option Outgoing}
    {answer₁ : Answer}
    (h : o.OperationTurn e a sent answer o') (h₁ : o₁.OperationTurn e a sent₁ answer₁ o₁')
    (ha : a ≠ .openManager)
    (hsame : o.undated = o₁.undated) :
    sent = sent₁ ∧ answer = answer₁ ∧ o'.undated = o₁'.undated := by
  obtain ⟨o'', hop, heq⟩ := h.undated ha
  obtain ⟨o₁'', hop₁, heq₁⟩ := h₁.undated ha
  rw [hsame] at hop
  obtain ⟨rfl, rfl, rfl⟩ := hop.functional hop₁
  exact ⟨rfl, rfl, heq.symm.trans heq₁⟩

/-! ## Operations leave the manager at rest -/

/-- One manager is at rest, and no call waits. -/
structure AtRest (o : OpenManagers Entries) (m : Manager) : Prop where
  managers : o.managers = [m]
  waiting : o.waiting = []
  rest : m.AtRest o.store

namespace AtRest

theorem eq_of_get (h : o.AtRest m) (hm : o.managers[n]? = some m') : n = 0 ∧ m = m' :=
  eq_of_get_alone h.managers hm

theorem seat (h : o.AtRest m) (hrest : m'.AtRest st) :
    (o.seat 0 m' st).AtRest m' ∧ (o.counted.seat 0 m' st).AtRest m' := by
  have hself : o.managers.set 0 m' = [m'] := by simp [h.managers]
  exact ⟨⟨hself, h.waiting, hrest⟩, hself, h.waiting, hrest⟩

theorem tearDown (h : o.AtRest m) (reason : DeauthReason) :
    (o.tearDown 0 m reason).AtRest m.tornDown ∧
      (o.counted.tearDown 0 m reason).AtRest m.tornDown := by
  have hself : o.managers.set 0 m.tornDown = [m.tornDown] := by simp [h.managers]
  have hrest := Manager.atRest_tornDown m o.store h.rest.lowered
  exact ⟨⟨hself, h.waiting, hrest⟩, hself, h.waiting, hrest⟩

theorem turn {b : Act} (h : o.AtRest m) (hturn : o.Turn e b answer o') (hopen : b ≠ .openManager)
    (hb : b.ticket? = none) (hw : ∀ t, answer ≠ .waits t) : ∃ m', o'.AtRest m' := by
  cases hturn with
  | restored | orphaned | resumed => exact absurd rfl hopen
  | login hm state handle redirect =>
    obtain ⟨rfl, rfl⟩ := h.eq_of_get hm
    refine ⟨_, (h.seat (Manager.atRest_expecting m handle state h.rest.lowered ?_)).1⟩
    cases htoken : m.token with
    | none => simpa [htoken] using h.rest.token
    | some token => simp
  | refused hm hv =>
    obtain ⟨rfl, rfl⟩ := h.eq_of_get hm
    rw [h.rest.adopting_eq, Manager.refusing, if_neg (by simp [h.rest.lowered])]
    exact ⟨_, (h.seat h.rest.failExchange).1⟩
  | started | sent => exact absurd rfl (hw _)
  | tokenless hm | loggedOut hm =>
    obtain ⟨rfl, rfl⟩ := h.eq_of_get hm
    exact ⟨_, (h.tearDown _).1⟩
  | unsent | absent => exact ⟨m, h⟩
  | superseded | failed | recorded | rejected | late | answered | dropped => cases hb
  | lost ha | unknown ha => cases hb.symm.trans ha

theorem operationTurn (h : o.AtRest m) (hop : o.OperationTurn e a sent answer o')
    (ha : a ≠ .openManager) :
    ∃ m', o'.AtRest m' := by
  cases hop with
  | brief hturn hw => exact h.turn hturn (start_ne_openManager ha) a.ticket?_start hw
  | failed hm hv hr =>
    obtain ⟨rfl, rfl⟩ := h.eq_of_get hm
    rw [h.rest.adopting_eq]
    have hsame : { m with exchanging := false } = m := by
      rw [← h.rest.lowered]
    rw [hsame]
    exact ⟨_, (h.seat h.rest.failExchange).2⟩
  | recorded hm hv hr =>
    obtain ⟨rfl, rfl⟩ := h.eq_of_get hm
    have hpending := Manager.isPending_adopting m (LoginFlow.ne_none_of_verdict hv)
    exact ⟨_, (h.seat (Manager.atRest_recording hpending _ _ (by simp))).2⟩
  | rejected hm =>
    obtain ⟨rfl, rfl⟩ := h.eq_of_get hm
    exact ⟨_, (h.tearDown _).2⟩
  | answered => exact ⟨m, h.managers, h.waiting, h.rest⟩

theorem of_undated (h : o.AtRest m) : o.undated.AtRest m.undated :=
  ⟨by simp [OpenManagers.undated, h.managers], h.waiting, h.rest.undated⟩

theorem reopened_eq {σ : Type} (h : o.AtRest m) (p : Platform σ) :
    o.reopened p.inMemory = o.undated := by
  have hopening : p.inMemory.opening o.store = (.ok m.undated, o.store) := h.rest.openOn
  rw [OpenManagers.reopened, openManager_eq, hopening]
  simp [OpenManagers.undated, h.managers, h.waiting]

end AtRest

theorem exists_atRest_reopened {σ : Type} (p : Platform σ) (o : OpenManagers Entries) :
    ∃ m, (o.reopened p.inMemory).AtRest m := by
  have hopening : p.inMemory.opening o.store = Manager.openOn .memory o.store := rfl
  rw [reopened, openManager_eq, hopening, Manager.openOn_memory]
  cases htoken : o.store.get? tokenKey with
  | none =>
    exact ⟨_, rfl, rfl, Manager.atRest_of_token_eq_none rfl htoken rfl rfl rfl⟩
  | some token =>
    cases hhandle : o.store.get? handleKey with
    | none =>
      refine ⟨_, rfl, rfl, Manager.atRest_of_token_eq_none ?_ ?_ rfl ?_ rfl⟩ <;> simp
    | some handle =>
      refine ⟨_, rfl, rfl, ?_, ?_, fun _ => rfl, ?_, rfl, rfl⟩ <;> simp [htoken, hhandle]

/-! ## Runs -/

theorem sight_eq_of_undated {o₁ : OpenManagers Entries} (h : o.undated = o₁.undated) :
    (o.scene .memory).sight = (o₁.scene .memory).sight := by
  have hsight : ∀ o : OpenManagers Entries,
      (o.scene .memory).sight = (o.undated.scene .memory).sight := by
    intro o
    simp [scene, Scene.sight, undated, Function.comp_def]
  rw [hsight o, hsight o₁, h]

section Runs

variable {σ : Type} {p : Platform σ}

/-- Managers that differ in epochs only are not told apart by episodes, even if restarts open
the manager of only one of them anew. -/
theorem AtRest.sights_eq {o₁ : OpenManagers Entries} {m₁ : Manager} (h : o.AtRest m)
    (h₁ : o₁.AtRest m₁) (hsame : o.undated = o₁.undated) {episodes : List Episode}
    (hopen : .serve .openManager ∉ episodes) :
    (o₁.episodeStory p.inMemory (reopened p.inMemory) episodes).map Moment.sight =
      (o.episodeStory p.inMemory id episodes).map Moment.sight := by
  induction episodes generalizing o m o₁ m₁ with
  | nil => rfl
  | cons b episodes ih =>
    obtain ⟨hfirst, hrest⟩ := List.ne_and_not_mem_of_not_mem_cons hopen
    have hbefore := sight_eq_of_undated hsame
    cases b with
    | restart =>
      have hreopened := h₁.reopened_eq p
      have hsame' : o.undated = (o₁.reopened p.inMemory).undated := by
        rw [hreopened, undated_undated, hsame]
      have hafter := sight_eq_of_undated hsame'
      have htail := ih h (hreopened ▸ h₁.of_undated) hsame' hrest
      exact congrArg₂ List.cons (Prod.ext hbefore.symm (Prod.ext rfl hafter.symm)) htail
    | serve a =>
      have ha : a ≠ .openManager := fun heq => hfirst (by rw [heq])
      have hop := (numbered_of_idle h.waiting).operationTurn_operate p a
      have hop₁ := (numbered_of_idle h₁.waiting).operationTurn_operate p a
      obtain ⟨hsent, hanswer, hsame'⟩ := hop.agree hop₁ ha hsame
      have hserved : some ((o₁.operate p.inMemory a).1, o₁.outgoing? p.inMemory a) =
          some ((o.operate p.inMemory a).1, o.outgoing? p.inMemory a) := by
        rw [hsent, hanswer]
      have hafter := sight_eq_of_undated hsame'
      obtain ⟨m', h'⟩ := h.operationTurn hop ha
      obtain ⟨m₁', h₁'⟩ := h₁.operationTurn hop₁ ha
      have htail := ih h' h₁' hsame' hrest
      exact congrArg₂ List.cons (Prod.ext hbefore.symm (Prod.ext hserved hafter.symm)) htail

end Runs

section Mirror

variable {σ : Type} {Holds : σ → Entries → Prop} {o : OpenManagers σ} {o' : OpenManagers Entries}
  {p : Platform σ}

theorem MirroredBy.outgoing?_eq (hp : p.Reliable Holds) (h : o.MirroredBy Holds o')
    (a : Operation) :
    o.outgoing? p a = o'.outgoing? p.inMemory a := by
  simp only [outgoing?, (h.step hp a.start).1]

theorem MirroredBy.reopened (hp : p.Reliable Holds) (h : o.MirroredBy Holds o') :
    (o.reopened p).MirroredBy Holds (o'.reopened p.inMemory) := by
  have hempty : OpenManagers.MirroredBy Holds { o with managers := [], waiting := [] }
      { o' with managers := [], waiting := [] } := ⟨h.store, rfl, rfl, h.issued, h.notices⟩
  exact (hempty.openManager hp).2

theorem MirroredBy.episode (hp : p.Reliable Holds) {restart : OpenManagers σ → OpenManagers σ}
    {restart' : OpenManagers Entries → OpenManagers Entries}
    (hrestart : ∀ {o o'}, MirroredBy Holds o o' → (restart o).MirroredBy Holds (restart' o'))
    (h : o.MirroredBy Holds o') (b : Episode) :
    (o.episode p restart b).1 = (o'.episode p.inMemory restart' b).1 ∧
      (o.episode p restart b).2.MirroredBy Holds (o'.episode p.inMemory restart' b).2 := by
  cases b with
  | restart => exact ⟨rfl, hrestart h⟩
  | serve a =>
    obtain ⟨hanswer, hafter⟩ := h.operate hp a
    simp only [OpenManagers.episode, hanswer, h.outgoing?_eq hp a]
    exact ⟨trivial, hafter⟩

theorem episodeStory_eq_inMemory (hp : p.Reliable Holds) {restart : OpenManagers σ → OpenManagers σ}
    {restart' : OpenManagers Entries → OpenManagers Entries}
    (hrestart : ∀ {o o'}, MirroredBy Holds o o' → (restart o).MirroredBy Holds (restart' o'))
    (h : o.MirroredBy Holds o') (episodes : List Episode) :
    o.episodeStory p restart episodes = o'.episodeStory p.inMemory restart' episodes :=
  story_eq_of_mirroredBy hp.storage (fun b h => h.episode hp hrestart b) h episodes

end Mirror

end OpenManagers

/-- A manager that is opened on a store and from then on replaced, between any operations, by one
that is opened anew, goes on as the one manager would: with the same answers, the same requests,
the same notices, and the same sight of the manager and the store at every moment. -/
theorem restarts_change_nothing {σ : Type} {p : Platform σ} {Holds : σ → Entries → Prop}
    (hp : p.Reliable Holds) {st : σ} {st' : Entries} (hst : Holds st st')
    {episodes : List Episode} (hopen : .serve .openManager ∉ episodes) :
    (((OpenManagers.closed st).reopened p).episodeStory p (OpenManagers.reopened p) episodes).map
        Moment.sight =
      (((OpenManagers.closed st).reopened p).episodeStory p id episodes).map Moment.sight := by
  have hmirrored : (OpenManagers.closed st).MirroredBy Holds (OpenManagers.closed st') :=
    ⟨hst, rfl, rfl, rfl, rfl⟩
  have hopened := hmirrored.reopened hp
  have hrestarted :=
    OpenManagers.episodeStory_eq_inMemory hp (fun h => h.reopened hp) hopened episodes
  have hlive : ((OpenManagers.closed st).reopened p).episodeStory p id episodes =
      ((OpenManagers.closed st').reopened p.inMemory).episodeStory p.inMemory id episodes :=
    OpenManagers.episodeStory_eq_inMemory hp (fun h => h) hopened episodes
  rw [hrestarted, hlive]
  obtain ⟨m, hrest⟩ := OpenManagers.exists_atRest_reopened p (OpenManagers.closed st')
  exact hrest.sights_eq hrest rfl hopen

set_option maxRecDepth 10000 in
/-- A login that is begun, finished and used by three processes. -/
theorem restarts_change_nothing_in_login :
    let episodes : List Episode :=
      [.serve (.login 0 "s1" "alice.example" (.secure "app.example" ["cb"])), .restart,
        .serve (.exchange 0 "https://app.example/cb?code=XYZ&state=s1"
          (.ok { accessToken := "token-XYZ" })), .restart,
        .serve (.fetch 0 { method := .get, target := "/x" } (.error .unauthenticated))]
    let o := (OpenManagers.closed .empty).reopened .sample
    (o.episodeStory .sample (OpenManagers.reopened .sample) episodes).map Moment.sight =
        (o.episodeStory .sample id episodes).map Moment.sight ∧
      (o.episodeStory .sample (OpenManagers.reopened .sample) episodes).filterMap
          (fun x => x.answer.bind (·.1.fault?)) = [.unauthenticated] :=
  ⟨restarts_change_nothing Platform.sample_reliable (rfl : Entries.empty = .empty) (by simp),
    by decide⟩

end SignIn
