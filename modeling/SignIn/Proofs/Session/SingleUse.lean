import Mathlib.Data.List.Nodup
import Mathlib.Data.Option.Basic
import SignIn.Proofs.Session.Story
import SignIn.Proofs.Text.Secret

/-!
# A login state is used once

Managers and login flows of any number share a store. A request goes to the token endpoint only for
a callback with the state that was issued last, by whomever; that state is still kept and no other
callback has used it up. So no state leads to two requests, and there are no more requests than
login URLs and states that were kept at the beginning.
-/

namespace SignIn

def CallbackParams.state? (callback : String) : Option String :=
  match Url.parse callback with
  | .ok url => (ofUrl url).state
  | .error _ => none

/-- What can be done with a shared store: an act of managers, or a call of a login flow. -/
inductive Move where
  | act (a : Act)
  | issue (e : Endpoints) (state handle : String) (redirect : Url)
  | prepare (e : Endpoints) (callback : String)
  | exchange (e : Endpoints) (grant : TokenRequest → Except AuthFault TokenResponse)
      (callback : String)

/-- What a move comes to, with the requests that it sends to the token endpoint. -/
structure Outcome where
  answer : Answer
  requests : List TokenRequest

/-- The requests to the token endpoint whose answers are now waited for. -/
def Answer.requests : Answer → List TokenRequest
  | .waits ⟨_, _, .exchange q⟩ => [q.request]
  | _ => []

namespace OpenManagers

variable {σ : Type} (p : Platform σ) (o : OpenManagers σ)

/-- Takes over what a login flow answers and the store that it leaves. -/
def settle {α : Type} (answer : α → Answer) : Except AuthFault α × σ → Answer × OpenManagers σ
  | (.ok a, store) => (answer a, { o with store := store })
  | (.error fault, store) => (.fault fault, { o with store := store })

@[simp] theorem settle_store {α : Type} (answer : α → Answer) (r : Except AuthFault α × σ) :
    (o.settle answer r).2.store = r.2 := by
  obtain ⟨fault | a, store⟩ := r <;> rfl

def move : Move → Outcome × OpenManagers σ
  | .act a =>
    let (answer, o) := o.step p a
    (⟨answer, answer.requests⟩, o)
  | .issue e state handle redirect =>
    let issue := Access.asOp (LoginFlow.issue p.storage e state handle redirect)
    let (answer, o) := o.settle .loginUrl (issue o.store)
    (⟨answer, []⟩, o)
  | .prepare e callback =>
    let (answer, o) := o.settle (fun _ => .done) (LoginFlow.prepare p.storage e callback o.store)
    (⟨answer, []⟩, o)
  | .exchange e grant callback =>
    let client := noting fun r => (return grant r : Id (Except AuthFault TokenResponse))
    let (result, requests) := LoginFlow.exchange p.storage e client callback o.store []
    let (answer, o) := o.settle (fun token => .token token.accessToken) result
    (⟨answer, requests⟩, o)

def moveStory (moves : List Move) : List (Moment Move Outcome) :=
  SignIn.story p.storage (move p) o moves

end OpenManagers

def Move.callback? : Move → Option String
  | .act (.startExchange _ callback) | .prepare _ callback | .exchange _ _ callback =>
    some callback
  | _ => none

namespace Moment

/-- The state of the login URL that was issued at a moment. -/
def issued? (x : Moment Move Outcome) : Option String :=
  match x.act, x.answer.answer with
  | .act (.login _ state _ _), .loginUrl _ | .issue _ state _ _, .loginUrl _ => some state
  | _, _ => none

def Attempts (x : Moment Move Outcome) : Prop :=
  x.act.callback?.isSome ∧ x.answer.answer ≠ .noManager

/-- The states of the callbacks for which requests went to the token endpoint. -/
def grants (x : Moment Move Outcome) : List (Option String) :=
  x.answer.requests.map fun _ => x.act.callback?.bind CallbackParams.state?

/-- Nothing is issued, no callback is exchanged, and the state is kept. -/
structure Leaves (x : Moment Move Outcome) (state : String) : Prop where
  issued : x.issued? = none
  attempts : ¬ x.Attempts
  kept : x.after.keeps stateKey = .ok (some state)

end Moment

/-- The state is that of the newest login URL, or that from the beginning if there is none, and
nobody has used it up or cleared it since. -/
def Outstanding (init : Option String) (state : String) (past : List (Moment Move Outcome)) :
    Prop :=
  ∃ since, (∀ x ∈ since, x.Leaves state) ∧
    (init = some state ∧ past = since ∨
      ∃ older x, x.issued? = some state ∧ past = older ++ x :: since)

/-- The client is handed the request of a callback that passes, and no other. -/
theorem LoginFlow.exchange_noting {σ : Type} (s : Storage σ) (e : Endpoints)
    (grant : TokenRequest → Except AuthFault TokenResponse) (callback : String) (st : σ) :
    exchange s e (noting fun r => (return grant r : Id (Except AuthFault TokenResponse)))
        callback st [] =
      let prepared := prepare s e callback st
      ((prepared.1.bind grant, prepared.2), prepared.1.toOption.toList) := by
  unfold exchange
  generalize prepare s e callback st = prepared
  obtain ⟨fault | request, st'⟩ := prepared <;> rfl

namespace OpenManagers

section Mirror

variable {σ : Type} {Holds : σ → Entries → Prop} {o : OpenManagers σ} {o' : OpenManagers Entries}
  {p : Platform σ}

theorem MirroredBy.settle {α : Type} (h : o.MirroredBy Holds o') (answer : α → Answer)
    (r : Except AuthFault α × σ) (r' : Except AuthFault α × Entries) (hanswer : r.1 = r'.1)
    (hstore : Holds r.2 r'.2) :
    (o.settle answer r).1 = (o'.settle answer r').1 ∧
      (o.settle answer r).2.MirroredBy Holds (o'.settle answer r').2 := by
  obtain ⟨result, st⟩ := r
  obtain ⟨result', st'⟩ := r'
  obtain rfl : result = result' := hanswer
  cases result <;> exact ⟨rfl, hstore, h.managers, h.waiting, h.issued, h.notices⟩

theorem MirroredBy.move (hp : p.Reliable Holds) (h : o.MirroredBy Holds o') (a : Move) :
    (o.move p a).1 = (o'.move p.inMemory a).1 ∧
      (o.move p a).2.MirroredBy Holds (o'.move p.inMemory a).2 := by
  have hs := hp.storage
  cases a with
  | act a =>
    obtain ⟨hanswer, hafter⟩ := h.step hp a
    simp only [OpenManagers.move, hanswer]
    exact ⟨trivial, hafter⟩
  | issue e state handle redirect =>
    obtain ⟨hsame, hstore⟩ := (hs.issue e state handle redirect).asOp _ _ h.store
    obtain ⟨hanswer, hafter⟩ := h.settle .loginUrl _ _ hsame hstore
    exact ⟨congrArg (Outcome.mk · []) hanswer, hafter⟩
  | prepare e callback =>
    obtain ⟨hsame, hstore⟩ := hs.prepare e callback _ _ h.store
    obtain ⟨hanswer, hafter⟩ := h.settle (fun _ => .done) _ _ hsame hstore
    exact ⟨congrArg (Outcome.mk · []) hanswer, hafter⟩
  | exchange e grant callback =>
    obtain ⟨hsame, hstore⟩ := hs.prepare e callback _ _ h.store
    simp only [OpenManagers.move, Platform.inMemory, LoginFlow.exchange_noting]
    generalize LoginFlow.prepare p.storage e callback o.store = r,
      LoginFlow.prepare .memory e callback o'.store = r' at hsame hstore
    obtain ⟨hanswer, hafter⟩ := h.settle (fun token => .token token.accessToken)
      (r.1.bind grant, r.2) (r'.1.bind grant, r'.2) (congrArg (·.bind grant) hsame) hstore
    exact ⟨congrArg₂ Outcome.mk hanswer (congrArg (·.toOption.toList) hsame), hafter⟩

theorem moveStory_eq_inMemory (hp : p.Reliable Holds) {st : σ} {st' : Entries} (hst : Holds st st')
    (moves : List Move) : (closed st).moveStory p moves = (closed st').moveStory p.inMemory moves :=
  story_eq_of_mirroredBy hp.storage (fun a h => h.move hp a) ⟨hst, rfl, rfl, rfl, rfl⟩ moves

end Mirror

/-! ## What a move does to the state -/

def between (o : OpenManagers Entries) (a : Move) (r : Outcome) (o' : OpenManagers Entries) :
    Moment Move Outcome :=
  ⟨o.scene .memory, a, r, o'.scene .memory⟩

/-- What a move can do to the state: issue another, exchange a callback for it, clear it, or
leave it. -/
inductive Handles (o : OpenManagers Entries) (x : Moment Move Outcome)
    (o' : OpenManagers Entries) : Prop
  | issues {state} (hissued : x.issued? = some state) (hgrants : x.grants = [])
      (hkept : o'.store.get? stateKey = some state)
  | clears (hissued : x.issued? = none) (hgrants : x.grants = [])
      (hkept : o'.store.get? stateKey = none)
  | grants {state brought} (hissued : x.issued? = none) (hgrants : x.grants = [brought])
      (hbefore : o.store.get? stateKey = some state) (hbrought : brought.getD "" = state)
      (hkept : o'.store.get? stateKey = none)
  | leaves (hissued : x.issued? = none) (hgrants : x.grants = []) (hattempts : ¬ x.Attempts)
      (hkept : o'.store.get? stateKey = o.store.get? stateKey)

theorem brought_of_verdict {e : Endpoints} {st : Entries} {callback : String}
    {request : TokenRequest} (h : LoginFlow.verdict e st callback = .ok request) :
    ∃ state, st.get? stateKey = some state ∧
      (CallbackParams.state? callback).getD "" = state := by
  unfold LoginFlow.verdict at h
  cases hkept : st.get? stateKey with
  | none =>
    rw [hkept] at h
    cases h
  | some state =>
    rw [hkept] at h
    refine ⟨state, rfl, ?_⟩
    unfold LoginFlow.checkCallback at h
    unfold CallbackParams.state?
    cases hurl : Url.parse callback with
    | error fault =>
      rw [hurl] at h
      cases h
    | ok url =>
      rw [hurl] at h
      dsimp only at h ⊢
      unfold LoginFlow.check at h
      split at h
      · cases h
      · split at h
        · cases h
        · next hsame => exact Text.eq_of_sameSecret (by simpa using hsame)

variable {e : Endpoints} {o o' : OpenManagers Entries} {a : Act} {answer : Answer}

theorem Turn.handles (h : o.Turn e a answer o') :
    o.Handles (between o (.act a) ⟨answer, answer.requests⟩ o') o' := by
  cases h with
  | restored | refused => exact .clears rfl rfl (by simp)
  | orphaned | tokenless | rejected | loggedOut =>
    exact .clears rfl rfl (by simp)
  | login => exact .issues rfl rfl (by simp)
  | started hm hv =>
    obtain ⟨state, hbefore, hbrought⟩ := brought_of_verdict hv
    exact .grants rfl rfl hbefore hbrought (by simp)
  | resumed | unsent | sent | superseded | failed | late | dropped =>
    exact .leaves rfl rfl (fun h => Bool.false_ne_true h.1) rfl
  | @recorded number n m q granted handle token =>
    refine .leaves rfl ?_ (fun h => Bool.false_ne_true h.1) (by simp)
    cases m.phase.isPending <;> rfl
  | @answered number n m q received =>
    refine .leaves rfl ?_ (fun h => Bool.false_ne_true h.1) rfl
    cases Gateway.interpret received <;> rfl
  | absent | lost =>
    refine .leaves ?_ rfl (fun h => h.2 rfl) rfl
    cases a <;> rfl
  | unknown ha =>
    refine .leaves ?_ rfl ?_ rfl
    · cases a <;> rfl
    · rintro ⟨hcallback, -⟩
      cases a <;> cases ha <;> cases hcallback

/-- Every move over the store in memory handles the state in one of these ways. -/
theorem handles_move {σ : Type} (p : Platform σ) (o : OpenManagers Entries) (a : Move) :
    o.Handles (moment .memory (move p.inMemory) o a) (o.move p.inMemory a).2 := by
  cases a with
  | act a => exact (turn_step p a).handles
  | issue e state handle redirect =>
    refine .issues rfl rfl ?_
    change ((o.store.set handleKey handle).set stateKey state).get? stateKey = some state
    simp
  | prepare e callback =>
    refine .clears rfl rfl ?_
    simp [move, Platform.inMemory, LoginFlow.prepare_memory]
  | exchange e grant callback =>
    have hkept : (o.move p.inMemory (.exchange e grant callback)).2.store.get? stateKey = none := by
      simp [move, Platform.inMemory, LoginFlow.exchange_noting, LoginFlow.prepare_memory]
    have hsent : (o.move p.inMemory (.exchange e grant callback)).1.requests =
        (LoginFlow.verdict e o.store callback).toOption.toList := by
      simp only [move, Platform.inMemory, LoginFlow.exchange_noting, LoginFlow.prepare_memory]
    cases hv : LoginFlow.verdict e o.store callback with
    | error fault =>
      rw [hv] at hsent
      exact .clears rfl (congrArg (List.map _) hsent) hkept
    | ok request =>
      rw [hv] at hsent
      obtain ⟨state, hbefore, hbrought⟩ := brought_of_verdict hv
      exact .grants rfl (congrArg (List.map _) hsent) hbefore hbrought hkept

/-! ## Runs -/

/-- What is true of the state that is kept after moments: it is outstanding, and with those that
were granted before it stands, in order, among those that were issued. -/
structure Traced (init : Option String) (past : List (Moment Move Outcome))
    (o : OpenManagers Entries) : Prop where
  outstanding : ∀ state, o.store.get? stateKey = some state → Outstanding init state past
  sublist : (past.flatMap Moment.grants ++ (o.store.get? stateKey).toList.map some).Sublist
    ((init.toList ++ past.filterMap Moment.issued?).map some)

namespace Traced

variable {init : Option String} {past : List (Moment Move Outcome)}

theorem ne_empty (h : Traced init past o)
    (hempty : "" ∉ init.toList ++ past.filterMap Moment.issued?) {state : String}
    (hkept : o.store.get? stateKey = some state) : state ≠ "" := by
  have hmem := h.sublist.subset (List.mem_append_right _ (by rw [hkept]; exact List.mem_cons_self))
  rintro rfl
  exact hempty (by simpa using hmem)

theorem brought_eq (h : Traced init past o)
    (hempty : "" ∉ init.toList ++ past.filterMap Moment.issued?) {state : String}
    {brought : Option String} (hkept : o.store.get? stateKey = some state)
    (hbrought : brought.getD "" = state) : brought = some state := by
  cases brought with
  | none => exact absurd hbrought.symm (h.ne_empty hempty hkept)
  | some s => exact congrArg some hbrought

theorem closed (st : Entries) : Traced (st.get? stateKey) [] (closed st) := by
  constructor
  · intro state hkept
    exact ⟨[], by simp, .inl ⟨hkept, rfl⟩⟩
  · simp [OpenManagers.closed]

theorem concat (h : Traced init past o)
    (hempty : "" ∉ init.toList ++ past.filterMap Moment.issued?) {x : Moment Move Outcome}
    (hx : x.after = o'.scene .memory) (hhandles : o.Handles x o') :
    Traced init (past ++ [x]) o' := by
  have hsub := h.sublist
  have hgranted := (List.sublist_append_left _ _).trans hsub
  cases hhandles with
  | @issues state hissued hgrants hkept =>
    refine ⟨fun s hs => ?_, ?_⟩
    · obtain rfl : state = s := Option.some.inj (hkept.symm.trans hs)
      exact ⟨[], by simp, .inr ⟨past, x, hissued, rfl⟩⟩
    · simpa [hissued, hgrants, hkept] using hgranted.append (.refl [some state])
  | clears hissued hgrants hkept =>
    refine ⟨fun s hs => ?_, ?_⟩
    · rw [hkept] at hs
      cases hs
    · simpa [hissued, hgrants, hkept] using hgranted
  | @grants state brought hissued hgrants hbefore hbrought hkept =>
    refine ⟨fun s hs => ?_, ?_⟩
    · rw [hkept] at hs
      cases hs
    · rw [hbefore] at hsub
      rw [h.brought_eq hempty hbefore hbrought] at hgrants
      simpa [hissued, hgrants, hkept] using hsub
  | leaves hissued hgrants hattempts hkept =>
    refine ⟨fun s hs => ?_, ?_⟩
    · obtain ⟨since, hsince, hfrom⟩ := h.outstanding s (hkept ▸ hs)
      refine ⟨since ++ [x], ?_, ?_⟩
      · intro y hy
        rcases List.mem_append.mp hy with hy | hy
        · exact hsince y hy
        · rw [List.mem_singleton.mp hy]
          exact ⟨hissued, hattempts, hx ▸ congrArg Except.ok hs⟩
      · rcases hfrom with ⟨hinit, hpast⟩ | ⟨older, y, hy, hpast⟩
        · exact .inl ⟨hinit, congrArg (· ++ [x]) hpast⟩
        · exact .inr ⟨older, y, hy, by rw [hpast, List.append_assoc, List.cons_append]⟩
    · simpa [hissued, hgrants, hkept] using hsub

end Traced

theorem traced_reach {σ : Type} (p : Platform σ) (st : Entries) (moves : List Move)
    (hempty : "" ∉ (st.get? stateKey).toList ++
      ((closed st).moveStory p.inMemory moves).filterMap Moment.issued?) :
    Traced (st.get? stateKey) ((closed st).moveStory p.inMemory moves)
      (reach (move p.inMemory) (closed st) moves) := by
  revert hempty
  refine story_induction (P := fun past o => "" ∉ (st.get? stateKey).toList ++
    past.filterMap Moment.issued? → Traced (st.get? stateKey) past o) ?_ ?_ moves
  · exact fun _ => .closed st
  · intro past o a ih hempty
    have hless : "" ∉ (st.get? stateKey).toList ++ past.filterMap Moment.issued? := by
      intro hmem
      refine hempty ?_
      rw [List.filterMap_append, ← List.append_assoc]
      exact List.mem_append_left _ hmem
    exact (ih hless).concat hless rfl (handles_move p o a)

end OpenManagers

/-- A request goes to the token endpoint only for a callback that brings the outstanding state, no
two requests are for one state, and there are no more of them than states. -/
theorem state_single_use {σ : Type} {p : Platform σ} {Holds : σ → Entries → Prop}
    (hp : p.Reliable Holds) {st : σ} {st' : Entries} (hst : Holds st st') (moves : List Move)
    (hempty : "" ∉ (st'.get? stateKey).toList ++
      ((OpenManagers.closed st).moveStory p moves).filterMap Moment.issued?)
    (hnodup : ((st'.get? stateKey).toList ++
      ((OpenManagers.closed st).moveStory p moves).filterMap Moment.issued?).Nodup) :
    (∀ past x rest, (OpenManagers.closed st).moveStory p moves = past ++ x :: rest →
      ∀ brought ∈ x.grants, ∃ state, brought = some state ∧
        Outstanding (st'.get? stateKey) state past) ∧
    (((OpenManagers.closed st).moveStory p moves).flatMap Moment.grants).Nodup ∧
    (((OpenManagers.closed st).moveStory p moves).flatMap Moment.grants).length ≤
      (((OpenManagers.closed st).moveStory p moves).filterMap Moment.issued?).length +
        (st'.get? stateKey).toList.length := by
  rw [OpenManagers.moveStory_eq_inMemory hp hst] at hempty hnodup ⊢
  have htraced := OpenManagers.traced_reach p st' moves hempty
  have hgranted := (List.sublist_append_left _ _).trans htraced.sublist
  refine ⟨?_, hgranted.nodup (hnodup.map (Option.some_injective _)), ?_⟩
  · intro past x rest hsplit brought hbrought
    obtain ⟨before, a, after, hmoves, rfl, rfl, -⟩ := exists_of_story_eq hsplit
    have hless : "" ∉ (st'.get? stateKey).toList ++
        ((OpenManagers.closed st').moveStory p.inMemory before).filterMap Moment.issued? := by
      intro hmem
      refine hempty ?_
      rw [hsplit, List.filterMap_append, ← List.append_assoc]
      exact List.mem_append_left _ hmem
    have hbefore := OpenManagers.traced_reach p st' before hless
    have hgrant : brought ∈ (moment .memory (OpenManagers.move p.inMemory)
        (reach (OpenManagers.move p.inMemory) (.closed st') before) a).grants := hbrought
    cases OpenManagers.handles_move p
      (reach (OpenManagers.move p.inMemory) (.closed st') before) a with
    | issues _ hgrants | clears _ hgrants | leaves _ hgrants =>
      rw [hgrants] at hgrant
      cases hgrant
    | grants _ hgrants hkept hstate =>
      rw [hgrants] at hgrant
      rw [List.mem_singleton.mp hgrant]
      exact ⟨_, hbefore.brought_eq hless hkept hstate, hbefore.outstanding _ hkept⟩
  · have hlength := hgranted.length_le
    rw [List.length_map, List.length_append] at hlength
    omega

set_option maxRecDepth 10000 in
/-- A manager uses up the state that was kept, and a flow the one that it issues. -/
theorem state_single_use_of_two_processes :
    let told := (OpenManagers.closed (.ofPairs [(stateKey, "s0")])).moveStory .sample
      [.act .openManager,
        .act (.startExchange 0 "https://app.example/cb?code=XYZ&state=s0"),
        .issue .sample "s1" "bob.example" (.secure "app.example" ["cb"]),
        .exchange .sample (fun _ => .error .missingCode)
          "https://app.example/cb?code=XYZ&state=s1",
        .exchange .sample (fun _ => .error .missingCode)
          "https://app.example/cb?code=XYZ&state=s1"]
    told.flatMap Moment.grants = [some "s0", some "s1"] ∧
      (told.flatMap Moment.grants).length ≤ (told.filterMap Moment.issued?).length + 1 := by
  refine ⟨by decide, ?_⟩
  exact (state_single_use Platform.sample_reliable rfl _ (by decide) (by decide)).2.2

end SignIn
