import SignIn.Proofs.Session.Identity

/-!
# What is kept is one session

Managers share a store, and each of their operations runs to its end before the next begins. What
is kept should be one session: no token beside a state, and a token only beside the handle of the
login that it was granted for. Two courses of events break this. A manager that remembers no token
can start a login while another manager's token is kept, which it then leaves there; and a manager
that waits for a login of its own can complete another one. Otherwise what is kept is one session.
-/

namespace SignIn

/-- An operation that runs to its end, with what the network answers to it. -/
inductive Operation where
  | openManager
  | login (manager : Nat) (state handle : String) (redirect : Url)
  | exchange (manager : Nat) (callback : String) (granted : Except AuthFault TokenResponse)
  | fetch (manager : Nat) (request : Request) (received : Except AuthFault Response)
  | logout (manager : Nat)

namespace Operation

def start : Operation → Act
  | .openManager => .openManager
  | .login n state handle redirect => .login n state handle redirect
  | .exchange n callback _ => .startExchange n callback
  | .fetch n request _ => .startFetch n request
  | .logout n => .logout n

def finish (number : Nat) : Operation → Act
  | .exchange _ _ granted => .finishExchange number granted
  | .fetch _ _ received => .finishFetch number received
  | _ => .drop number

end Operation

namespace OpenManagers

variable {σ : Type} (p : Platform σ) (o : OpenManagers σ)

/-- Runs an operation to its end: a call that waits is finished before anything else happens. -/
def operate (a : Operation) : Answer × OpenManagers σ :=
  match o.step p a.start with
  | (.waits t, o) => o.step p (a.finish t.number)
  | (answer, o) => (answer, o)

/-- The story of operations that run to their end. -/
def chronicle (operations : List Operation) : List (Moment Operation Answer) :=
  SignIn.story p.storage (operate p) o operations

end OpenManagers

/-- Whose logins there were: the handle of the newest, and that of the one for which the last
token was granted. -/
structure Ledger where
  newest : Option String := none
  granted : Option String := none

namespace Ledger

def note (l : Ledger) (operate : Operation) (answer : Answer) : Ledger :=
  match operate, answer with
  | .login _ _ handle _, .loginUrl _ => { l with newest := some handle }
  | .exchange .., .token _ => { l with granted := l.newest }
  | _, _ => l

/-- Something holds at every moment of a story with the ledger as it stands before. -/
def Throughout (P : Ledger → Moment Operation Answer → Prop) :
    Ledger → List (Moment Operation Answer) → Prop
  | _, [] => True
  | l, x :: xs => P l x ∧ Throughout P (l.note x.act x.answer) xs

end Ledger

/-- If a token is kept, then no state is, and the handle beside it is that of the login for which
it was granted. -/
def Scene.IsOneSession (c : Scene) (l : Ledger) : Prop :=
  ∀ token, c.keeps tokenKey = .ok (some token) →
    c.keeps stateKey = .ok none ∧ ∃ handle, l.granted = some handle ∧
      c.keeps handleKey = .ok (some handle)

namespace Moment

/-- A manager that remembers no token starts a login while a token is kept. -/
def Strands (x : Moment Operation Answer) : Prop :=
  ∃ n state handle redirect url m token, x.act = .login n state handle redirect ∧
    x.answer = .loginUrl url ∧ x.before.managers[n]? = some m ∧ m.token = none ∧
    x.before.keeps tokenKey = .ok (some token)

/-- A manager that waits for a login under another handle completes the newest one. -/
def Mistakes (x : Moment Operation Answer) (l : Ledger) : Prop :=
  ∃ n callback granted token m, x.act = .exchange n callback granted ∧
    x.answer = .token token ∧ x.before.managers[n]? = some m ∧ m.phase.isPending ∧
    m.handle ≠ l.newest

/-- What is kept after the moment is one session, and a manager that was opened on it goes by the
handle of the login for which its token was granted. -/
structure Truthful (x : Moment Operation Answer) (l : Ledger) : Prop where
  kept : x.after.IsOneSession (l.note x.act x.answer)
  opened : ∀ n m, x.answer = .opened n → x.after.managers[n]? = some m → m.isAuthenticated →
    m.handle.isSome ∧ m.handle = l.granted

end Moment

namespace OpenManagers

section Mirror

variable {σ : Type} {Holds : σ → Entries → Prop} {o : OpenManagers σ} {o' : OpenManagers Entries}
  {p : Platform σ}

theorem MirroredBy.operate (hp : p.Reliable Holds) (h : o.MirroredBy Holds o') (a : Operation) :
    (o.operate p a).1 = (o'.operate p.inMemory a).1 ∧
      (o.operate p a).2.MirroredBy Holds (o'.operate p.inMemory a).2 := by
  have hstart := h.step hp a.start
  unfold OpenManagers.operate
  generalize o.step p a.start = r, o'.step p.inMemory a.start = r' at hstart
  obtain ⟨answer, o₁⟩ := r
  obtain ⟨answer', o₁'⟩ := r'
  obtain ⟨rfl, hafter⟩ := hstart
  cases answer with
  | waits t => exact hafter.step hp (a.finish t.number)
  | _ => exact ⟨rfl, hafter⟩

theorem chronicle_eq_inMemory (hp : p.Reliable Holds) {st : σ} {st' : Entries} (hst : Holds st st')
    (operations : List Operation) :
    (closed st).chronicle p operations = (closed st').chronicle p.inMemory operations :=
  story_eq_of_mirroredBy hp.storage (fun a h => h.operate hp a) ⟨hst, rfl, rfl, rfl, rfl⟩ operations

end Mirror

/-! ## What an operation does to the store -/

/-- What an operation can do to the store, if no call waits. -/
inductive Round (o : OpenManagers Entries) : Operation → Answer → OpenManagers Entries → Prop
  | quiet {a answer o'} (hl : ∀ l : Ledger, l.note a answer = l) (hstore : o'.store = o.store) :
      Round o a answer o'
  | drops {a answer o'} (hl : ∀ l : Ledger, l.note a answer = l)
      (hstore : o'.store = o.store.erase stateKey) : Round o a answer o'
  | clears {a answer o'} (hl : ∀ l : Ledger, l.note a answer = l)
      (hstore : o'.store = o.store.cleared) : Round o a answer o'
  | login {n m state handle redirect url o'} (hm : o.managers[n]? = some m)
      (hstore : o'.store =
        ((if m.token.isSome then o.store.erase tokenKey else o.store).set handleKey handle).set
          stateKey state) : Round o (.login n state handle redirect) (.loginUrl url) o'
  | exchange {n m callback granted handle token o'} (hm : o.managers[n]? = some m)
      (hstate : o.store.get? stateKey ≠ none)
      (hr : (m.adopting o.store).recorded granted = .ok (handle, token))
      (hstore : o'.store = ((o.store.erase stateKey).set handleKey handle).set tokenKey token) :
      Round o (.exchange n callback granted) (.token token) o'

variable {σ : Type} {p : Platform σ} {o : OpenManagers Entries}

theorem operate_cases (p : Platform σ) (o : OpenManagers Entries) (a : Operation) :
    (∃ t o₁, o.Turn p.endpoints a.start (.waits t) o₁ ∧
      o₁.Turn p.endpoints (a.finish t.number) (o.operate p.inMemory a).1
        (o.operate p.inMemory a).2) ∨
    (∀ t, (o.operate p.inMemory a).1 ≠ .waits t) ∧
      o.Turn p.endpoints a.start (o.operate p.inMemory a).1 (o.operate p.inMemory a).2 := by
  have hstart := turn_step (o := o) p a.start
  unfold operate
  generalize o.step p.inMemory a.start = r at hstart
  obtain ⟨answer, o₁⟩ := r
  cases answer with
  | waits t =>
    have hfinish := turn_step (o := o₁) p (a.finish t.number)
    exact .inl ⟨t, o₁, hstart, hfinish⟩
  | _ =>
    refine .inr ⟨fun t h => ?_, hstart⟩
    cases h

theorem operate_of_turn {P : OpenManagers Entries → Prop}
    (hturn : ∀ {o o' a answer}, o.Turn p.endpoints a answer o' → P o → P o') (ho : P o)
    (a : Operation) : P (o.operate p.inMemory a).2 := by
  rcases operate_cases p o a with ⟨t, o₁, h₁, h₂⟩ | ⟨-, h⟩
  · exact hturn h₂ (hturn h₁ ho)
  · exact hturn h ho

theorem ticket?_enter (ho : o.waiting = []) (n : Nat) (call : Waiting) :
    (o.enter n call).2.ticket? o.issued = some ⟨o.issued, n, call⟩ := by
  simp [ticket?, enter, ho]

theorem waiting_without_of_alone (ho : o.waiting = []) (n : Nat) (call : Waiting) :
    ((o.enter n call).2.without o.issued).waiting = [] := by
  simp [enter, without, ho]

theorem round_fetch {e : Endpoints} {o₁ o₂ : OpenManagers Entries} {n : Nat} {request : Request}
    {received : Except AuthFault Response} {t : Ticket} {answer : Answer} (ho : o.waiting = [])
    (h₁ : o.Turn e (.startFetch n request) (.waits t) o₁)
    (h₂ : o₁.Turn e (.finishFetch t.number received) answer o₂) :
    o.Round (.fetch n request received) answer o₂ ∧ o₂.waiting = [] := by
  cases h₁ with
  | @sent _ m token _ prepared hm htoken hr =>
    have hwaiting := waiting_without_of_alone ho n (.fetch ⟨prepared, token, m.epoch⟩)
    cases h₂ with
    | rejected => exact ⟨.clears (fun _ => rfl) rfl, hwaiting⟩
    | late | answered => exact ⟨.quiet (fun _ => rfl) rfl, hwaiting⟩
    | absent ha => cases ha
    | lost ha =>
      cases ha
      exact ⟨.quiet (fun _ => rfl) rfl, hwaiting⟩
    | unknown ha hnone =>
      cases ha
      cases hnone _ (ticket?_enter ho n _)

theorem round_exchange {e : Endpoints} {o₁ o₂ : OpenManagers Entries} {n : Nat} {callback : String}
    {granted : Except AuthFault TokenResponse} {t : Ticket} {answer : Answer}
    (ho : o.waiting = []) (h₁ : o.Turn e (.startExchange n callback) (.waits t) o₁)
    (h₂ : o₁.Turn e (.finishExchange t.number granted) answer o₂) :
    o.Round (.exchange n callback granted) answer o₂ ∧ o₂.waiting = [] := by
  cases h₁ with
  | @started _ m _ request hm hv =>
    have ho' : (o.seat n { m.adopting o.store with exchanging := true }
      (o.store.erase stateKey)).waiting = [] := ho
    have hticket := ticket?_enter ho' n (.exchange ⟨request, (m.adopting o.store).epoch⟩)
    have hwaiting :=
      waiting_without_of_alone ho' n (.exchange ⟨request, (m.adopting o.store).epoch⟩)
    obtain ⟨hn, -⟩ := List.getElem?_eq_some_iff.mp hm
    cases h₂ with
    | superseded => exact ⟨.drops (fun _ => rfl) rfl, hwaiting⟩
    | failed => exact ⟨.drops (fun _ => rfl) rfl, hwaiting⟩
    | recorded ht hm' hp hr =>
      cases hticket.symm.trans ht
      have hself : some { m.adopting o.store with exchanging := true } = some _ :=
        (List.getElem?_set_self hn).symm.trans hm'
      cases hself
      have hstate := LoginFlow.ne_none_of_verdict hv
      rw [if_pos (Manager.isPending_adopting m hstate)]
      exact ⟨.exchange hm hstate hr rfl, hwaiting⟩
    | absent ha => cases ha
    | lost ha =>
      cases ha
      exact ⟨.drops (fun _ => rfl) rfl, hwaiting⟩
    | unknown ha hnone =>
      cases ha
      cases hnone _ hticket

theorem round_of_turn {e : Endpoints} {a : Operation} {answer : Answer} {o' : OpenManagers Entries}
    (ho : o.waiting = []) (h : o.Turn e a.start answer o') (hwaits : ∀ t, answer ≠ .waits t) :
    o.Round a answer o' ∧ o'.waiting = [] := by
  cases a with
  | openManager =>
    cases h with
    | restored => exact ⟨.drops (fun _ => rfl) rfl, ho⟩
    | orphaned => exact ⟨.clears (fun _ => rfl) rfl, ho⟩
    | resumed => exact ⟨.quiet (fun _ => rfl) rfl, ho⟩
    | absent ha | lost ha | unknown ha => cases ha
  | login n state handle redirect =>
    cases h with
    | login hm => exact ⟨.login hm rfl, ho⟩
    | absent => exact ⟨.quiet (fun _ => rfl) rfl, ho⟩
    | lost ha | unknown ha => cases ha
  | exchange n callback granted =>
    cases h with
    | refused => exact ⟨.drops (fun _ => rfl) rfl, ho⟩
    | started => exact absurd rfl (hwaits _)
    | absent => exact ⟨.quiet (fun _ => rfl) rfl, ho⟩
    | lost ha | unknown ha => cases ha
  | fetch n request received =>
    cases h with
    | tokenless => exact ⟨.clears (fun _ => rfl) rfl, ho⟩
    | unsent | absent => exact ⟨.quiet (fun _ => rfl) rfl, ho⟩
    | sent => exact absurd rfl (hwaits _)
    | lost ha | unknown ha => cases ha
  | logout n =>
    cases h with
    | loggedOut => exact ⟨.clears (fun _ => rfl) rfl, ho⟩
    | absent => exact ⟨.quiet (fun _ => rfl) rfl, ho⟩
    | lost ha | unknown ha => cases ha

/-- Every operation is one of these rounds, and leaves no call waiting. -/
theorem round_operate (p : Platform σ) (ho : o.waiting = []) (a : Operation) :
    o.Round a (o.operate p.inMemory a).1 (o.operate p.inMemory a).2 ∧
      (o.operate p.inMemory a).2.waiting = [] := by
  rcases operate_cases p o a with ⟨t, o₁, h₁, h₂⟩ | ⟨hwaits, h⟩
  · cases a with
    | exchange n callback granted => exact round_exchange ho h₁ h₂
    | fetch n request received => exact round_fetch ho h₁ h₂
    | openManager | login | logout => cases h₁
  · exact round_of_turn ho h hwaits

/-! ## Handles of logins -/

/-- Whoever waits for a login goes by some handle, and beside a state some handle is kept. -/
structure Named (o : OpenManagers Entries) : Prop where
  kept : o.store.get? stateKey ≠ none → o.store.get? handleKey ≠ none
  claims : ∀ m ∈ o.managers, m.phase.isPending → m.handle ≠ none

namespace Named

variable {e : Endpoints} {o' : OpenManagers Entries} {a : Act} {answer : Answer} {m m' : Manager}
  {n : Nat}

theorem closed (st : Entries) (hstate : st.get? stateKey = none) : (closed st).Named :=
  ⟨fun h => absurd hstate h, fun _ hm => absurd hm List.not_mem_nil⟩

theorem claims_set (h : o.Named) (hm : m'.phase.isPending → m'.handle ≠ none) :
    ∀ m ∈ o.managers.set n m', m.phase.isPending → m.handle ≠ none := by
  intro m hmem
  rcases List.mem_or_eq_of_mem_set hmem with hmem | rfl
  · exact h.claims m hmem
  · exact hm

theorem claims_concat (h : o.Named) (hm : m'.phase.isPending → m'.handle ≠ none) :
    ∀ m ∈ o.managers ++ [m'], m.phase.isPending → m.handle ≠ none := by
  intro m hmem
  rcases List.mem_append.mp hmem with hmem | hmem
  · exact h.claims m hmem
  · rw [List.mem_singleton.mp hmem]
    exact hm

theorem claims_adopting (h : o.Named) (hm : o.managers[n]? = some m) :
    (m.adopting o.store).phase.isPending → (m.adopting o.store).handle ≠ none := by
  unfold Manager.adopting
  split
  · next hadopt => exact fun _ => h.kept (Option.isSome_iff_ne_none.mp hadopt.2)
  · exact h.claims m (List.mem_of_getElem? hm)

theorem turn (h : o.Named) (hturn : o.Turn e a answer o') : o'.Named := by
  have hclear : ∀ {st : Entries}, st.get? stateKey = none →
      (st.get? stateKey ≠ none → st.get? handleKey ≠ none) :=
    fun hnone hstate => absurd hnone hstate
  have hidle : ∀ {P : Prop}, false = true → P := fun hfalse => absurd hfalse Bool.false_ne_true
  cases hturn with
  | restored => exact ⟨hclear (by simp), h.claims_concat hidle⟩
  | orphaned => exact ⟨hclear (by simp), h.claims_concat hidle⟩
  | resumed ht =>
    refine ⟨h.kept, h.claims_concat fun hpending => ?_⟩
    cases hstate : o.store.get? stateKey with
    | none => simp [hstate, Phase.isPending] at hpending
    | some state => exact h.kept (by simp [hstate])
  | login =>
    exact ⟨by simp, h.claims_set (by simp [Manager.expecting])⟩
  | refused hm =>
    refine ⟨hclear (by simp), h.claims_set fun hpending => ?_⟩
    obtain ⟨hadopting, hhandle⟩ :=
      (Manager.later_refusing _).pending (Manager.epoch_refusing _) hpending
    rw [hhandle]
    exact h.claims_adopting hm hadopting
  | started hm =>
    exact ⟨hclear (by simp), h.claims_set (h.claims_adopting hm)⟩
  | @superseded _ _ m _ ht hm =>
    exact ⟨h.kept, h.claims_set (h.claims m (List.mem_of_getElem? hm))⟩
  | failed =>
    refine ⟨h.kept, h.claims_set fun hpending => ?_⟩
    rw [Manager.isPending_failExchange] at hpending
    cases hpending
  | recorded =>
    exact ⟨by simp, h.claims_set fun _ => by simp [Manager.recording]⟩
  | tokenless | rejected | loggedOut =>
    exact ⟨hclear (by simp), h.claims_set hidle⟩
  | unsent | sent | late | answered | dropped | absent | lost | unknown =>
    exact ⟨h.kept, h.claims⟩

end Named

/-! ## The ledger beside the store -/

/-- Between operations no call waits, and the handle beside a state is that of the newest login. -/
structure Orderly (l : Ledger) (o : OpenManagers Entries) : Prop where
  idle : o.waiting = []
  named : o.Named
  newest : o.store.get? stateKey ≠ none → o.store.get? handleKey = l.newest

variable {l : Ledger} {a : Operation} {answer : Answer} {o' : OpenManagers Entries}

theorem isOneSession_iff : (o.scene .memory).IsOneSession l ↔
    ∀ token, o.store.get? tokenKey = some token →
      o.store.get? stateKey = none ∧ ∃ handle, l.granted = some handle ∧
        o.store.get? handleKey = some handle := by
  simp only [Scene.IsOneSession, scene, Storage.memory, Storage.Memory.get, Except.ok.injEq]

theorem orderly_closed {st : Entries} (hstate : st.get? stateKey = none) :
    Orderly {} (closed st) :=
  ⟨rfl, .closed st hstate, fun h => absurd hstate h⟩

theorem Round.newest (h : o.Round a answer o')
    (hnewest : o.store.get? stateKey ≠ none → o.store.get? handleKey = l.newest)
    (hstate : o'.store.get? stateKey ≠ none) :
    o'.store.get? handleKey = (l.note a answer).newest := by
  cases h with
  | quiet hl hstore =>
    rw [hl]
    rw [hstore] at hstate ⊢
    exact hnewest hstate
  | drops hl hstore => simp [hstore] at hstate
  | clears hl hstore => simp [hstore] at hstate
  | login hm hstore => simp [hstore, Ledger.note]
  | exchange hm _ hr hstore => simp [hstore] at hstate

theorem Orderly.operate (h : Orderly l o) (p : Platform σ) (a : Operation) :
    Orderly (l.note a (o.operate p.inMemory a).1) (o.operate p.inMemory a).2 := by
  obtain ⟨hround, hidle⟩ := round_operate p h.idle a
  exact ⟨hidle, operate_of_turn (fun hturn hnamed => hnamed.turn hturn) h.named a,
    hround.newest h.newest⟩

theorem eq_of_getElem?_concat {ms : List Manager} {m m' : Manager}
    (h : (ms ++ [m])[ms.length]? = some m') : m = m' := by
  simpa using h

theorem Turn.opened {e : Endpoints} {b : Act} {n : Nat} {m : Manager}
    (h : o.Turn e b (.opened n) o') (hm : o'.managers[n]? = some m) (hauth : m.isAuthenticated) :
    b = .openManager ∧ ∃ handle token, m.handle = some handle ∧
      o'.store.get? tokenKey = some token ∧ o'.store.get? handleKey = some handle := by
  generalize hanswer : Answer.opened n = answer at h
  cases h with
  | @restored token handle ht hh =>
    cases hanswer
    obtain rfl := eq_of_getElem?_concat hm
    exact ⟨rfl, handle, token, rfl, by simpa using ht,
      by simpa using hh⟩
  | orphaned =>
    cases hanswer
    obtain rfl := eq_of_getElem?_concat hm
    cases hauth
  | resumed =>
    cases hanswer
    obtain rfl := eq_of_getElem?_concat hm
    cases hstate : o.store.get? stateKey <;>
      simp [hstate, Manager.isAuthenticated, Phase.isAuthenticated] at hauth
  | @recorded _ n' m' =>
    cases hpending : m'.phase.isPending <;> simp [hpending] at hanswer
  | @answered _ _ _ _ received =>
    cases hr : Gateway.interpret received <;> simp [hr, Answer.ofFetch] at hanswer
  | login | refused | started | superseded | failed | tokenless | unsent | sent | rejected | late
  | dropped | loggedOut | absent | lost | unknown => cases hanswer

theorem not_strands_of_note_eq (hl : ∀ l : Ledger, l.note a answer = l)
    {x : Moment Operation Answer} (hact : x.act = a) (hanswer : x.answer = answer) :
    ¬ x.Strands ∧ ¬ x.Mistakes l := by
  subst hact hanswer
  constructor
  · rintro ⟨n, state, handle, redirect, url, m, token, hact, hanswer, -⟩
    have hnote := hl {}
    rw [hact, hanswer] at hnote
    simp [Ledger.note] at hnote
  · rintro ⟨n, callback, granted, token, m, hact, hanswer, -⟩
    have hnote := hl ⟨some "", none⟩
    rw [hact, hanswer] at hnote
    simp [Ledger.note] at hnote

section Moments

variable {x : Moment Operation Answer} {n : Nat} {m : Manager}

theorem isOneSession_iff_of_login {state handle : String} {redirect url : Url}
    (hbefore : x.before = o.scene .memory) (hact : x.act = .login n state handle redirect)
    (hanswer : x.answer = .loginUrl url) (hm : o.managers[n]? = some m)
    (hstore : o'.store = ((if m.token.isSome then o.store.erase tokenKey else o.store).set
      handleKey handle).set stateKey state) :
    (o'.scene .memory).IsOneSession (l.note x.act x.answer) ↔ ¬ x.Strands ∧ ¬ x.Mistakes l := by
  have hmistakes : ¬ x.Mistakes l := by
    rintro ⟨n', callback, granted, token, m', hexchange, -⟩
    rw [hact] at hexchange
    cases hexchange
  have htoken :
      o'.store.get? tokenKey = if m.token.isSome then none else o.store.get? tokenKey := by
    cases hheld : m.token <;> simp [hstore, hheld]
  have hstate : o'.store.get? stateKey = some state := by simp [hstore]
  rw [isOneSession_iff, and_iff_left hmistakes]
  constructor
  · rintro hkept ⟨n', state', handle', redirect', url', m', token, hlogin, -, hm', hnone, hmirrored⟩
    rw [hact] at hlogin
    cases hlogin
    rw [hbefore] at hm' hmirrored
    obtain rfl : m = m' := Option.some.inj (hm.symm.trans hm')
    rw [hnone, if_neg (by simp)] at htoken
    have hgone := (hkept token (htoken.trans (Except.ok.inj hmirrored))).1
    rw [hstate] at hgone
    cases hgone
  · intro hstrands token hkept
    refine absurd ?_ hstrands
    rw [htoken] at hkept
    cases hheld : m.token with
    | some held => simp [hheld] at hkept
    | none =>
      rw [hheld, if_neg (by simp)] at hkept
      exact ⟨n, state, handle, redirect, url, m, token, hact, hanswer, hbefore ▸ hm, hheld,
        hbefore ▸ congrArg Except.ok hkept⟩

/-- An exchange records the handle of the newest login, unless its manager waits for another. -/
theorem isOneSession_iff_of_exchange (h : Orderly l o) {callback handle token : String}
    {granted : Except AuthFault TokenResponse} (hbefore : x.before = o.scene .memory)
    (hact : x.act = .exchange n callback granted) (hanswer : x.answer = .token token)
    (hm : o.managers[n]? = some m) (hstate : o.store.get? stateKey ≠ none)
    (hr : (m.adopting o.store).recorded granted = .ok (handle, token))
    (hstore : o'.store = ((o.store.erase stateKey).set handleKey handle).set tokenKey token) :
    (o'.scene .memory).IsOneSession (l.note x.act x.answer) ↔ ¬ x.Strands ∧ ¬ x.Mistakes l := by
  have hstrands : ¬ x.Strands := by
    rintro ⟨n', state, handle', redirect, url, m', token', hlogin, -⟩
    rw [hact] at hlogin
    cases hlogin
  have hhandle : (m.adopting o.store).handle = some handle :=
    Manager.handle_eq_of_recorded hr
      (h.named.claims_adopting hm (Manager.isPending_adopting m hstate))
  have hone : (o'.scene .memory).IsOneSession (l.note x.act x.answer) ↔ l.newest = some handle := by
    rw [isOneSession_iff, hact, hanswer, hstore]
    simp [Ledger.note]
  rw [hone, and_iff_right hstrands]
  constructor
  · rintro hnewest ⟨n', callback', granted', token', m', hexchange, -, hm', hpending, hne⟩
    rw [hact] at hexchange
    cases hexchange
    rw [hbefore] at hm'
    obtain rfl : m = m' := Option.some.inj (hm.symm.trans hm')
    rw [Manager.adopting, if_neg (fun hadopt => hadopt.1 hpending)] at hhandle
    exact hne (hhandle.trans hnewest.symm)
  · intro hmistakes
    by_cases hpending : m.phase.isPending
    · rw [Manager.adopting, if_neg (fun hadopt => hadopt.1 hpending)] at hhandle
      by_contra hne
      refine hmistakes ⟨n, callback, granted, token, m, hact, hanswer, hbefore ▸ hm, hpending, ?_⟩
      rw [hhandle]
      exact fun heq => hne heq.symm
    · rw [Manager.adopting, if_pos ⟨hpending, Option.isSome_iff_ne_none.mpr hstate⟩] at hhandle
      exact (h.newest hstate).symm.trans hhandle

/-- What is kept stays one session unless a token is stranded or a login mistaken. -/
theorem Round.isOneSession_iff (hround : o.Round a answer o') (h : Orderly l o)
    (hone : (o.scene .memory).IsOneSession l)
    (hx : x = ⟨o.scene .memory, a, answer, o'.scene .memory⟩) :
    x.after.IsOneSession (l.note x.act x.answer) ↔ ¬ x.Strands ∧ ¬ x.Mistakes l := by
  have hbefore : x.before = o.scene .memory := congrArg Moment.before hx
  have hafter : x.after = o'.scene .memory := congrArg Moment.after hx
  have hact : x.act = a := congrArg Moment.act hx
  have hanswer : x.answer = answer := congrArg Moment.answer hx
  rw [hafter]
  cases hround with
  | quiet hl hstore =>
    refine iff_of_true ?_ (not_strands_of_note_eq hl hact hanswer)
    rw [hact, hanswer, hl, OpenManagers.isOneSession_iff, hstore]
    exact OpenManagers.isOneSession_iff.mp hone
  | drops hl hstore =>
    refine iff_of_true ?_ (not_strands_of_note_eq hl hact hanswer)
    rw [hact, hanswer, hl, OpenManagers.isOneSession_iff, hstore]
    intro token htoken
    obtain ⟨-, handle, hgranted, hhandle⟩ :=
      OpenManagers.isOneSession_iff.mp hone token (by simpa using htoken)
    exact ⟨by simp, handle, hgranted, by simpa using hhandle⟩
  | clears hl hstore =>
    refine iff_of_true ?_ (not_strands_of_note_eq hl hact hanswer)
    rw [OpenManagers.isOneSession_iff, hstore]
    intro token htoken
    simp at htoken
  | login hm hstore => exact isOneSession_iff_of_login hbefore hact hanswer hm hstore
  | exchange hm hstate hr hstore =>
    exact isOneSession_iff_of_exchange h hbefore hact hanswer hm hstate hr hstore

end Moments

/-! ## Runs -/

theorem handle_of_opened (p : Platform σ) {n : Nat} {m : Manager}
    (hanswer : (o.operate p.inMemory a).1 = .opened n)
    (hm : (o.operate p.inMemory a).2.managers[n]? = some m) (hauth : m.isAuthenticated)
    (hone : ((o.operate p.inMemory a).2.scene .memory).IsOneSession (l.note a (.opened n))) :
    m.handle.isSome ∧ m.handle = l.granted := by
  rcases operate_cases p o a with ⟨t, o₁, -, h⟩ | ⟨-, h⟩ <;> rw [hanswer] at h
  · obtain ⟨hfinish, -⟩ := h.opened hm hauth
    cases a <;> cases hfinish
  · obtain ⟨hstart, handle, token, hhandle, htoken, hkept⟩ := h.opened hm hauth
    obtain ⟨-, handle', hgranted, hkept'⟩ := isOneSession_iff.mp hone token htoken
    obtain rfl : handle = handle' := Option.some.inj (hkept.symm.trans hkept')
    cases a with
    | openManager => exact ⟨by simp [hhandle], hhandle.trans hgranted.symm⟩
    | login | exchange | fetch | logout => cases hstart

theorem truthful_iff (h : Orderly l o) (hone : (o.scene .memory).IsOneSession l) (p : Platform σ)
    (a : Operation) :
    (moment .memory (operate p.inMemory) o a).Truthful l ↔
      ¬ (moment .memory (operate p.inMemory) o a).Strands ∧
        ¬ (moment .memory (operate p.inMemory) o a).Mistakes l := by
  have hiff := (round_operate p h.idle a).1.isOneSession_iff
    (x := moment .memory (operate p.inMemory) o a) h hone rfl
  refine ⟨fun htruthful => hiff.mp htruthful.kept, fun hsafe => ⟨hiff.mpr hsafe, ?_⟩⟩
  intro n m hanswer hm hauth
  have hkept := hiff.mpr hsafe
  rw [hanswer] at hkept
  exact handle_of_opened p hanswer hm hauth hkept

theorem throughout_iff (h : Orderly l o) (hone : (o.scene .memory).IsOneSession l)
    (p : Platform σ) (operations : List Operation) :
    Ledger.Throughout (fun l x => x.Truthful l) l (o.chronicle p.inMemory operations) ↔
      Ledger.Throughout (fun l x => ¬ x.Strands ∧ ¬ x.Mistakes l) l
        (o.chronicle p.inMemory operations) := by
  induction operations generalizing l o with
  | nil => exact Iff.rfl
  | cons a operations ih =>
    have hiff := truthful_iff h hone p a
    constructor
    · rintro ⟨htruthful, hrest⟩
      exact ⟨hiff.mp htruthful, (ih (h.operate p a) htruthful.kept).mp hrest⟩
    · rintro ⟨hsafe, hrest⟩
      have htruthful := hiff.mpr hsafe
      exact ⟨htruthful, (ih (h.operate p a) htruthful.kept).mpr hrest⟩

end OpenManagers

/-- Over a store that is empty at first, one session is kept and opened at every moment exactly if
no login strands a token and no manager completes another login than its own. -/
theorem chronicle_truthful_iff {σ : Type} {p : Platform σ} {Holds : σ → Entries → Prop}
    (hp : p.Reliable Holds) {st : σ} {st' : Entries} (hst : Holds st st')
    (hempty : ∀ k ∈ sessionKeys, st'.get? k = none) (operations : List Operation) :
    Ledger.Throughout (fun l x => x.Truthful l) {}
        ((OpenManagers.closed st).chronicle p operations) ↔
      Ledger.Throughout (fun l x => ¬ x.Strands ∧ ¬ x.Mistakes l) {}
        ((OpenManagers.closed st).chronicle p operations) := by
  rw [OpenManagers.chronicle_eq_inMemory hp hst]
  refine OpenManagers.throughout_iff
    (OpenManagers.orderly_closed (hempty stateKey (by simp [sessionKeys])))
    ?_ p operations
  intro token htoken
  have hnone : st'.get? tokenKey = some token := Except.ok.inj htoken
  rw [hempty tokenKey (by simp [sessionKeys])] at hnone
  cases hnone

set_option maxRecDepth 10000 in
/-- A login that goes through keeps and opens one session. -/
theorem chronicle_truthful_of_login :
    Ledger.Throughout (fun l x => x.Truthful l) {} ((OpenManagers.closed .empty).chronicle .sample
      [.openManager, .login 0 "s1" "alice.example" (.secure "app.example" ["cb"]),
        .exchange 0 "https://app.example/cb?code=XYZ&state=s1"
          (.ok { accessToken := "token-XYZ" }), .openManager]) := by
  refine (chronicle_truthful_iff Platform.sample_reliable rfl (fun _ _ => rfl) _).mpr ?_
  refine ⟨⟨?_, ?_⟩, ⟨?_, ?_⟩, ⟨?_, ?_⟩, ⟨?_, ?_⟩, trivial⟩
  · rintro ⟨_, _, _, _, _, _, _, hact, -⟩
    cases hact
  · rintro ⟨_, _, _, _, _, hact, -⟩
    cases hact
  · rintro ⟨_, _, _, _, _, _, token, -, -, -, -, htoken⟩
    cases htoken
  · rintro ⟨_, _, _, _, _, hact, -⟩
    cases hact
  · rintro ⟨_, _, _, _, _, _, _, hact, -⟩
    cases hact
  · rintro ⟨_, _, _, _, _, hact, -, hm, -, hne⟩
    cases hact
    cases hm
    exact hne rfl
  · rintro ⟨_, _, _, _, _, _, _, hact, -⟩
    cases hact
  · rintro ⟨_, _, _, _, _, hact, -⟩
    cases hact

set_option maxRecDepth 10000 in
/-- A manager that knows of no session starts a login beside the token of another's. -/
theorem not_chronicle_truthful_of_two_managers :
    ¬ Ledger.Throughout (fun l x => x.Truthful l) {} ((OpenManagers.closed .empty).chronicle .sample
      [.openManager, .openManager,
        .login 0 "s1" "alice.example" (.secure "app.example" ["cb"]),
        .exchange 0 "https://app.example/cb?code=XYZ&state=s1"
          (.ok { accessToken := "token-XYZ" }),
        .login 1 "s2" "bob.example" (.secure "app.example" ["cb"])]) := by
  rintro ⟨-, -, -, -, htruthful, -⟩
  have hstate := (htruthful.kept "token-XYZ" rfl).1
  cases hstate

end SignIn
