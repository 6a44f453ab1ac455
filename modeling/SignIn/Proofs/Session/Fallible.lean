import SignIn.Proofs.Session.Memory
import SignIn.Proofs.Store.Faltering

/-!
# The steps of a manager over a store that may fail

What a step of a manager does when one of its calls on the store fails can be said of the entries
in memory: which step it is, what the manager remembers afterwards, and what is left of the state
of a login. A teardown ends the session of the manager whatever becomes of the store. A login URL
that is not issued has cost the manager its token already, while its phase is left as it was.
-/

namespace SignIn

variable {σ α β : Type} {Holds : σ → Entries → Prop} {t : Entries}

theorem Phase.next?_loginUrlIssued (phase : Phase) :
    phase.next? .loginUrlIssued = some .loginPending := by
  cases phase <;> rfl

namespace Ends

theorem asOp {x : Access σ α} {Q : α → Entries → Prop} {E : AuthFault → Entries → Prop}
    (hx : Ends Holds x t Q fun fault t' => E (.storage fault) t') :
    Ends Holds (Access.asOp x) t Q E := by
  intro s hs
  obtain ⟨t', hholds, hend⟩ := hx s hs
  unfold Access.asOp
  generalize x s = r at hholds hend
  obtain ⟨answer, s'⟩ := r
  cases answer <;> exact ⟨t', hholds, hend⟩

variable {m : Manager} {st : Entries} {notices : List Notice} {Q : α → StepState Entries → Prop}
  {E : AuthFault → StepState Entries → Prop}

theorem onStore {x : StoreOp σ α}
    (hx : Ends Holds x st (fun a st' => Q a ⟨m, st', notices⟩)
      fun fault st' => E fault ⟨m, st', notices⟩) :
    Ends (StepState.MirroredBy Holds) (Manager.onStore x) ⟨m, st, notices⟩ Q E := by
  rintro ⟨m', store, notices'⟩ ⟨rfl, hstore, rfl⟩
  obtain ⟨st', hholds, hend⟩ := hx store hstore
  exact ⟨⟨m', st', notices'⟩, ⟨rfl, hholds, rfl⟩, hend⟩

theorem remember {f : Manager → Manager} {R : Unit → StepState Entries → Prop}
    (h : R () ⟨f m, st, notices⟩) :
    Ends (StepState.MirroredBy Holds) (Manager.remember f) ⟨m, st, notices⟩ R E := by
  rintro d ⟨hmanager, hstore, hnotices⟩
  exact ⟨⟨f m, st, notices⟩, ⟨congrArg f hmanager, hstore, hnotices⟩, h⟩

theorem advance {event : SessionEvent} {phase : Phase} {R : Unit → StepState Entries → Prop}
    (hnext : m.phase.next? event = some phase) (h : R () ⟨{ m with phase := phase }, st, notices⟩) :
    Ends (StepState.MirroredBy Holds) (Manager.advance event) ⟨m, st, notices⟩ R E := by
  rintro ⟨m', store, notices'⟩ ⟨rfl, hstore, rfl⟩
  refine ⟨⟨{ m' with phase := phase }, st, notices'⟩, ?_⟩
  simp only [Manager.advance, hnext]
  exact ⟨⟨rfl, hstore, rfl⟩, h⟩

theorem refuse {event : SessionEvent} {R : Unit → StepState Entries → Prop}
    (hnext : m.phase.next? event = none)
    (h : E (.invalidTransition
      ("Cannot apply " ++ event.name ++ " in state " ++ m.phase.name)) ⟨m, st, notices⟩) :
    Ends (StepState.MirroredBy Holds) (Manager.advance event) ⟨m, st, notices⟩ R E := by
  rintro ⟨m', store, notices'⟩ ⟨rfl, hstore, rfl⟩
  refine ⟨⟨m', st, notices'⟩, ?_⟩
  simp only [Manager.advance, hnext]
  exact ⟨⟨rfl, hstore, rfl⟩, h⟩

theorem reading {f : StepState σ → Step σ α} {d : StepState Entries}
    (hf : ∀ d', StepState.MirroredBy Holds d' d → Ends (StepState.MirroredBy Holds) (f d') d Q E) :
    Ends (StepState.MirroredBy Holds) (get >>= f) d Q E := by
  intro d' h
  rw [bind_apply]
  exact hf d' h d' h

end Ends

namespace Storage.Faltering

variable {s : Storage σ} (hs : s.Faltering Holds)
include hs

theorem clear (t : Entries) :
    Ends Holds s.clear t (fun _ t' => t' = t.cleared) fun _ _ => True := by
  refine ((hs.remove handleKey t).mono ?_ fun _ _ _ => trivial).bind
  rintro _ _ rfl
  refine ((hs.remove tokenKey _).mono ?_ fun _ _ _ => trivial).bind
  rintro _ _ rfl
  refine ((hs.remove stateKey _).mono ?_ fun _ _ _ => trivial).bind
  rintro _ _ rfl
  exact .pure rfl

theorem snapshot (t : Entries) :
    Ends Holds s.snapshot t
      (fun kept t' => kept = ⟨t.get? handleKey, t.get? tokenKey, t.get? stateKey⟩ ∧ t' = t)
      fun _ _ => True := by
  refine ((hs.get handleKey t).mono ?_ fun _ _ _ => trivial).bind
  rintro _ _ ⟨rfl, rfl⟩
  refine ((hs.get tokenKey _).mono ?_ fun _ _ _ => trivial).bind
  rintro _ _ ⟨rfl, rfl⟩
  refine ((hs.get stateKey _).mono ?_ fun _ _ _ => trivial).bind
  rintro _ _ ⟨rfl, rfl⟩
  exact .pure ⟨rfl, rfl⟩

theorem issue (e : Endpoints) (state handle : String) (redirect : Url) (t : Entries) :
    Ends Holds (LoginFlow.issue s e state handle redirect) t
      (fun url t' => url = LoginFlow.loginUrl e state handle redirect ∧
        t' = (t.set handleKey handle).set stateKey state)
      fun _ t' => t'.get? stateKey = t.get? stateKey := by
  refine ((hs.set handleKey handle t).mono ?_ fun _ _ h => by rw [h]).bind
  rintro _ _ rfl
  refine ((hs.set stateKey state _).mono ?_ fun _ _ h => by simp [h]).bind
  rintro _ _ rfl
  exact .pure ⟨rfl, rfl⟩

theorem prepare (e : Endpoints) (callback : String) (t : Entries) :
    Ends Holds (LoginFlow.prepare s e callback) t
      (fun request t' => LoginFlow.verdict e t callback = .ok request ∧ t' = t.erase stateKey)
      fun fault t' =>
        LoginFlow.verdict e t callback = .error fault ∧ t' = t.erase stateKey ∨
          (∃ cause, fault = .storage cause) ∧ t' = t := by
  refine .bind (.asOp ((hs.take stateKey t).mono ?_ ?_))
  · rintro _ _ ⟨rfl, rfl⟩
    cases hstate : t.get? stateKey with
    | none => exact .throw (.inl ⟨by simp [LoginFlow.verdict, hstate], rfl⟩)
    | some expected =>
      exact .ofExcept (fun request h => ⟨by simp [LoginFlow.verdict, hstate, h], rfl⟩)
        fun fault h => .inl ⟨by simp [LoginFlow.verdict, hstate, h], rfl⟩
  · rintro cause _ rfl
    exact .inr ⟨⟨cause, rfl⟩, rfl⟩

theorem openOn (t : Entries) :
    Ends Holds (Manager.openOn s) t (fun m t' => Manager.openOn .memory t = (.ok m, t'))
      fun fault _ => ∃ cause, fault = .storage cause := by
  refine .bind (.asOp ((hs.snapshot t).mono ?_ fun cause _ _ => ⟨cause, rfl⟩))
  rintro _ t ⟨rfl, rfl⟩
  rw [Manager.openOn_memory]
  cases htoken : t.get? tokenKey with
  | none => exact .pure rfl
  | some token =>
    cases hhandle : t.get? handleKey with
    | none =>
      refine .bind (.asOp ((hs.clear t).mono ?_ fun cause _ _ => ⟨cause, rfl⟩))
      rintro _ _ rfl
      exact .pure rfl
    | some handle =>
      cases hstate : t.get? stateKey with
      | none =>
        rw [Entries.erase_of_get?_eq_none hstate]
        exact .pure rfl
      | some state =>
        refine .bind (.asOp ((hs.remove stateKey t).mono ?_ fun cause _ _ => ⟨cause, rfl⟩))
        rintro _ _ rfl
        exact .pure rfl

section Steps

variable (e : Endpoints) (m : Manager) (st : Entries) (notices : List Notice)

/-- A login URL that is not issued costs the manager the token that it remembers, and nothing
else. -/
theorem login (state handle : String) (redirect : Url) :
    Ends (StepState.MirroredBy Holds) (Manager.login s e state handle redirect) ⟨m, st, notices⟩
      (fun url d => url = LoginFlow.loginUrl e state handle redirect ∧
        d = ⟨m.expecting (some handle),
          ((if m.token.isSome then st.erase tokenKey else st).set handleKey handle).set
            stateKey state, notices⟩)
      fun fault d => (∃ cause, fault = .storage cause) ∧
        ∃ st', st'.get? stateKey = st.get? stateKey ∧
          d = ⟨{ m with token := none }, st', notices⟩ := by
  have hissue : ∀ st₁ : Entries, st₁.get? stateKey = st.get? stateKey →
      Ends (StepState.MirroredBy Holds)
        (do
          let url ← Manager.onStore (Access.asOp (LoginFlow.issue s e state handle redirect))
          Manager.remember fun m => Manager.nextEpoch { m with handle := some handle }
          Manager.advance .loginUrlIssued
          return url)
        ⟨{ m with token := none }, st₁, notices⟩
        (fun url d => url = LoginFlow.loginUrl e state handle redirect ∧
          d = ⟨m.expecting (some handle), (st₁.set handleKey handle).set stateKey state, notices⟩)
        fun fault d => (∃ cause, fault = .storage cause) ∧
          ∃ st', st'.get? stateKey = st.get? stateKey ∧
            d = ⟨{ m with token := none }, st', notices⟩ := by
    intro st₁ hstate
    refine .bind (.onStore (.asOp ((hs.issue e state handle redirect st₁).mono ?_ ?_)))
    · rintro _ _ ⟨rfl, rfl⟩
      exact .bind (.remember (.bind (.advance (Phase.next?_loginUrlIssued _) (.pure ⟨rfl, rfl⟩))))
    · intro cause st' hkept
      exact ⟨⟨cause, rfl⟩, st', hkept.trans hstate, rfl⟩
  refine .reading fun d h => ?_
  dsimp only
  rw [h.1]
  dsimp only
  split
  · refine .bind (.remember (.bind (.onStore (.asOp ((hs.remove tokenKey st).mono ?_ ?_)))))
    · rintro _ _ rfl
      exact hissue _ (by simp)
    · rintro cause _ rfl
      exact ⟨⟨cause, rfl⟩, _, rfl, rfl⟩
  · next htoken =>
    have hsame : ({ m with token := none } : Manager) = m := by
      rw [← Option.not_isSome_iff_eq_none.mp htoken]
    simpa only [hsame] using hissue st rfl

theorem adopt :
    Ends (StepState.MirroredBy Holds) (Manager.adopt s) ⟨m, st, notices⟩
      (fun _ d => d = ⟨m.adopting st, st, notices⟩)
      fun fault d => (∃ cause, fault = .storage cause) ∧
        (d = ⟨m, st, notices⟩ ∨ m.phase.isPending = false ∧ st.get? stateKey ≠ none ∧
          d = ⟨{ m with token := none }, st, notices⟩) := by
  refine .reading fun d h => ?_
  dsimp only
  rw [h.1]
  dsimp only
  split
  · next hpending =>
    refine .pure ?_
    rw [Manager.adopting, if_neg fun hadopt => hadopt.1 hpending]
  · next hpending =>
    refine .bind (.onStore (.asOp ((hs.get stateKey st).mono ?_ ?_)))
    · rintro _ st ⟨rfl, rfl⟩
      split
      · next hstate =>
        refine .bind (.remember (.bind (.onStore (.asOp ((hs.get handleKey st).mono ?_ ?_)))))
        · rintro _ st ⟨rfl, rfl⟩
          refine .bind (.remember (.advance (Phase.next?_loginUrlIssued _) ?_))
          rw [Manager.adopting, if_pos ⟨hpending, hstate⟩]
          rfl
        · rintro cause _ rfl
          exact ⟨⟨cause, rfl⟩, .inr ⟨by simpa using hpending,
            Option.isSome_iff_ne_none.mp hstate, rfl⟩⟩
      · next hstate =>
        refine .pure ?_
        rw [Manager.adopting, if_neg fun hadopt => hstate hadopt.2]
    · rintro cause _ rfl
      exact ⟨⟨cause, rfl⟩, .inl rfl⟩

/-- A callback is refused or its exchange sent as in memory; or the login that is kept is not
adopted, or not used up. -/
theorem startExchange (callback : String) :
    Ends (StepState.MirroredBy Holds) (Manager.startExchange s e callback) ⟨m, st, notices⟩
      (fun pending d => ∃ request, LoginFlow.verdict e st callback = .ok request ∧
        pending = ⟨request, (m.adopting st).epoch⟩ ∧
        d = ⟨{ m.adopting st with exchanging := true }, st.erase stateKey, notices⟩)
      fun fault d =>
        LoginFlow.verdict e st callback = .error fault ∧
            d = ⟨(m.adopting st).refusing, st.erase stateKey, notices⟩ ∨
          (∃ cause, fault = .storage cause) ∧
            (d = ⟨m, st, notices⟩ ∨
              (m.phase.isPending = false ∧ st.get? stateKey ≠ none ∧
                d = ⟨{ m with token := none }, st, notices⟩) ∨
              d = ⟨(m.adopting st).refusing, st, notices⟩) := by
  refine .bind ((hs.adopt m st notices).mono ?_ ?_)
  · rintro _ _ rfl
    refine .bind (.tryCatch (.onStore ((hs.prepare e callback st).mono ?_ ?_)))
    · rintro request _ ⟨hverdict, rfl⟩
      refine .bind (.remember (.reading fun d h => ?_))
      rw [h.1]
      exact .pure ⟨request, hverdict, rfl, rfl⟩
    · rintro fault _ (⟨hverdict, rfl⟩ | ⟨hcause, rfl⟩)
      · exact .bind (.remember (.throw (.inl ⟨hverdict, rfl⟩)))
      · exact .bind (.remember (.throw (.inr ⟨hcause, .inr (.inr rfl)⟩)))
  · rintro fault d ⟨hcause, hd⟩
    exact .inr ⟨hcause, hd.imp_right .inl⟩

variable {m}

omit hs in
theorem giveUp {α : Type} (fault : AuthFault) :
    Ends (StepState.MirroredBy Holds) (Manager.giveUp fault : Step σ α) ⟨m, st, notices⟩
      (fun _ _ => False) fun fault' d => fault' = fault ∧ d = ⟨m.failExchange, st, notices⟩ :=
  .bind (.remember (.throw ⟨rfl, rfl⟩))

omit hs in
theorem finishExchange_of_epoch_ne {p : PendingExchange} (hp : m.epoch ≠ p.epoch)
    (granted : Except AuthFault TokenResponse) :
    Ends (StepState.MirroredBy Holds) (Manager.finishExchange s p granted) ⟨m, st, notices⟩
      (fun _ _ => False)
      fun fault d => fault = .superseded ∧ d = ⟨{ m with exchanging := false }, st, notices⟩ := by
  refine .bind (.remember (.reading fun d h => ?_))
  dsimp only
  rw [h.1, if_pos hp]
  exact .throw ⟨rfl, rfl⟩

omit hs in
theorem finishExchange_of_error {p : PendingExchange} (hp : m.epoch = p.epoch)
    {granted : Except AuthFault TokenResponse} {fault : AuthFault}
    (hr : m.recorded granted = .error fault) :
    Ends (StepState.MirroredBy Holds) (Manager.finishExchange s p granted) ⟨m, st, notices⟩
      (fun _ _ => False)
      fun fault' d => fault' = fault ∧
        d = ⟨{ m with exchanging := false }.failExchange, st, notices⟩ := by
  refine .bind (.remember (.reading fun d h => ?_))
  dsimp only
  rw [h.1, if_neg fun hne => hne hp]
  cases granted with
  | error f =>
    obtain rfl : f = fault := by simpa [Manager.recorded] using hr
    exact giveUp st notices f
  | ok token =>
    unfold Manager.recorded at hr
    dsimp only at hr ⊢
    cases hh : m.handle.or token.sub with
    | some handle => simp [hh] at hr
    | none =>
      obtain rfl : AuthFault.missingHandle = fault := by simpa [hh] using hr
      exact giveUp st notices .missingHandle

/-- What is granted is recorded as in memory, or it is not kept and the login is given up. -/
theorem finishExchange_of_ok {p : PendingExchange} (hp : m.epoch = p.epoch)
    {granted : Except AuthFault TokenResponse} {handle token : String}
    (hr : m.recorded granted = .ok (handle, token)) :
    Ends (StepState.MirroredBy Holds) (Manager.finishExchange s p granted) ⟨m, st, notices⟩
      (fun answer d => m.phase.isPending ∧ answer = token ∧
        d = ⟨m.recording handle token, (st.set handleKey handle).set tokenKey token, notices⟩)
      fun fault d =>
        m.phase.isPending = false ∧ fault = m.misplaced ∧
            d = ⟨m.recording handle token, (st.set handleKey handle).set tokenKey token,
              notices⟩ ∨
          (∃ cause, fault = .storage cause) ∧ ∃ st', st'.get? stateKey = st.get? stateKey ∧
            d = ⟨{ m with exchanging := false }.failExchange, st', notices⟩ := by
  refine .bind (.remember (.reading fun d h => ?_))
  dsimp only
  rw [h.1, if_neg fun hne => hne hp]
  cases granted with
  | error f => simp [Manager.recorded] at hr
  | ok t =>
    obtain ⟨hhandle, rfl⟩ := Manager.recorded_eq_ok hr
    dsimp only
    rw [hhandle]
    have hkept : Ends Holds
        (do
          s.set handleKey handle
          s.set tokenKey t.accessToken) st
        (fun _ st' => st' = (st.set handleKey handle).set tokenKey t.accessToken)
        fun _ st' => st'.get? stateKey = st.get? stateKey := by
      refine .bind ((hs.set handleKey handle st).mono ?_ fun _ _ h => by rw [h])
      rintro _ _ rfl
      exact (hs.set tokenKey _ _).mono (fun _ _ h => h) fun _ _ h => by simp [h]
    refine .bind (.bind (.tryCatch (.onStore (.asOp (hkept.mono ?_ ?_)))))
    · rintro _ _ rfl
      obtain ⟨phase, own, old, epoch, exchanging⟩ := m
      cases phase with
      | loginPending => exact .bind (.remember (.advance rfl (.pure ⟨rfl, rfl, rfl⟩)))
      | unauthenticated | authenticated =>
        exact .bind (.remember (.refuse rfl (.inl ⟨rfl, rfl, rfl⟩)))
    · intro cause st' hstate
      refine (giveUp st' notices (.storage cause)).mono (fun _ _ h => h.elim) ?_
      rintro fault d ⟨hfault, hd⟩
      exact .inr ⟨⟨cause, hfault⟩, st', hstate, hd⟩

theorem deauthenticate {epoch : Option Nat} (h : ∀ n ∈ epoch, n = m.epoch)
    (reason : DeauthReason) :
    Ends (StepState.MirroredBy Holds) (Manager.deauthenticate s reason epoch) ⟨m, st, notices⟩
      (fun _ d => d = ⟨m.tornDown, st.cleared, notices ++ [m.notice reason]⟩)
      fun fault d => (∃ cause, fault = .storage cause) ∧
        ∃ st', d = ⟨m.tornDown, st', notices ++ [m.notice reason]⟩ := by
  have hepoch : ¬ epoch.any (· ≠ m.epoch) := by
    cases epoch with
    | none => simp
    | some n => simp [h n rfl]
  have hdown : { m with
      handle := none
      token := none
      epoch := m.epoch + 1
      phase := (m.phase.next? .sessionLost).getD m.phase } = m.tornDown := by
    obtain ⟨phase, _⟩ := m
    cases phase <;> rfl
  rintro ⟨m', store, notices'⟩ ⟨rfl, hstore, rfl⟩
  obtain ⟨st', hholds, hend⟩ := Ends.asOp (E := fun fault _ => ∃ cause, fault = .storage cause)
    ((hs.clear st).mono (fun _ _ h => h) fun cause _ _ => ⟨cause, rfl⟩) store hstore
  unfold Manager.deauthenticate
  rw [if_neg hepoch]
  dsimp only
  rw [hdown]
  refine ⟨⟨m'.tornDown, st', notices' ++ [m'.notice reason]⟩, ?_⟩
  generalize Access.asOp s.clear store = r at hholds hend
  obtain ⟨answer, store'⟩ := r
  cases answer with
  | ok _ =>
    obtain rfl : st' = st.cleared := hend
    exact ⟨⟨rfl, hholds, rfl⟩, rfl⟩
  | error fault => exact ⟨⟨rfl, hholds, rfl⟩, hend, st', rfl⟩

omit hs in
theorem startFetch_of_some {token : String} (h : m.token = some token) (r : Request) :
    Ends (StepState.MirroredBy Holds) (Manager.startFetch s e r) ⟨m, st, notices⟩
      (fun pending d => ∃ request, Gateway.prepare e.serverOrigin r = .ok request ∧
        pending = ⟨request, token, m.epoch⟩ ∧ d = ⟨m, st, notices⟩)
      fun fault d => Gateway.prepare e.serverOrigin r = .error fault ∧ d = ⟨m, st, notices⟩ := by
  refine .reading fun d hd => ?_
  dsimp only
  rw [hd.1]
  dsimp only
  rw [h]
  refine .bind (.ofExcept (fun request hr => ?_) fun fault hr => ⟨hr, rfl⟩)
  exact .pure ⟨request, hr, rfl, rfl⟩

theorem startFetch_of_none (h : m.token = none) (r : Request) :
    Ends (StepState.MirroredBy Holds) (Manager.startFetch s e r) ⟨m, st, notices⟩ (fun _ _ => False)
      fun fault d => fault = .unauthenticated ∧
        ∃ st', d = ⟨m.tornDown, st', notices ++ [m.notice .missingToken]⟩ := by
  refine .reading fun d hd => ?_
  dsimp only
  rw [hd.1]
  dsimp only
  rw [h]
  refine .bind (.tryCatch ((hs.deauthenticate st notices (by simp) .missingToken).mono ?_ ?_))
  · rintro _ _ rfl
    exact .throw ⟨rfl, _, rfl⟩
  · rintro _ _ ⟨-, st', rfl⟩
    exact .pure (.throw ⟨rfl, st', rfl⟩)

theorem finishFetch_of_rejected {p : PendingFetch} {answer : Except AuthFault Response}
    (h : Gateway.interpret answer = .error .unauthenticated) (hp : p.epoch = m.epoch) :
    Ends (StepState.MirroredBy Holds) (Manager.finishFetch s p answer) ⟨m, st, notices⟩
      (fun _ _ => False)
      fun fault d => fault = .unauthenticated ∧
        ∃ st', d = ⟨m.tornDown, st', notices ++ [m.notice .rejected]⟩ := by
  unfold Manager.finishFetch
  rw [h]
  refine .bind (.tryCatch ((hs.deauthenticate st notices (by simp [hp]) .rejected).mono ?_ ?_))
  · rintro _ _ rfl
    exact .throw ⟨rfl, _, rfl⟩
  · rintro _ _ ⟨-, st', rfl⟩
    exact .pure (.throw ⟨rfl, st', rfl⟩)

omit hs in
theorem finishFetch_of_late {p : PendingFetch} {answer : Except AuthFault Response}
    (h : Gateway.interpret answer = .error .unauthenticated) (hp : p.epoch ≠ m.epoch) :
    Ends (StepState.MirroredBy Holds) (Manager.finishFetch s p answer) ⟨m, st, notices⟩
      (fun _ _ => False)
      fun fault d => fault = .unauthenticated ∧ d = ⟨m, st, notices⟩ := by
  have hquiet : Ends (StepState.MirroredBy Holds)
      (Manager.deauthenticate s .rejected (some p.epoch))
      ⟨m, st, notices⟩ (fun _ d => d = ⟨m, st, notices⟩) fun _ _ => False := by
    rintro ⟨m', store, notices'⟩ ⟨rfl, hstore, rfl⟩
    unfold Manager.deauthenticate
    rw [if_pos (by simpa using hp)]
    exact ⟨_, ⟨rfl, hstore, rfl⟩, rfl⟩
  unfold Manager.finishFetch
  rw [h]
  refine .bind (.tryCatch (hquiet.mono ?_ fun _ _ h => h.elim))
  rintro _ _ rfl
  exact .throw ⟨rfl, rfl⟩

omit hs in
theorem finishFetch_of_answered {p : PendingFetch} {answer : Except AuthFault Response}
    (h : Gateway.interpret answer ≠ .error .unauthenticated) :
    Ends (StepState.MirroredBy Holds) (Manager.finishFetch s p answer) ⟨m, st, notices⟩
      (fun response d => Gateway.interpret answer = .ok response ∧ d = ⟨m, st, notices⟩)
      fun fault d => Gateway.interpret answer = .error fault ∧ d = ⟨m, st, notices⟩ := by
  unfold Manager.finishFetch
  split
  · next hr => exact absurd hr h
  · next hr => exact .throw ⟨hr, rfl⟩
  · next hr => exact .pure ⟨hr, rfl⟩

end Steps

end Storage.Faltering

end SignIn
