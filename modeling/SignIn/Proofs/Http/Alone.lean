import SignIn.Http.Traffic
import SignIn.Proofs.Text.Split

/-!
# A call that is alone

A call that is alone on its client, with a network that answers at once, makes the moves of a call
among others, one after the other. It comes to the answer and leaves the memory that sending its
request does.
-/

namespace SignIn.Http

open Text

variable {p : Option Prover}

namespace Course

variable {c : Course} {nonce : Option String} {q : HttpRequest}

theorem transmit_of_error {waiting : Stage} {fault : AuthFault}
    (h : c.call.request p nonce = .error fault) :
    c.transmit p nonce waiting = { c with stage := .over (.error fault) } := by
  simp [transmit, h]

theorem transmit_of_fault {waiting : Stage} {fault : HttpFault}
    (h : c.call.request p nonce = .ok q) (hfault : q.fault? = some fault) :
    c.transmit p nonce waiting = { c with stage := .over (.error (.http fault)) } := by
  simp [transmit, h, hfault]

theorem transmit_of_ok {waiting : Stage} (h : c.call.request p nonce = .ok q)
    (hfault : q.fault? = none) :
    c.transmit p nonce waiting = { c with stage := waiting, sent := c.sent ++ [q] } := by
  simp [transmit, h, hfault]

end Course

section Alone

variable (network : HttpRequest → Except HttpFault Response)

def answerOf (q : HttpRequest) : Except AuthFault Response :=
  match q.fault? with
  | some fault => .error (.http fault)
  | none => (network q).mapError .http

theorem transmit_id (q : HttpRequest) : transmit (m := Id) network q = answerOf network q := by
  unfold transmit answerOf
  cases q.fault? <;> rfl

theorem send_id (proving : Bool) (build : Option String → Except AuthFault HttpRequest)
    (memory : NonceMemory) :
    send (m := Id) network proving build memory =
      match (build memory.nonce).bind (answerOf network) with
      | .error fault => (.error fault, memory)
      | .ok r =>
        match (memory.afterFirst proving r).1 with
        | none => (.ok r, (memory.afterFirst proving r).2)
        | some nonce =>
          match (build (some nonce)).bind (answerOf network) with
          | .error fault => (.error fault, (memory.afterFirst proving r).2)
          | .ok r' => (.ok r', (memory.afterFirst proving r).2.afterSecond r') := by
  unfold send
  simp only [transmit_id]
  cases build memory.nonce with
  | error fault => rfl
  | ok first =>
    simp only [Except.bind]
    cases answerOf network first with
    | error fault => rfl
    | ok r =>
      change (match (memory.afterFirst proving r).1 with
        | none => (Except.ok r, (memory.afterFirst proving r).2)
        | some nonce => _) = _
      dsimp only
      cases (memory.afterFirst proving r).1 with
      | none => rfl
      | some nonce =>
        dsimp only
        cases build (some nonce) with
        | error fault => rfl
        | ok second =>
          simp only
          cases answerOf network second <;> rfl

namespace Traffic

variable {network} {m : NonceMemory} {c : Course}

theorem reply_of_over {answer : Except AuthFault Response} (h : c.stage = .over answer) :
    reply p network 0 ⟨m, [c]⟩ = ⟨m, [c]⟩ := by
  have hreceive : ∀ r, c.receive p.isSome m r = (c, m) := by
    intro r
    unfold Course.receive
    rw [h]
  unfold reply
  simp only [List.getElem?_cons_zero, Option.bind_some]
  split
  · simp [move, hreceive]
  · rfl

theorem reply_transmit_of_error {nonce : Option String} {waiting : Stage} {fault : AuthFault}
    (hwaiting : waiting = .first ∨ waiting = .second)
    (h : (c.call.request p nonce).bind (answerOf network) = .error fault) :
    ∃ c', reply p network 0 ⟨m, [c.transmit p nonce waiting]⟩ = ⟨m, [c']⟩ ∧
      c'.stage = .over (.error fault) := by
  cases hrequest : c.call.request p nonce with
  | error fault' =>
    rw [hrequest] at h
    cases h
    rw [Course.transmit_of_error hrequest]
    exact ⟨_, reply_of_over rfl, rfl⟩
  | ok q =>
    rw [hrequest] at h
    change answerOf network q = .error fault at h
    unfold answerOf at h
    cases hfault : q.fault? with
    | some fault' =>
      rw [hfault] at h
      cases h
      rw [Course.transmit_of_fault hrequest hfault]
      exact ⟨_, reply_of_over rfl, rfl⟩
    | none =>
      rw [hfault] at h
      cases hanswer : network q with
      | ok r =>
        rw [hanswer] at h
        cases h
      | error fault' =>
        rw [hanswer] at h
        cases h
        rw [Course.transmit_of_ok hrequest hfault]
        refine ⟨{ c with stage := .over (.error (.http fault')), sent := c.sent ++ [q] }, ?_, rfl⟩
        rcases hwaiting with rfl | rfl <;> simp [reply, move, Course.receive, hanswer]

theorem reply_transmit_of_ok {nonce : Option String} {waiting : Stage} {q : HttpRequest}
    {r : Response} (hrequest : c.call.request p nonce = .ok q) (h : answerOf network q = .ok r) :
    reply p network 0 ⟨m, [c.transmit p nonce waiting]⟩ =
      ⟨(({ c with stage := waiting, sent := c.sent ++ [q] } : Course).receive p.isSome m
          (.ok r)).2,
        [(({ c with stage := waiting, sent := c.sent ++ [q] } : Course).receive p.isSome m
          (.ok r)).1]⟩ := by
  unfold answerOf at h
  cases hfault : q.fault? with
  | some fault =>
    rw [hfault] at h
    cases h
  | none =>
    rw [hfault] at h
    cases hanswer : network q with
    | error fault =>
      rw [hanswer] at h
      cases h
    | ok r' =>
      rw [hanswer] at h
      cases h
      rw [Course.transmit_of_ok hrequest hfault]
      simp [reply, move, hanswer]

/-- A call that is alone on the client, with a network that answers at once, goes as the client
sends it. -/
theorem alone_eq_send (network : HttpRequest → Except HttpFault Response) (p : Option Prover)
    (call : Call) (memory : NonceMemory) :
    let start : Traffic := ⟨memory, [{ call }]⟩
    let first := ((start.move p (.read 0)).move p (.send 0)).reply p network 0
    let second := (first.move p (.send 0)).reply p network 0
    let sent := send (m := Id) network p.isSome (fun nonce => call.request p nonce) memory
    second.memory = sent.2 ∧ second.courses.map (·.stage) = [.over sent.1] := by
  have hstart : ((⟨memory, [{ call }]⟩ : Traffic).move p (.read 0)).move p (.send 0) =
      ⟨memory, [(⟨call, memory.nonce, .ready, [], []⟩ : Course).transmit p memory.nonce .first]⟩ :=
    rfl
  have hsend : ∀ m c, move p ⟨m, [c]⟩ (.send 0) = ⟨m, [c.send p]⟩ := fun _ _ => rfl
  have hnothing : ∀ c a, c.stage = Stage.over a → ∀ m,
      (move p ⟨m, [c]⟩ (.send 0)).reply p network 0 = ⟨m, [c]⟩ := by
    intro c a hover m
    have hsame : c.send p = c := by rw [Course.send, hover]
    rw [hsend, hsame, reply_of_over hover]
  dsimp only
  rw [hstart, send_id]
  cases hfirst : (call.request p memory.nonce).bind (answerOf network) with
  | error fault =>
    obtain ⟨c', hreply, hover⟩ := reply_transmit_of_error (p := p) (m := memory)
      (c := ⟨call, memory.nonce, .ready, [], []⟩) (.inl rfl) hfirst
    rw [hreply, hnothing c' _ hover]
    exact ⟨rfl, by simp [hover]⟩
  | ok r =>
    obtain ⟨q, hq, hanswer⟩ := exists_of_bind_eq_ok hfirst
    rw [reply_transmit_of_ok hq hanswer]
    cases hretry : (memory.afterFirst p.isSome r).1 with
    | none =>
      have hover : (⟨call, memory.nonce, .first, [q], []⟩ : Course).receive p.isSome memory
          (.ok r) =
            (⟨call, memory.nonce, .over (.ok r), [q], [r]⟩, (memory.afterFirst p.isSome r).2) := by
        simp [Course.receive, hretry]
      rw [List.nil_append, hover, hnothing _ _ rfl]
      simp [hretry]
    | some fresh =>
      have hrenewed : (⟨call, memory.nonce, .first, [q], []⟩ : Course).receive p.isSome memory
          (.ok r) =
            (⟨call, memory.nonce, .renewed fresh, [q], [r]⟩, (memory.afterFirst p.isSome r).2) := by
        simp [Course.receive, hretry]
      have hagain : (⟨call, memory.nonce, .renewed fresh, [q], [r]⟩ : Course).send p =
          (⟨call, memory.nonce, .renewed fresh, [q], [r]⟩ : Course).transmit p (some fresh)
            .second := rfl
      rw [List.nil_append, hrenewed, hsend, hagain]
      simp only [hretry]
      cases hsecond : (call.request p (some fresh)).bind (answerOf network) with
      | error fault =>
        obtain ⟨c', hreply, hover⟩ := reply_transmit_of_error (p := p)
          (m := (memory.afterFirst p.isSome r).2)
          (c := ⟨call, memory.nonce, .renewed fresh, [q], [r]⟩) (.inr rfl) hsecond
        rw [hreply]
        exact ⟨rfl, by simp [hover]⟩
      | ok r' =>
        obtain ⟨q', hq', hanswer'⟩ := exists_of_bind_eq_ok hsecond
        rw [reply_transmit_of_ok hq' hanswer']
        exact ⟨rfl, rfl⟩

end Traffic

end Alone

end SignIn.Http
