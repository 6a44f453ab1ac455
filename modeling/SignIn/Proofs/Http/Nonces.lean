import Mathlib.Data.List.Induction
import Mathlib.Tactic.IntervalCases
import SignIn.Gateway
import SignIn.Http.Traffic

/-!
# Nonces under overlap

What a client remembers is the nonce that was handed out last. Whether a call answers a response
that asks for another nonce is decided against that memory, not against the nonce that the call
itself used. So a call that is refused over an old nonce is sent once more, except if the response
that handed out a nonce last before its own handed out the same one: then the call is over with the
refusal.
-/

namespace SignIn.Http

variable {p : Option Prover} {prove : Prover}

/-! ## Requests -/

/-- Proofs can always be made and be written as the value of a header. -/
def Prover.Steady (prove : Prover) : Prop :=
  ∀ method url nonce token, ∃ proof, prove method url nonce token = .ok proof ∧
    (Bytes.ofText proof).all isValueByte

def Call.method : Call → Method
  | .grant _ => .post
  | .fetch _ r => r.method

def Call.url : Call → Url
  | .grant r => r.endpoint
  | .fetch _ r => r.url

def Call.token : Call → Option String
  | .grant _ => none
  | .fetch token _ => some token

def Call.unproved : Call → HttpRequest
  | .grant r =>
    { start .post r.endpoint with body := some (grantBody r) }.withHeaders
      [("Content-Type", "application/x-www-form-urlencoded")]
  | .fetch token r =>
    { start r.method r.url with body := r.body }.withHeaders
      (("Authorization", authorizationValue true token) :: r.headers)

theorem request_eq (call : Call) (nonce : Option String) :
    call.request (some prove) nonce =
      (prove call.method call.url nonce call.token).map fun proof =>
        call.unproved.withHeaders [("DPoP", proof)] := by
  cases call with
  | grant r =>
    simp only [Call.request, grantRequest, proofHeaders, Call.method, Call.url, Call.token]
    cases prove .post r.endpoint nonce none with
    | error fault => rfl
    | ok proof =>
      simp [Call.unproved, HttpRequest.withHeaders, bind, Except.bind, pure, Except.pure,
        Except.map]
  | fetch token r =>
    simp only [Call.request, fetchRequest, proofHeaders, Call.method, Call.url, Call.token]
    cases prove r.method r.url nonce (some token) with
    | error fault => rfl
    | ok proof =>
      simp [Call.unproved, HttpRequest.withHeaders, bind, Except.bind, pure, Except.pure,
        Except.map]

theorem fault?_withProof {q : HttpRequest} {proof : String}
    (h : (Bytes.ofText proof).all isValueByte) :
    (q.withHeaders [("DPoP", proof)]).fault? = q.fault? := by
  have hwritable : isWritable ("DPoP", proof) = true := by
    have htoken : isToken "DPoP" = true := by decide
    rw [isWritable, htoken, h, Bool.and_true]
  have hall : (q.headers ++ [("DPoP", proof)]).all isWritable = q.headers.all isWritable := by
    rw [List.all_append, List.all_cons, hwritable, List.all_nil, Bool.and_true, Bool.and_true]
  unfold HttpRequest.fault? HttpRequest.withHeaders
  rw [hall]

theorem exists_request (h : prove.Steady) {call : Call} {nonce : Option String} {q : HttpRequest}
    (hq : call.request (some prove) nonce = .ok q) (hfault : q.fault? = none)
    (other : Option String) :
    ∃ q', call.request (some prove) other = .ok q' ∧ q'.fault? = none := by
  obtain ⟨proof, hproof, hwritable⟩ := h call.method call.url nonce call.token
  obtain ⟨proof', hproof', hwritable'⟩ := h call.method call.url other call.token
  rw [request_eq, hproof] at hq
  cases hq
  rw [fault?_withProof hwritable] at hfault
  refine ⟨_, by rw [request_eq, hproof']; rfl, ?_⟩
  rw [fault?_withProof hwritable', hfault]

/-! ## What is remembered -/

/-- A response hands out the nonce that the first of its headers of that name spells, if every byte
of it can be read. -/
structure HandsOut (r : Response) (fresh : String) : Prop where
  first : ∃ before name after, r.headers = before ++ (name, Bytes.ofText fresh) :: after ∧
    Text.lowerAscii name = "dpop-nonce" ∧ ∀ h ∈ before, Text.lowerAscii h.1 ≠ "dpop-nonce"
  readable : ∀ b ∈ Bytes.ofText fresh, b = 9 ∨ 32 ≤ b ∧ b < 127

theorem header?_eq_some_iff {r : Response} {name : String} {value : Bytes} :
    r.header? name = some value ↔ ∃ before other after,
      r.headers = before ++ (other, value) :: after ∧
        Text.lowerAscii other = Text.lowerAscii name ∧
        ∀ h ∈ before, Text.lowerAscii h.1 ≠ Text.lowerAscii name := by
  simp only [Response.header?, Option.map_eq_some_iff, List.find?_eq_some_iff_append, beq_iff_eq,
    Bool.not_eq_true', beq_eq_false_iff_ne]
  constructor
  · rintro ⟨⟨other, _⟩, ⟨hname, before, after, hheaders, hbefore⟩, rfl⟩
    exact ⟨before, other, after, hheaders, hname, hbefore⟩
  · rintro ⟨before, other, after, hheaders, hname, hbefore⟩
    exact ⟨(other, value), ⟨hname, before, after, hheaders, hbefore⟩, rfl⟩

theorem nonceOf?_eq_some_iff {r : Response} {fresh : String} :
    nonceOf? r = some fresh ↔ HandsOut r fresh := by
  have hmarker : Text.lowerAscii "DPoP-Nonce" = "dpop-nonce" := by decide
  have hreadable : ∀ value : Bytes, value.all isReadable = true ↔
      ∀ b ∈ value, b = 9 ∨ 32 ≤ b ∧ b < 127 := by
    simp [isReadable]
  rw [nonceOf?, Option.bind_eq_some_iff]
  constructor
  · rintro ⟨value, hheader, hvalue⟩
    rw [header?_eq_some_iff, hmarker] at hheader
    split_ifs at hvalue with hall
    obtain rfl := Bytes.ofText_of_text? hvalue
    exact ⟨hheader, (hreadable _).mp hall⟩
  · rintro ⟨hfirst, hbytes⟩
    refine ⟨Bytes.ofText fresh, ?_, ?_⟩
    · rw [header?_eq_some_iff, hmarker]
      exact hfirst
    · rw [if_pos ((hreadable _).mpr hbytes), Bytes.text?_ofText]

theorem HandsOut.unique {r : Response} {a b : String} (ha : HandsOut r a) (hb : HandsOut r b) :
    a = b :=
  Option.some.inj ((nonceOf?_eq_some_iff.mpr ha).symm.trans (nonceOf?_eq_some_iff.mpr hb))

/-- A response that refuses a request and hands out a nonce. -/
structure Asks (r : Response) (fresh : String) : Prop where
  refuses : r.status = 400 ∨ r.status = 401
  nonce : HandsOut r fresh

theorem nonce_remember (m : NonceMemory) (r : Response) :
    (m.remember r).2.nonce = (nonceOf? r).or m.nonce := by
  unfold NonceMemory.remember
  cases hnonce : nonceOf? r with
  | none => rfl
  | some fresh =>
    dsimp only
    split_ifs with hsame
    · rw [hsame]
      rfl
    · rfl

theorem remember_eq_some_iff {m : NonceMemory} {r : Response} {fresh : String} :
    (m.remember r).1 = some fresh ↔ nonceOf? r = some fresh ∧ m.nonce ≠ some fresh := by
  unfold NonceMemory.remember
  cases hnonce : nonceOf? r with
  | none => simp
  | some handed =>
    dsimp only
    split_ifs with hsame
    · simp only [false_iff, not_and, not_not]
      intro heq
      rw [hsame, heq]
    · constructor
      · rintro ⟨⟩
        exact ⟨rfl, hsame⟩
      · exact And.left

/-- A call with a proof is to be sent again if it was refused over a nonce that is not
remembered. -/
theorem afterFirst_eq_some_iff {proving : Bool} {m : NonceMemory} {r : Response}
    {fresh : String} :
    (m.afterFirst proving r).1 = some fresh ↔
      proving = true ∧ Asks r fresh ∧ m.nonce ≠ some fresh := by
  have hrefuses : (proving && (r.status == 400 || r.status == 401)) = true ↔
      proving = true ∧ (r.status = 400 ∨ r.status = 401) := by
    simp
  unfold NonceMemory.afterFirst
  dsimp only
  split_ifs with hstatus
  · obtain ⟨hproving, hrefused⟩ := hrefuses.mp hstatus
    rw [remember_eq_some_iff, nonceOf?_eq_some_iff]
    constructor
    · rintro ⟨hnonce, hnew⟩
      exact ⟨hproving, ⟨hrefused, hnonce⟩, hnew⟩
    · rintro ⟨-, hasks, hnew⟩
      exact ⟨hasks.nonce, hnew⟩
  · simp only [false_iff]
    rintro ⟨hproving, hasks, -⟩
    exact hstatus (hrefuses.mpr ⟨hproving, hasks.refuses⟩)

namespace Traffic

theorem nonce_receive (proving : Bool) (m : NonceMemory) (answer : Except HttpFault Response)
    (c : Course) :
    (c.receive proving m answer).2.nonce =
      (match answer with
        | .ok r => if c.isWaiting then nonceOf? r else none
        | .error _ => none).or m.nonce := by
  unfold Course.receive Course.isWaiting
  cases c.stage <;> cases answer
  all_goals first
    | rfl
    | exact nonce_remember m _

theorem nonce_move (t : Traffic) (m : Move) :
    (t.move p m).memory.nonce = (t.hands? m).or t.memory.nonce := by
  cases m with
  | call call => rfl
  | read k => rfl
  | send k => rfl
  | deliver k answer =>
    cases hk : t.courses[k]? with
    | none => cases answer <;> simp [move, hands?, hk]
    | some c =>
      have hreceive := nonce_receive p.isSome t.memory answer c
      cases answer <;> simpa [move, hands?, hk] using hreceive

theorem run_cons (t : Traffic) (m : Move) (ms : List Move) :
    t.run p (m :: ms) = (t.move p m).run p ms := rfl

theorem run_append (t : Traffic) (ms ms' : List Move) :
    t.run p (ms ++ ms') = (t.run p ms).run p ms' := List.foldl_append

/-- What is remembered is the nonce that was handed out last. -/
theorem nonce_run (t : Traffic) (ms : List Move) :
    (t.run p ms).memory.nonce = (t.handed p ms).getLast?.or t.memory.nonce := by
  induction ms generalizing t with
  | nil => rfl
  | cons m ms ih =>
    rw [run_cons, ih, nonce_move, handed, List.getLast?_append]
    cases t.hands? m <;> cases ((t.move p m).handed p ms).getLast? <;> rfl

end Traffic

/-! ## Courses -/

/-- How a call can have come where it is, with a prover whose proofs can always be made. -/
inductive Course.Sound (prove : Prover) : Course → Prop
  | unread (call : Call) : Sound prove ⟨call, none, .unread, [], []⟩
  | ready (call : Call) (own : Option String) : Sound prove ⟨call, own, .ready, [], []⟩
  | first {call : Call} {own : Option String} {q : HttpRequest}
      (hq : call.request (some prove) own = .ok q) (hfault : q.fault? = none) :
      Sound prove ⟨call, own, .first, [q], []⟩
  | renewed {call : Call} {own : Option String} {q : HttpRequest} {r : Response} {fresh : String}
      (hq : call.request (some prove) own = .ok q) (hfault : q.fault? = none)
      (hasks : Asks r fresh) : Sound prove ⟨call, own, .renewed fresh, [q], [r]⟩
  | second {call : Call} {own : Option String} {q q' : HttpRequest} {r : Response} {fresh : String}
      (hq : call.request (some prove) own = .ok q) (hasks : Asks r fresh)
      (hq' : call.request (some prove) (some fresh) = .ok q') :
      Sound prove ⟨call, own, .second, [q, q'], [r]⟩
  | unanswered (call : Call) (own : Option String) (fault : AuthFault) (sent : List HttpRequest) :
      Sound prove ⟨call, own, .over (.error fault), sent, []⟩
  | answered {call : Call} {own : Option String} {q : HttpRequest} (r : Response)
      (hq : call.request (some prove) own = .ok q) :
      Sound prove ⟨call, own, .over (.ok r), [q], [r]⟩
  | again {call : Call} {own : Option String} {q q' : HttpRequest} {r : Response} {fresh : String}
      (answer : Except AuthFault Response) (more : List Response)
      (hq : call.request (some prove) own = .ok q) (hasks : Asks r fresh)
      (hq' : call.request (some prove) (some fresh) = .ok q') :
      Sound prove ⟨call, own, .over answer, [q, q'], r :: more⟩

/-- If the first response of a call asks for another nonce than the call had used, then its second
request is due, with a proof over that nonce, or was sent so; a third is not. -/
def Course.Renewed (prove : Prover) (c : Course) : Prop :=
  ∀ r fresh, c.received.head? = some r → Asks r fresh → c.own ≠ some fresh →
    ∃ q, c.call.request (some prove) c.own = .ok q ∧
      (c.stage = .renewed fresh ∧ c.sent = [q] ∨
        ∃ q', c.call.request (some prove) (some fresh) = .ok q' ∧ c.sent = [q, q'])

variable {c : Course}

namespace Course.Sound

theorem read (h : c.Sound prove) (m : NonceMemory) : (c.read m).Sound prove := by
  cases h with
  | unread call => exact .ready call m.nonce
  | ready call own => exact .ready call own
  | first hq hfault => exact .first hq hfault
  | renewed hq hfault hasks => exact .renewed hq hfault hasks
  | second hq hasks hq' => exact .second hq hasks hq'
  | unanswered call own fault sent => exact .unanswered call own fault sent
  | answered r hq => exact .answered r hq
  | again answer more hq hasks hq' => exact .again answer more hq hasks hq'

theorem send (hprove : prove.Steady) (h : c.Sound prove) : (c.send (some prove)).Sound prove := by
  cases h with
  | ready call own =>
    unfold Course.send Course.transmit
    dsimp only
    split
    · exact .unanswered ..
    · next q hq =>
      split
      · exact .unanswered ..
      · next hfault => exact .first hq hfault
  | @renewed call own q r fresh hq hfault hasks =>
    obtain ⟨q', hq', hfault'⟩ := exists_request hprove hq hfault (some fresh)
    unfold Course.send Course.transmit
    dsimp only
    rw [hq']
    dsimp only
    rw [hfault']
    exact .second hq hasks hq'
  | unread call => exact .unread call
  | first hq hfault => exact .first hq hfault
  | second hq hasks hq' => exact .second hq hasks hq'
  | unanswered call own fault sent => exact .unanswered call own fault sent
  | answered r hq => exact .answered r hq
  | again answer more hq hasks hq' => exact .again answer more hq hasks hq'

theorem receive (h : c.Sound prove) (m : NonceMemory) (answer : Except HttpFault Response) :
    (c.receive true m answer).1.Sound prove := by
  cases h with
  | first hq hfault =>
    cases answer with
    | error fault => exact .unanswered ..
    | ok r =>
      unfold Course.receive
      dsimp only
      cases hretry : (m.afterFirst true r).1 with
      | none => exact .answered r hq
      | some fresh => exact .renewed hq hfault (afterFirst_eq_some_iff.mp hretry).2.1
  | second hq hasks hq' =>
    cases answer with
    | error fault => exact .again _ [] hq hasks hq'
    | ok r => exact .again _ [r] hq hasks hq'
  | unread call => exact .unread call
  | ready call own => exact .ready call own
  | renewed hq hfault hasks => exact .renewed hq hfault hasks
  | unanswered call own fault sent => exact .unanswered call own fault sent
  | answered r hq => exact .answered r hq
  | again answer more hq hasks hq' => exact .again answer more hq hasks hq'

end Course.Sound

namespace Traffic

variable {t : Traffic} {k : Nat} {m : Move} {moves : List Move}

theorem getElem?_deliver (hk : t.courses[k]? = some c) (answer : Except HttpFault Response) :
    (t.move p (.deliver k answer)).courses[k]? =
      some (c.receive p.isSome t.memory answer).1 := by
  obtain ⟨hlt, -⟩ := List.getElem?_eq_some_iff.mp hk
  simp only [move, hk]
  exact List.getElem?_set_self hlt

theorem getElem?_move (hk : t.courses[k]? = some c) (m : Move) :
    (t.move p m).courses[k]? = some c ∨
      m = .read k ∧ (t.move p m).courses[k]? = some (c.read t.memory) ∨
      m = .send k ∧ (t.move p m).courses[k]? = some (c.send p) ∨
      ∃ answer, m = .deliver k answer ∧
        (t.move p m).courses[k]? = some (c.receive p.isSome t.memory answer).1 := by
  cases m with
  | call call =>
    left
    obtain ⟨hlt, -⟩ := List.getElem?_eq_some_iff.mp hk
    exact (List.getElem?_append_left hlt).trans hk
  | read j =>
    by_cases hj : j = k
    · subst hj
      right
      left
      exact ⟨rfl, by simp [move, hk]⟩
    · left
      simp [move, hj, hk]
  | send j =>
    by_cases hj : j = k
    · subst hj
      right
      right
      left
      exact ⟨rfl, by simp [move, hk]⟩
    · left
      simp [move, hj, hk]
  | deliver j answer =>
    by_cases hj : j = k
    · subst hj
      right
      right
      right
      exact ⟨answer, rfl, getElem?_deliver hk answer⟩
    · left
      cases hother : t.courses[j]? with
      | none => simpa [move, hother] using hk
      | some other => simpa [move, hother, hj] using hk

theorem getElem?_move_of_none (hk : t.courses[k]? = none)
    (hc : (t.move p m).courses[k]? = some c) : ∃ call, m = .call call ∧ c = { call } := by
  cases m with
  | call call =>
    refine ⟨call, rfl, ?_⟩
    rw [move, List.getElem?_append_right (List.getElem?_eq_none_iff.mp hk)] at hc
    have hmem := List.mem_of_getElem? hc
    simpa using hmem
  | read j => simp [move, List.getElem?_modify, hk] at hc
  | send j => simp [move, List.getElem?_modify, hk] at hc
  | deliver j answer =>
    exfalso
    cases hother : t.courses[j]? with
    | none => simp [move, hother, hk] at hc
    | some other =>
      have hlen := List.getElem?_eq_none_iff.mp hk
      obtain ⟨hlt, -⟩ := List.getElem?_eq_some_iff.mp hc
      simp only [move, hother, List.length_set] at hlt
      omega

theorem sound_run (hprove : prove.Steady) (moves : List Move) (k : Nat) (c : Course)
    (hc : (Traffic.run (some prove) {} moves).courses[k]? = some c) : c.Sound prove := by
  induction moves using List.reverseRecOn generalizing c with
  | nil => cases hc
  | append_singleton moves m ih =>
    rw [run_append] at hc
    cases hk : (Traffic.run (some prove) {} moves).courses[k]? with
    | none =>
      obtain ⟨call, -, rfl⟩ := getElem?_move_of_none hk hc
      exact .unread call
    | some before =>
      have hsound := ih before hk
      rcases getElem?_move (p := some prove) hk m with
        hsame | ⟨-, hread⟩ | ⟨-, hsend⟩ | ⟨answer, -, hreceive⟩
      · cases hsame.symm.trans hc
        exact hsound
      · cases hread.symm.trans hc
        exact hsound.read _
      · cases hsend.symm.trans hc
        exact hsound.send hprove
      · cases hreceive.symm.trans hc
        exact hsound.receive _ _

theorem over_run {answer : Except AuthFault Response} (hk : t.courses[k]? = some c)
    (hover : c.stage = .over answer) (moves : List Move) :
    (t.run p moves).courses[k]? = some c := by
  induction moves generalizing t with
  | nil => exact hk
  | cons m ms ih =>
    rw [run_cons]
    apply ih
    rcases getElem?_move (p := p) hk m with
      hsame | ⟨-, hread⟩ | ⟨-, hsend⟩ | ⟨answer, -, hreceive⟩
    · exact hsame
    · rw [hread, Course.read, hover]
    · rw [hsend, Course.send, hover]
    · rw [hreceive]
      unfold Course.receive
      rw [hover]

theorem stage_read_ne_over {m : NonceMemory} {answer : Except AuthFault Response}
    (h : c.stage ≠ .over answer) : (c.read m).stage ≠ .over answer := by
  unfold Course.read
  split
  · exact fun hover => by cases hover
  · exact h

theorem stage_send_ne_over {r : Response} (h : c.stage ≠ .over (.ok r)) :
    (c.send p).stage ≠ .over (.ok r) := by
  have htransmit : ∀ nonce waiting, waiting ≠ Stage.over (.ok r) →
      (c.transmit p nonce waiting).stage ≠ .over (.ok r) := by
    intro nonce waiting hwaiting
    unfold Course.transmit
    split
    · exact fun hover => by cases hover
    · split
      · exact fun hover => by cases hover
      · exact hwaiting
  unfold Course.send
  split
  · exact htransmit _ _ fun hover => by cases hover
  · exact htransmit _ _ fun hover => by cases hover
  · exact h

theorem receive_over {proving : Bool} {m : NonceMemory} {answer : Except HttpFault Response}
    {r : Response} (h : c.stage ≠ .over (.ok r))
    (hover : (c.receive proving m answer).1.stage = .over (.ok r)) :
    answer = .ok r ∧ (c.stage = .second ∨ c.stage = .first ∧ (m.afterFirst proving r).1 = none) ∧
      (c.receive proving m answer).1 =
        { c with stage := .over (.ok r), received := c.received ++ [r] } := by
  unfold Course.receive at hover ⊢
  split at hover
  · cases hover
  · cases hover
  · next response hfirst =>
    dsimp only at hover ⊢
    split at hover
    · cases hover
    · next hretry =>
      cases hover
      exact ⟨rfl, .inr ⟨hfirst, hretry⟩, rfl⟩
  · next response hsecond =>
    cases hover
    exact ⟨rfl, .inl hsecond, rfl⟩
  · exact absurd hover h

/-- A call that is over after it was sent once took its response when no other was to be sent. -/
theorem exists_delivery (hprove : prove.Steady) {r : Response}
    (hc : (Traffic.run (some prove) {} moves).courses[k]? = some c)
    (hover : c.stage = .over (.ok r)) (hsent : c.sent.length = 1) :
    ∃ before after c', moves = before ++ .deliver k (.ok r) :: after ∧
      (Traffic.run (some prove) {} before).courses[k]? = some c' ∧ c'.stage = .first ∧
      c'.own = c.own ∧
      ((Traffic.run (some prove) {} before).memory.afterFirst true r).1 = none := by
  induction moves using List.reverseRecOn with
  | nil => cases hc
  | append_singleton moves m ih =>
    rw [run_append] at hc
    cases hk : (Traffic.run (some prove) {} moves).courses[k]? with
    | none =>
      obtain ⟨call, -, rfl⟩ := getElem?_move_of_none hk hc
      cases hover
    | some b =>
      by_cases hb : b.stage = .over (.ok r)
      · have hsame := over_run (p := some prove) hk hb [m]
        cases hsame.symm.trans hc
        obtain ⟨before, after, c', rfl, hrest⟩ := ih hk
        exact ⟨before, after ++ [m], c', by simp, hrest⟩
      · rcases getElem?_move (p := some prove) hk m with
          hsame | ⟨-, hread⟩ | ⟨-, hsend⟩ | ⟨answer, rfl, hreceive⟩
        · cases hsame.symm.trans hc
          exact absurd hover hb
        · cases hread.symm.trans hc
          exact absurd hover (stage_read_ne_over hb)
        · cases hsend.symm.trans hc
          exact absurd hover (stage_send_ne_over hb)
        · cases hreceive.symm.trans hc
          obtain ⟨rfl, hstage, heq⟩ := receive_over hb hover
          rw [heq] at hsent ⊢
          rcases hstage with hsecond | ⟨hfirst, hnone⟩
          · exfalso
            have hsound := sound_run hprove moves k b hk
            cases hsound with
            | second hq hasks hq' => simp at hsent
            | _ => cases hsecond
          · exact ⟨moves, [], b, rfl, hk, hfirst, rfl, hnone⟩

end Traffic

/-- With a prover whose proofs can always be made, and for any moves of any number of calls on a new
client: each call that is refused over an old nonce is sent once more exactly if the nonce that was
handed out last before its response is never the one that this response hands out. -/
theorem renewed_iff_not_overtaken (hprove : prove.Steady) (moves : List Move) :
    (∀ c ∈ (Traffic.run (some prove) {} moves).courses, c.Renewed prove) ↔
      ∀ before k r after c fresh, moves = before ++ .deliver k (.ok r) :: after →
        (Traffic.run (some prove) {} before).courses[k]? = some c → c.stage = .first →
        Asks r fresh → c.own ≠ some fresh →
          (Traffic.handed (some prove) {} before).getLast? ≠ some fresh := by
  have hmemory : ∀ before, (Traffic.run (some prove) {} before).memory.nonce =
      (Traffic.handed (some prove) {} before).getLast? := by
    intro before
    rw [Traffic.nonce_run]
    exact Option.or_none
  constructor
  · rintro hall before k r after c fresh rfl hk hfirst hasks hold hlast
    rw [← hmemory] at hlast
    have hnone : ((Traffic.run (some prove) {} before).memory.afterFirst true r).1 = none := by
      rw [Option.eq_none_iff_forall_ne_some]
      intro other hother
      obtain ⟨-, hasks', hnew⟩ := afterFirst_eq_some_iff.mp hother
      obtain rfl : fresh = other := hasks.nonce.unique hasks'.nonce
      exact hnew hlast
    have hdelivered := Traffic.getElem?_deliver (p := some prove) hk (.ok r)
    have hsound := Traffic.sound_run hprove before k c hk
    cases hsound with
    | @first call own q hq hfault =>
      -- The call is over with its first response, and it stays so until the end.
      have hover : ((⟨call, own, .first, [q], []⟩ : Course).receive true
          (Traffic.run (some prove) {} before).memory (.ok r)).1 =
          ⟨call, own, .over (.ok r), [q], [r]⟩ := by
        unfold Course.receive
        dsimp only
        rw [hnone]
        rfl
      rw [Option.isSome_some, hover] at hdelivered
      have hend := Traffic.over_run (p := some prove) hdelivered rfl after
      rw [← Traffic.run_cons, ← Traffic.run_append] at hend
      obtain ⟨first, -, hdue | ⟨second, -, htwice⟩⟩ :=
        hall _ (List.mem_of_getElem? hend) r fresh rfl hasks hold
      · cases hdue.1
      · cases htwice
    | _ => cases hfirst
  · intro hnever c hc r fresh hreceived hasks hold
    obtain ⟨k, hk⟩ := List.getElem?_of_mem hc
    have hsame : ∀ other, Asks r other → other = fresh := fun other hother =>
      hother.nonce.unique hasks.nonce
    cases Traffic.sound_run hprove moves k c hk with
    | unread call => cases hreceived
    | ready call own => cases hreceived
    | first hq hfault => cases hreceived
    | unanswered call own fault sent => cases hreceived
    | renewed hq hfault hasks' =>
      cases hreceived
      obtain rfl := hsame _ hasks'
      exact ⟨_, hq, .inl ⟨rfl, rfl⟩⟩
    | second hq hasks' hq' =>
      cases hreceived
      obtain rfl := hsame _ hasks'
      exact ⟨_, hq, .inr ⟨_, hq', rfl⟩⟩
    | answered r' hq =>
      cases hreceived
      obtain ⟨before, after, c', hmoves, hk', hfirst, hown, hnone⟩ :=
        Traffic.exists_delivery hprove hk rfl rfl
      have hne := hnever before k r after c' fresh hmoves hk' hfirst hasks (hown ▸ hold)
      rw [← hmemory] at hne
      rw [afterFirst_eq_some_iff.mpr ⟨rfl, hasks, hne⟩] at hnone
      cases hnone
    | again answer more hq hasks' hq' =>
      cases hreceived
      obtain rfl := hsame _ hasks'
      exact ⟨_, hq, .inr ⟨_, hq', rfl⟩⟩

/-- A prover that writes the nonce into its proofs, if it can be written. -/
def Prover.sample : Prover := fun _ _ nonce _ =>
  .ok (if (Bytes.ofText (nonce.getD "")).all isValueByte then nonce.getD "" else "")

theorem Prover.sample_steady : sample.Steady := by
  intro method url nonce token
  refine ⟨_, rfl, ?_⟩
  split_ifs with hwritable
  · exact hwritable
  · rfl

def Call.sample : Call :=
  .fetch "token-1" ⟨.get, ⟨"https", some ⟨"", none, some (.name "node.example"), none⟩,
    .segments ["x"], none, none⟩, [], none⟩

def refusal (nonce : String) : Response := ⟨401, [("dpop-nonce", Bytes.ofText nonce)], []⟩

/-- Two fetches overlap, and both are refused over no nonce at all. -/
def overlapping (nonce nonce' : String) : List Move :=
  [.call .sample, .call .sample, .read 0, .read 1, .send 0, .send 1,
    .deliver 0 (.ok (refusal nonce)), .deliver 1 (.ok (refusal nonce'))]

/-- If each is handed a nonce of its own, each is sent once more. -/
theorem renewed_of_distinct_nonces :
    let t := Traffic.run (some .sample) {} (overlapping "n1" "n2")
    t.courses.map (·.stage) = [.renewed "n1", .renewed "n2"] ∧
      ∀ c ∈ t.courses, c.Renewed .sample := by
  refine ⟨rfl, (renewed_iff_not_overtaken Prover.sample_steady (overlapping "n1" "n2")).mpr ?_⟩
  intro before k r after c fresh hmoves hk hfirst hasks hold
  have hbefore : before = (overlapping "n1" "n2").take before.length := by
    rw [hmoves, List.take_left]
  have hdeliver : (overlapping "n1" "n2")[before.length]? = some (.deliver k (.ok r)) := by
    rw [hmoves]
    simp
  have hlen : before.length < 8 := by
    obtain ⟨hlt, -⟩ := List.getElem?_eq_some_iff.mp hdeliver
    exact hlt
  rw [hbefore]
  generalize before.length = i at hdeliver hlen
  interval_cases i <;> cases hdeliver
  · exact fun hlast => by cases hlast
  · obtain rfl : "n2" = fresh :=
      (nonceOf?_eq_some_iff (r := refusal "n2").mp rfl).unique hasks.nonce
    change some "n1" ≠ some "n2"
    decide

/-- If both are handed the same nonce, the second one is over: its refusal, which only asks for that
nonce, is taken for the refusal of the token. -/
theorem not_renewed_of_same_nonce :
    Prover.sample.Steady ∧
      ∃ c, (Traffic.run (some .sample) {} (overlapping "n1" "n1")).courses[1]? = some c ∧
        c.own = none ∧ c.received = [refusal "n1"] ∧ Asks (refusal "n1") "n1" ∧
        c.sent.length = 1 ∧ c.stage = .over (.ok (refusal "n1")) ∧ ¬c.Renewed .sample ∧
        Gateway.interpret (.ok (refusal "n1")) = .error .unauthenticated := by
  have hasks : Asks (refusal "n1") "n1" := ⟨.inr rfl, nonceOf?_eq_some_iff.mp rfl⟩
  refine ⟨Prover.sample_steady, _, rfl, rfl, rfl, hasks, rfl, rfl, ?_, rfl⟩
  intro hrenewed
  obtain ⟨q, -, hdue | ⟨q', -, htwice⟩⟩ := hrenewed _ _ rfl hasks (by decide)
  · cases hdue.1
  · cases htwice

end SignIn.Http
