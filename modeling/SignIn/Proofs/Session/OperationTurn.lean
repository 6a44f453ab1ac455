import SignIn.Proofs.Session.Kept

/-!
# What an operation can do that runs to its end

An operation takes one turn if no call of it waits. Otherwise the answer to its call is the next
thing that happens, so that the call comes back to the manager as it was left, and both turns
together are one turn of the operation. What operations preserve is proved by cases on these turns.
An operation can take only one of them, so that the turn is also what it comes to.
-/

namespace SignIn

/-- What goes out over the network. -/
inductive Outgoing where
  | grant (request : TokenRequest)
  | fetch (request : ResourceRequest) (token : String)
  deriving DecidableEq

def Waiting.outgoing : Waiting → Outgoing
  | .exchange q => .grant q.request
  | .fetch q => .fetch q.request q.token

/-- What an operation sends, if it comes to that. -/
def OpenManagers.outgoing? {σ : Type} (p : Platform σ) (o : OpenManagers σ) (a : Operation) :
    Option Outgoing :=
  match (o.step p a.start).1 with
  | .waits t => some t.call.outgoing
  | _ => none

theorem Operation.ticket?_start (a : Operation) : a.start.ticket? = none := by
  cases a <;> rfl

namespace OpenManagers

variable {σ : Type} {e : Endpoints} {o o' o'' : OpenManagers Entries} {n : Nat} {m : Manager}

/-- After a call has come and gone: its number is not given again. -/
def counted (o : OpenManagers Entries) : OpenManagers Entries := { o with issued := o.issued + 1 }

/-- What an operation that runs to its end can do to managers over the store in memory. -/
inductive OperationTurn (e : Endpoints) (o : OpenManagers Entries) :
    Operation → Option Outgoing → Answer → OpenManagers Entries → Prop
  | brief {a answer o'} (h : o.Turn e a.start answer o') (hw : ∀ t, answer ≠ .waits t) :
      OperationTurn e o a none answer o'
  | failed {n m callback request granted fault} (hm : o.managers[n]? = some m)
      (hv : LoginFlow.verdict e o.store callback = .ok request)
      (hr : (m.adopting o.store).recorded granted = .error fault) :
      OperationTurn e o (.exchange n callback granted) (some (.grant request)) (.fault fault)
        (o.counted.seat n { m.adopting o.store with exchanging := false }.failExchange
          (o.store.erase stateKey))
  | recorded {n m callback request granted handle token} (hm : o.managers[n]? = some m)
      (hv : LoginFlow.verdict e o.store callback = .ok request)
      (hr : (m.adopting o.store).recorded granted = .ok (handle, token)) :
      OperationTurn e o (.exchange n callback granted) (some (.grant request)) (.token token)
        (o.counted.seat n ((m.adopting o.store).recording handle token)
          (((o.store.erase stateKey).set handleKey handle).set tokenKey token))
  | rejected {n m token request prepared received} (hm : o.managers[n]? = some m)
      (htoken : m.token = some token)
      (hr : Gateway.prepare e.serverOrigin request = .ok prepared)
      (ha : Gateway.interpret received = .error .unauthenticated) :
      OperationTurn e o (.fetch n request received) (some (.fetch prepared token))
        (.fault .unauthenticated) (o.counted.tearDown n m .rejected)
  | answered {n m token request prepared received} (hm : o.managers[n]? = some m)
      (htoken : m.token = some token)
      (hr : Gateway.prepare e.serverOrigin request = .ok prepared)
      (ha : Gateway.interpret received ≠ .error .unauthenticated) :
      OperationTurn e o (.fetch n request received) (some (.fetch prepared token))
        (.ofFetch (Gateway.interpret received)) o.counted

/-! ## Tickets that are given and come back -/

theorem getElem?_seat (hm : o.managers[n]? = some m) (m' : Manager) (st : Entries) :
    (o.seat n m' st).managers[n]? = some m' := by
  obtain ⟨hn, -⟩ := List.getElem?_eq_some_iff.mp hm
  exact List.getElem?_set_self hn

theorem seat_counted_seat (m' : Manager) (st st' : Entries) :
    (o.seat n m st).counted.seat n m' st' = o.counted.seat n m' st' := by
  simp [seat, counted]

theorem numbered_of_idle (ho : o.waiting = []) : o.Numbered := by
  constructor <;> simp [ho]

theorem Numbered.seat (ho : o.Numbered) (st : Entries) : (o.seat n m st).Numbered :=
  ⟨ho.lt_issued, ho.injective⟩

theorem Numbered.ticket?_enter (ho : o.Numbered) (call : Waiting) :
    (o.enter n call).2.ticket? o.issued = some ⟨o.issued, n, call⟩ := by
  have hfresh : o.waiting.find? (·.number == o.issued) = none := by
    rw [List.find?_eq_none]
    intro t ht heq
    exact absurd (eq_of_beq heq) (ho.lt_issued t ht).ne
  simp [ticket?, enter, hfresh]

theorem Numbered.without_enter (ho : o.Numbered) (call : Waiting) :
    (o.enter n call).2.without o.issued = o.counted := by
  have hold : o.waiting.filter (·.number != o.issued) = o.waiting := by
    rw [List.filter_eq_self]
    intro t ht
    exact bne_iff_ne.mpr (ho.lt_issued t ht).ne
  simp [enter, without, counted, hold]

/-! ## Every operation takes a turn -/

section OperationTurns

variable {t : Ticket} {answer : Answer}

theorem Numbered.operationTurn_exchange {callback : String}
    {granted : Except AuthFault TokenResponse}
    (ho : o.Numbered) (h₁ : o.Turn e (.startExchange n callback) (.waits t) o')
    (h₂ : o'.Turn e (.finishExchange t.number granted) answer o'') :
    o.OperationTurn e (.exchange n callback granted) (some t.call.outgoing) answer o'' := by
  cases h₁ with
  | @started _ m _ request hm hv =>
    have hseat := ho.seat (n := n) (m := { m.adopting o.store with exchanging := true })
      (o.store.erase stateKey)
    have hticket := hseat.ticket?_enter (n := n)
      (.exchange ⟨request, (m.adopting o.store).epoch⟩)
    have hwithout := hseat.without_enter (n := n)
      (.exchange ⟨request, (m.adopting o.store).epoch⟩)
    have hself := getElem?_seat hm { m.adopting o.store with exchanging := true }
      (o.store.erase stateKey)
    -- once the ticket has come back, only the manager and the store have changed
    have hback : ∀ m' st, ((((o.seat n { m.adopting o.store with exchanging := true }
        (o.store.erase stateKey)).enter n
          (.exchange ⟨request, (m.adopting o.store).epoch⟩)).2.without o.issued).seat n m' st) =
        o.counted.seat n m' st := by
      intro m' st
      exact (congrArg (·.seat n m' st) hwithout).trans (seat_counted_seat m' _ st)
    cases h₂ with
    | superseded ht hm' hp =>
      cases hticket.symm.trans ht
      cases hself.symm.trans hm'
      exact absurd rfl hp
    | failed ht hm' hp hr =>
      cases hticket.symm.trans ht
      cases hself.symm.trans hm'
      rw [hback]
      exact .failed hm hv hr
    | recorded ht hm' hp hr =>
      cases hticket.symm.trans ht
      cases hself.symm.trans hm'
      rw [hback, if_pos (Manager.isPending_adopting m (LoginFlow.ne_none_of_verdict hv))]
      exact .recorded hm hv hr
    | absent ha => cases ha
    | lost ha ht hm' =>
      cases ha
      cases hticket.symm.trans ht
      cases hself.symm.trans hm'
    | unknown ha hnone =>
      cases ha
      cases hnone _ hticket

theorem Numbered.operationTurn_fetch {request : Request} {received : Except AuthFault Response}
    (ho : o.Numbered) (h₁ : o.Turn e (.startFetch n request) (.waits t) o')
    (h₂ : o'.Turn e (.finishFetch t.number received) answer o'') :
    o.OperationTurn e (.fetch n request received) (some t.call.outgoing) answer o'' := by
  cases h₁ with
  | @sent _ m token _ prepared hm htoken hr =>
    have hticket := ho.ticket?_enter (n := n) (.fetch ⟨prepared, token, m.epoch⟩)
    have hwithout := ho.without_enter (n := n) (.fetch ⟨prepared, token, m.epoch⟩)
    cases h₂ with
    | rejected ht hm' ha hp =>
      cases hticket.symm.trans ht
      cases hm.symm.trans hm'
      rw [hwithout]
      exact .rejected hm htoken hr ha
    | late ht hm' ha hp =>
      cases hticket.symm.trans ht
      cases hm.symm.trans hm'
      exact absurd rfl hp
    | answered ht hm' ha =>
      rw [hwithout]
      exact .answered hm htoken hr ha
    | absent ha => cases ha
    | lost ha ht hm' =>
      cases ha
      cases hticket.symm.trans ht
      cases hm.symm.trans hm'
    | unknown ha hnone =>
      cases ha
      cases hnone _ hticket

/-- Over the store in memory every operation takes a turn. -/
theorem Numbered.operationTurn_operate (ho : o.Numbered) (p : Platform σ) (a : Operation) :
    o.OperationTurn p.endpoints a (o.outgoing? p.inMemory a) (o.operate p.inMemory a).1
      (o.operate p.inMemory a).2 := by
  have hstart := turn_step (o := o) p a.start
  unfold outgoing? operate
  generalize o.step p.inMemory a.start = r at hstart
  obtain ⟨answer, o₁⟩ := r
  cases answer with
  | waits t =>
    have hfinish := turn_step (o := o₁) p (a.finish t.number)
    cases a with
    | exchange => exact ho.operationTurn_exchange hstart hfinish
    | fetch => exact ho.operationTurn_fetch hstart hfinish
    | openManager | login | logout => cases hstart
  | _ => exact .brief hstart (by simp)

end OperationTurns

/-! ## An operation takes one turn only -/

section Functional

variable {a : Act} {answer answer' : Answer}

theorem Turn.functional (h : o.Turn e a answer o') (h' : o.Turn e a answer' o'')
    (ha : a.ticket? = none) : answer = answer' ∧ o' = o'' := by
  cases h with
  | superseded | failed | recorded | rejected | late | answered | dropped => cases ha
  | lost ha' | unknown ha' => cases ha.symm.trans ha'
  | restored | orphaned | resumed | login | refused | started | tokenless | unsent | sent
  | loggedOut | absent => cases h' <;> simp_all [Act.manager?, Act.ticket?]

/-- An operation can take only one turn. -/
theorem OperationTurn.functional {a : Operation} {sent sent' : Option Outgoing}
    (h : o.OperationTurn e a sent answer o') (h' : o.OperationTurn e a sent' answer' o'') :
    sent = sent' ∧ answer = answer' ∧ o' = o'' := by
  cases h with
  | brief h hw =>
    cases h' with
    | brief h' =>
      obtain ⟨rfl, rfl⟩ := h.functional h' a.ticket?_start
      exact ⟨rfl, rfl, rfl⟩
    | failed hm hv | recorded hm hv => exact absurd (h.functional (.started hm hv) rfl).1 (hw _)
    | rejected hm htoken hr | answered hm htoken hr =>
      exact absurd (h.functional (.sent hm htoken hr) rfl).1 (hw _)
  | failed hm hv hr =>
    cases h' with
    | brief h' hw => exact absurd (h'.functional (.started hm hv) rfl).1 (hw _)
    | failed hm' hv' hr' =>
      cases hm.symm.trans hm'
      cases hv.symm.trans hv'
      cases hr.symm.trans hr'
      exact ⟨rfl, rfl, rfl⟩
    | recorded hm' hv' hr' =>
      cases hm.symm.trans hm'
      cases hr.symm.trans hr'
  | recorded hm hv hr =>
    cases h' with
    | brief h' hw => exact absurd (h'.functional (.started hm hv) rfl).1 (hw _)
    | failed hm' hv' hr' =>
      cases hm.symm.trans hm'
      cases hr.symm.trans hr'
    | recorded hm' hv' hr' =>
      cases hm.symm.trans hm'
      cases hv.symm.trans hv'
      cases hr.symm.trans hr'
      exact ⟨rfl, rfl, rfl⟩
  | rejected hm htoken hr ha =>
    cases h' with
    | brief h' hw => exact absurd (h'.functional (.sent hm htoken hr) rfl).1 (hw _)
    | rejected hm' htoken' hr' =>
      cases hm.symm.trans hm'
      cases htoken.symm.trans htoken'
      cases hr.symm.trans hr'
      exact ⟨rfl, rfl, rfl⟩
    | answered _ _ _ ha' => exact absurd ha ha'
  | answered hm htoken hr ha =>
    cases h' with
    | brief h' hw => exact absurd (h'.functional (.sent hm htoken hr) rfl).1 (hw _)
    | rejected _ _ _ ha' => exact absurd ha' ha
    | answered hm' htoken' hr' =>
      cases hm.symm.trans hm'
      cases htoken.symm.trans htoken'
      cases hr.symm.trans hr'
      exact ⟨rfl, rfl, rfl⟩

end Functional

end OpenManagers

end SignIn
