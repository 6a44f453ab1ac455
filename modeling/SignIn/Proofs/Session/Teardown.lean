import SignIn.Proofs.Session.Overlap
import SignIn.Proofs.Session.Rejection
import SignIn.Proofs.Session.Undivided

/-!
# A session that is given up

A session is given up by a logout, and by a fetch of a manager that remembers no token. What the
manager remembers is gone before the store is asked to remove anything, so that no failing of the
store can prevent it: the notice is given, and calls that wait have lost their epoch. In the store
the keys are removed one after the other up to the first removal that fails. To give up again what
was given up changes nothing but for the notice.
-/

namespace SignIn

variable {σ : Type}

/-! ## Removals -/

def Entries.eraseAll (t : Entries) (keys : List String) : Entries := keys.foldl Entries.erase t

@[simp] theorem Entries.get?_eraseAll (t : Entries) (keys : List String) (key : String) :
    (t.eraseAll keys).get? key = if key ∈ keys then none else t.get? key := by
  induction keys generalizing t with
  | nil => simp [eraseAll]
  | cons k keys ih =>
    have hcons : t.eraseAll (k :: keys) = (t.erase k).eraseAll keys := rfl
    rw [hcons, ih, get?_erase]
    by_cases hkey : key = k <;> simp [hkey]

theorem Entries.eraseAll_of_forall {t : Entries} {keys : List String}
    (h : ∀ key ∈ keys, t.get? key = none) : t.eraseAll keys = t := by
  ext key : 1
  rw [get?_eraseAll]
  split
  · next hkey => exact (h key hkey).symm
  · rfl

namespace Storage

variable (s : Storage σ)

/-- The calls with which keys are removed, in order, each with what it came to. After a call that
fails there is none. -/
def removals : List String → σ → List (String × Except StoreFault Bool)
  | [], _ => []
  | key :: keys, st =>
    match s.remove key st with
    | (.ok found, st) => (key, .ok found) :: removals keys st
    | (.error fault, _) => [(key, .error fault)]

def removed (calls : List (String × Except StoreFault Bool)) : List String :=
  (calls.filter (·.2.isOk)).map (·.1)

variable {s} {keys : List String} {st : σ}

theorem removeAll_eq_ok_iff :
    (s.removeAll keys st).1 = .ok () ↔ ∀ c ∈ s.removals keys st, c.2.isOk := by
  induction keys generalizing st with
  | nil => simp [removeAll, removals]
  | cons key keys ih =>
    rw [removeAll, removals, bind_apply]
    cases h : s.remove key st with
    | mk answer st' =>
      cases answer with
      | ok found => simp [ih, Except.isOk, Except.toBool]
      | error fault => simp [Except.isOk, Except.toBool]

theorem removeAll_eq_error_iff {fault : StoreFault} :
    (s.removeAll keys st).1 = .error fault ↔ ∃ key, (key, .error fault) ∈ s.removals keys st := by
  induction keys generalizing st with
  | nil => simp [removeAll, removals]
  | cons key keys ih =>
    rw [removeAll, removals, bind_apply]
    cases h : s.remove key st with
    | mk answer st' =>
      cases answer with
      | ok found => simp [ih]
      | error fault' => simp [eq_comm]

theorem removed_prefix : removed (s.removals keys st) <+: keys := by
  induction keys generalizing st with
  | nil => simp [removals, removed]
  | cons key keys ih =>
    rw [removals]
    cases h : s.remove key st with
    | mk answer st' =>
      cases answer with
      | ok found => simpa [removed, Except.isOk, Except.toBool] using ih
      | error fault => simp [removed, Except.isOk, Except.toBool]

theorem removed_eq_iff :
    removed (s.removals keys st) = keys ↔ ∀ c ∈ s.removals keys st, c.2.isOk := by
  induction keys generalizing st with
  | nil => simp [removals, removed]
  | cons key keys ih =>
    rw [removals]
    cases h : s.remove key st with
    | mk answer st' =>
      cases answer with
      | ok found => simpa [removed, Except.isOk, Except.toBool] using ih
      | error fault => simp [removed, Except.isOk, Except.toBool]

theorem Faltering.holds_removeAll {Holds : σ → Entries → Prop} (hs : s.Faltering Holds)
    (keys : List String) {t : Entries} (h : Holds st t) :
    Holds (s.removeAll keys st).2 (t.eraseAll (removed (s.removals keys st))) := by
  induction keys generalizing st t with
  | nil => exact h
  | cons key keys ih =>
    obtain ⟨t', hholds, hend⟩ := hs.remove key t st h
    rw [removeAll, removals, bind_apply]
    generalize s.remove key st = r at hholds hend
    obtain ⟨answer, st'⟩ := r
    cases answer with
    | ok found =>
      obtain rfl : t' = t.erase key := hend
      exact ih hholds
    | error fault =>
      obtain rfl : t' = t := hend
      exact hholds

end Storage

/-! ## Giving a session up -/

/-- The acts with which a manager gives its session up, and the reason for which it does. -/
inductive Manager.GivesUp (m : Manager) (n : Nat) : Act → DeauthReason → Prop
  | logout : GivesUp m n (.logout n) .logout
  | tokenless (htoken : m.token = none) (request : Request) :
      GivesUp m n (.startFetch n request) .missingToken

theorem Manager.deauthenticate_apply (s : Storage σ) (reason : DeauthReason) (d : StepState σ) :
    deauthenticate s reason none d =
      ((Access.asOp s.clear d.store).1,
        ⟨d.manager.tornDown, (s.clear d.store).2,
          d.notices ++ [d.manager.notice reason]⟩) := by
  obtain ⟨⟨phase, handle, token, epoch, exchanging⟩, store, notices⟩ := d
  simp only [deauthenticate, Access.asOp]
  generalize s.clear store = r
  obtain ⟨answer, store'⟩ := r
  cases answer <;> cases phase <;> rfl

namespace OpenManagers

variable (p : Platform σ)

/-- After a manager has given its session up, with what the removals left. -/
def surrender (o : OpenManagers σ) (n : Nat) (m : Manager) (reason : DeauthReason) :
    OpenManagers σ :=
  { o with
    store := (p.storage.clear o.store).2
    managers := o.managers.set n m.tornDown
    notices := o.notices ++ [(n, m.notice reason)] }

/-- A session was given up: its manager remembers nothing of it, one notice was given, at a time
when the manager showed so already, and of what was kept the removed keys are gone. -/
structure Surrenders (Holds : σ → Entries → Prop) (o o₁ : OpenManagers σ) (n : Nat)
    (reason : DeauthReason) (removed : List String) : Prop where
  forgets : ∃ m, o₁.managers[n]? = some m ∧ m.session = (.unauthenticated, none, none)
  others : ∀ k, k ≠ n → o₁.managers[k]? = o.managers[k]?
  waiting : o₁.waiting = o.waiting
  notifies : o₁.notices = o.notices ++ [(n, ⟨reason, .unauthenticated none⟩)]
  keeps : ∀ t, Holds o.store t → ∃ t', Holds o₁.store t' ∧
    ∀ key, t'.get? key = if key ∈ removed then none else t.get? key

/-- Whatever comes afterwards, the calls of a manager that waited before come to nothing: an
exchange is superseded, and for a fetch no notice is given. -/
def Outdates (o o₁ : OpenManagers σ) (n : Nat) : Prop :=
  ∀ acts t, t ∈ o.waiting → t.manager = n →
    let o₂ := reach (fun o a => OpenManagers.step p o a) o₁ acts
    t ∈ o₂.waiting →
      (∀ q granted, t.call = .exchange q →
        (o₂.step p (.finishExchange t.number granted)).1 = .fault .superseded) ∧
      ∀ q received, t.call = .fetch q →
        (o₂.step p (.finishFetch t.number received)).2.notices = o₂.notices

/-- Logouts have given one notice each. No session has changed, and no store in which none of the
keys was left. -/
structure OnlyNotifies (Holds : σ → Entries → Prop) (o₁ o₂ : OpenManagers σ)
    (n times : Nat) : Prop where
  sessions : o₂.managers.map Manager.session = o₁.managers.map Manager.session
  notifies : o₂.notices = o₁.notices ++
    List.replicate times (n, ⟨.logout, .unauthenticated none⟩)
  keeps : ∀ t, Holds o₁.store t → (∀ key ∈ sessionKeys, t.get? key = none) → Holds o₂.store t

variable {p} {o : OpenManagers σ} {n : Nat} {m : Manager}

theorem Outdates.now {o₁ : OpenManagers σ} (h : o.Outdates p o₁ n) {t : Ticket} (ht : t ∈ o.waiting)
    (hmanager : t.manager = n) (hwaits : t ∈ o₁.waiting) :
    (∀ q granted, t.call = .exchange q →
      (o₁.step p (.finishExchange t.number granted)).1 = .fault .superseded) ∧
    ∀ q received, t.call = .fetch q →
      (o₁.step p (.finishFetch t.number received)).2.notices = o₁.notices :=
  h [] t ht hmanager hwaits

theorem step_logout (hm : o.managers[n]? = some m) :
    o.step p (.logout n) =
      (match (p.storage.clear o.store).1 with
        | .ok _ => .done
        | .error fault => .fault (.storage fault), o.surrender p n m .logout) := by
  simp only [step, act, hm, Manager.logout, Manager.deauthenticate_apply, Access.asOp, surrender]
  generalize p.storage.clear o.store = r
  obtain ⟨answer, store⟩ := r
  cases answer <;> rfl

theorem step_startFetch_of_none (hm : o.managers[n]? = some m) (htoken : m.token = none)
    (request : Request) :
    o.step p (.startFetch n request) =
      (.fault .unauthenticated, o.surrender p n m .missingToken) := by
  have hstart : Manager.startFetch p.storage p.endpoints request ⟨m, o.store, []⟩ =
      (.error .unauthenticated,
        ⟨m.tornDown, (p.storage.clear o.store).2, [m.notice .missingToken]⟩) := by
    simp only [Manager.startFetch, bind_apply, get_apply, htoken, tryCatch_apply,
      Manager.deauthenticate_apply, Access.asOp, List.nil_append]
    generalize p.storage.clear o.store = r
    obtain ⟨answer, store⟩ := r
    cases answer <;> rfl
  simp only [step, act, hm, hstart, surrender, List.map_cons, List.map_nil]

theorem step_of_givesUp (hm : o.managers[n]? = some m) {a : Act} {reason : DeauthReason}
    (h : m.GivesUp n a reason) : (o.step p a).2 = o.surrender p n m reason := by
  cases h with
  | logout => rw [step_logout hm]
  | tokenless htoken request => rw [step_startFetch_of_none hm htoken request]

theorem surrenders_surrender {Holds : σ → Entries → Prop} (hs : p.storage.Faltering Holds)
    (hm : o.managers[n]? = some m) (reason : DeauthReason) :
    o.Surrenders Holds (o.surrender p n m reason) n reason
      (Storage.removed (p.storage.removals sessionKeys o.store)) := by
  obtain ⟨hn, -⟩ := List.getElem?_eq_some_iff.mp hm
  constructor
  · exact ⟨m.tornDown, List.getElem?_set_self hn, rfl⟩
  · exact fun k hk => List.getElem?_set_ne hk.symm
  · rfl
  · rfl
  · exact fun t ht => ⟨_, hs.holds_removeAll _ ht, Entries.get?_eraseAll t _⟩

/-! ## Runs over a store that may fail -/

variable {Holds : σ → Entries → Prop} {o' : OpenManagers Entries}

theorem MirroredBy.exists_reach (hp : p.Faltering Holds) (h : o.MirroredBy Holds o')
    (hn : o'.Numbered)
    (hd : o'.Dated) (acts : List Act) :
    ∃ o'', (reach (fun o a => OpenManagers.step p o a) o acts).MirroredBy Holds o'' ∧ o'.Later o'' ∧
      o''.Numbered ∧ o''.Dated := by
  induction acts generalizing o o' with
  | nil => exact ⟨o', h, .refl o', hn, hd⟩
  | cons a acts ih =>
    obtain ⟨o₁, h₁, hturn | hfaulty⟩ := h.turnsOrFaults hp a
    · obtain ⟨o'', hreached, hlater, hrest⟩ := ih h₁ (hturn.numbered hn) (hturn.dated hd)
      exact ⟨o'', hreached, hturn.later.trans hlater, hrest⟩
    · obtain ⟨o'', hreached, hlater, hrest⟩ := ih h₁ (hfaulty.numbered hn) (hfaulty.dated hd)
      exact ⟨o'', hreached, hfaulty.later.trans hlater, hrest⟩

theorem MirroredBy.superseded (hp : p.Faltering Holds) (h : o.MirroredBy Holds o')
    (hn : o'.Numbered)
    {t : Ticket} (ht : t ∈ o'.waiting) {q : PendingExchange} (hcall : t.call = .exchange q)
    (hm : o'.managers[t.manager]? = some m) (hepoch : m.epoch ≠ q.epoch)
    (granted : Except AuthFault TokenResponse) :
    (o.step p (.finishExchange t.number granted)).1 = .fault .superseded := by
  obtain ⟨o₁, -, hfails⟩ := h.turnsOrFaults hp (.finishExchange t.number granted)
  generalize (o.step p (.finishExchange t.number granted)).1 = answer at hfails
  rcases hfails with hturn | hfaulty
  · rcases hturn.of_returns hn ht hcall hm with ⟨-, hanswer, -⟩ | ⟨hsame, -⟩ | ⟨hsame, -⟩
    · exact hanswer
    · exact absurd hsame hepoch
    · exact absurd hsame hepoch
  · obtain ⟨number, k, call⟩ := t
    dsimp only at hcall hm hfaulty
    subst hcall
    cases hfaulty with
    | unkept ht' hm' hsame =>
      obtain ⟨rfl, ⟨⟩⟩ := hn.eq_of_ticket? ht ht'
      cases hm.symm.trans hm'
      exact absurd hsame hepoch

theorem MirroredBy.unnoticed (hp : p.Faltering Holds) (h : o.MirroredBy Holds o') (hn : o'.Numbered)
    {t : Ticket} (ht : t ∈ o'.waiting) {q : PendingFetch} (hcall : t.call = .fetch q)
    (hm : o'.managers[t.manager]? = some m) (hepoch : m.epoch ≠ q.epoch)
    (received : Except AuthFault Response) :
    (o.step p (.finishFetch t.number received)).2.notices = o.notices := by
  have hcurrent : ∀ {k m₁ q₁}, o'.ticket? t.number = some ⟨t.number, k, .fetch q₁⟩ →
      o'.managers[k]? = some m₁ → q₁.epoch ≠ m₁.epoch := by
    intro k m₁ q₁ ht₁ hm₁ hsame
    obtain ⟨number, k', call⟩ := t
    dsimp only at hcall hm ht₁
    subst hcall
    obtain ⟨rfl, ⟨⟩⟩ := hn.eq_of_ticket? ht ht₁
    cases hm.symm.trans hm₁
    exact hepoch hsame.symm
  obtain ⟨o₁, h₁, hturn | hfaulty⟩ := h.turnsOrFaults hp (.finishFetch t.number received)
  · rw [h₁.notices, h.notices]
    rcases hturn.notices_cases with hsame | ⟨k, m₁, reason, hm₁, hloses, -⟩
    · exact hsame
    · cases hloses with
      | rejected ht₁ _ hsame => exact absurd hsame (hcurrent ht₁ hm₁)
  · generalize (o.step p (.finishFetch t.number received)).1 = answer at hfaulty
    cases hfaulty with
    | rejected ht₁ hm₁ _ hsame => exact absurd hsame (hcurrent ht₁ hm₁)

/-- To give a session up outdates every call of its manager. -/
theorem MirroredBy.outdates_surrender (hp : p.Faltering Holds) (h : o.MirroredBy Holds o')
    (hn : o'.Numbered) (hd : o'.Dated) (hm : o.managers[n]? = some m) {a : Act}
    {reason : DeauthReason} (hgives : m.GivesUp n a reason) :
    o.Outdates p (o.surrender p n m reason) n := by
  intro acts t ht hmanager o₂ hwaits
  obtain ⟨hlt, -⟩ := List.getElem?_eq_some_iff.mp hm
  obtain ⟨o₁', h₁, -, hn₁, hd₁⟩ := h.exists_reach hp hn hd [a]
  rw [show reach (fun o a => OpenManagers.step p o a) o [a] = o.surrender p n m reason from
    step_of_givesUp hm hgives] at h₁
  have hdown : o₁'.managers[n]? = some m.tornDown := by
    rw [← h₁.managers]
    exact List.getElem?_set_self hlt
  obtain ⟨o₂', h₂, hlater, hn₂, -⟩ := h₁.exists_reach hp hn₁ hd₁ acts
  obtain ⟨m₂, hm₂, hle⟩ := hlater.manager n _ hdown
  rw [h.waiting] at ht
  have hwaits' : t ∈ o₂'.waiting := h₂.waiting ▸ hwaits
  -- the call was sent in an epoch that the manager had come to before it gave the session up
  have hearlier : t.call.epoch < m₂.epoch := by
    obtain ⟨m₀, hm₀, hsent⟩ := hd t ht
    rw [hmanager, ← h.managers, hm] at hm₀
    cases hm₀
    exact (Nat.lt_succ_of_le hsent).trans_le hle.epoch_le
  rw [← hmanager] at hm₂
  constructor
  · intro q granted hcall
    rw [hcall] at hearlier
    exact h₂.superseded hp hn₂ hwaits' hcall hm₂ hearlier.ne' granted
  · intro q received hcall
    rw [hcall] at hearlier
    exact h₂.unnoticed hp hn₂ hwaits' hcall hm₂ hearlier.ne' received

/-! ## Logging out -/

/-- A logout is answered with a fault exactly if a removal fails. -/
theorem answer_logout (hm : o.managers[n]? = some m) :
    ((o.step p (.logout n)).1 = .done ↔
      ∀ c ∈ p.storage.removals sessionKeys o.store, c.2.isOk) ∧
    ∀ fault, (o.step p (.logout n)).1 = .fault fault ↔
      ∃ key cause, (key, .error cause) ∈ p.storage.removals sessionKeys o.store ∧
        fault = .storage cause := by
  have herror : ∀ cause, (∃ key, (key, .error cause) ∈ p.storage.removals sessionKeys o.store) ↔
      (p.storage.clear o.store).1 = .error cause :=
    fun cause => Storage.removeAll_eq_error_iff.symm
  rw [step_logout hm, ← Storage.removeAll_eq_ok_iff]
  change (_ ↔ (p.storage.clear o.store).1 = .ok ()) ∧ _
  cases hclear : (p.storage.clear o.store).1 with
  | ok _ =>
    refine ⟨by simp, fun fault => iff_of_false (by simp) ?_⟩
    rintro ⟨key, cause, hmem, -⟩
    cases hclear.symm.trans ((herror cause).mp ⟨key, hmem⟩)
  | error cause =>
    refine ⟨by simp, fun fault => ⟨?_, ?_⟩⟩
    · rintro ⟨⟩
      obtain ⟨key, hmem⟩ := (herror cause).mpr hclear
      exact ⟨key, cause, hmem, rfl⟩
    · rintro ⟨key, cause', hmem, rfl⟩
      cases hclear.symm.trans ((herror cause').mp ⟨key, hmem⟩)
      rfl

theorem reach_logouts (hs : p.storage.Faltering Holds) (hm : o.managers[n]? = some m)
    (hsession : m.session = (.unauthenticated, none, none)) (times : Nat) :
    o.OnlyNotifies Holds
      (reach (fun o a => OpenManagers.step p o a) o (List.replicate times (.logout n)))
      n times := by
  induction times generalizing o m with
  | zero => exact ⟨rfl, (List.append_nil _).symm, fun t ht _ => ht⟩
  | succ times ih =>
    have hgives := surrenders_surrender hs hm .logout
    obtain ⟨m₁, hm₁, hsession₁⟩ := hgives.forgets
    have hrest := ih hm₁ hsession₁
    have hfirst : (o.step p (.logout n)).2 = o.surrender p n m .logout :=
      step_of_givesUp hm .logout
    rw [List.replicate_succ]
    change o.OnlyNotifies Holds (reach _ (o.step p (.logout n)).2 _) n (times + 1)
    rw [hfirst]
    constructor
    · have hsame : (o.managers.map Manager.session)[n]? = some m.tornDown.session := by
        rw [List.getElem?_map, hm]
        exact congrArg some hsession
      obtain ⟨_, hget⟩ := List.getElem?_eq_some_iff.mp hsame
      rw [hrest.sessions, surrender, List.map_set, ← hget, List.set_getElem_self]
    · rw [hrest.notifies, hgives.notifies, List.append_assoc]
      rfl
    · intro t ht hnone
      apply hrest.keeps t _ hnone
      have hremoved := hs.holds_removeAll sessionKeys ht
      rwa [Entries.eraseAll_of_forall fun key hkey =>
        hnone key (Storage.removed_prefix.subset hkey)] at hremoved

end OpenManagers

/-- Wherever a run over a store that may fail has come to, a manager that gives its session up
loses it, whichever removals fail: it remembers nothing, one notice is given, its calls that wait
come to nothing, and the keys are gone whose removal came before any that failed. A fetch without a
token is refused in any case, and a logout is answered with a fault exactly if a removal failed.
Logouts that follow give one notice each, and change neither a manager nor a store in which none of
the keys is left. -/
theorem giving_up_prevails {p : Platform σ} {Holds : σ → Entries → Prop} (hp : p.Faltering Holds)
    {st : σ} {st' : Entries} (hst : Holds st st') (acts : List Act) {n : Nat} {m : Manager} :
    let o := reach (fun o a => OpenManagers.step p o a) (OpenManagers.closed st) acts
    o.managers[n]? = some m →
    (∃ t, Holds o.store t) ∧
    ∀ a reason, m.GivesUp n a reason →
      let calls := p.storage.removals sessionKeys o.store
      let answer := (o.step p a).1
      let o₁ := (o.step p a).2
      o.Surrenders Holds o₁ n reason (Storage.removed calls) ∧
      Storage.removed calls <+: sessionKeys ∧
      (Storage.removed calls = sessionKeys ↔ ∀ c ∈ calls, c.2.isOk) ∧
      (reason = .missingToken → answer = .fault .unauthenticated) ∧
      (reason = .logout →
        (answer = .done ↔ ∀ c ∈ calls, c.2.isOk) ∧
        ∀ fault, answer = .fault fault ↔
          ∃ key cause, (key, .error cause) ∈ calls ∧ fault = .storage cause) ∧
      o.Outdates p o₁ n ∧
      ∀ times, o₁.OnlyNotifies Holds
        (reach (fun o a => OpenManagers.step p o a) o₁ (List.replicate times (.logout n)))
        n times := by
  intro o hm
  have hclosed : (OpenManagers.closed st).MirroredBy Holds (OpenManagers.closed st') :=
    ⟨hst, rfl, rfl, rfl, rfl⟩
  obtain ⟨o', hmirrored, -, hn, hd⟩ :=
    hclosed.exists_reach hp (OpenManagers.numbered_closed st') (OpenManagers.dated_closed st') acts
  refine ⟨⟨o'.store, hmirrored.store⟩, fun a reason hgives => ?_⟩
  have hsurrenders := OpenManagers.surrenders_surrender hp.storage hm reason
  obtain ⟨m₁, hm₁, hsession⟩ := hsurrenders.forgets
  have hafter : (o.step p a).2 = o.surrender p n m reason := OpenManagers.step_of_givesUp hm hgives
  dsimp only
  rw [hafter]
  refine ⟨hsurrenders, Storage.removed_prefix, Storage.removed_eq_iff, ?_, ?_,
    hmirrored.outdates_surrender hp hn hd hm hgives,
    OpenManagers.reach_logouts hp.storage hm₁ hsession⟩
  · rintro rfl
    cases hgives with
    | tokenless htoken request => rw [OpenManagers.step_startFetch_of_none hm htoken request]
  · rintro rfl
    cases hgives with
    | logout => exact OpenManagers.answer_logout hm

set_option maxRecDepth 10000 in
/-- A manager logs out with a fetch and an exchange on the network, and the token cannot be
removed: the logout is answered with a fault, and the exchange is superseded all the same. -/
theorem giving_up_prevails_over_failed_removal :
    let kept : Entries :=
      .ofPairs [(handleKey, "alice.example"), (tokenKey, "token-1"), ("theme", "dark")]
    let script := List.replicate 8 false ++ [true]
    let o := reach (fun o a => OpenManagers.step .scripted o a) (OpenManagers.closed (kept, script))
      [.openManager, .startFetch 0 { method := .get, target := "/x" },
        .login 0 "s1" "alice.example" (.secure "app.example" ["cb"]),
        .startExchange 0 "https://app.example/cb?code=XYZ&state=s1"]
    let o₁ := (o.step .scripted (.logout 0)).2
    (o.step .scripted (.logout 0)).1 = .fault (.storage (.encoding "fault remove:token")) ∧
      o.Surrenders (fun st e => st.1 = e) o₁ 0 .logout [handleKey] ∧
      (o₁.step .scripted (.finishExchange 1 (.ok { accessToken := "token-2" }))).1 =
        .fault .superseded ∧
      (o₁.step .scripted (.finishFetch 0 (.error .unauthenticated))).2.notices = o₁.notices := by
  intro kept script o o₁
  obtain ⟨m, hm⟩ : ∃ m, o.managers[0]? = some m := ⟨_, rfl⟩
  obtain ⟨q, hfetch⟩ : ∃ q, o.waiting[0]? = some ⟨0, 0, .fetch q⟩ := ⟨_, rfl⟩
  obtain ⟨q', hexchange⟩ : ∃ q, o.waiting[1]? = some ⟨1, 0, .exchange q⟩ := ⟨_, rfl⟩
  have hcalls : Platform.scripted.storage.removals sessionKeys o.store =
      [(handleKey, .ok true), (tokenKey, .error (.encoding "fault remove:token"))] := rfl
  obtain ⟨hsurrenders, hanswer, houtdates⟩ :
      o.Surrenders (fun st e => st.1 = e) o₁ 0 .logout [handleKey] ∧
        (o.step .scripted (.logout 0)).1 = .fault (.storage (.encoding "fault remove:token")) ∧
        o.Outdates .scripted o₁ 0 := by
    obtain ⟨hsurrenders, -, -, -, hanswer, houtdates, -⟩ :=
      (giving_up_prevails Platform.scripted_faltering (rfl : (kept, script).1 = kept)
        [.openManager, .startFetch 0 { method := .get, target := "/x" },
          .login 0 "s1" "alice.example" (.secure "app.example" ["cb"]),
          .startExchange 0 "https://app.example/cb?code=XYZ&state=s1"] hm).2 _ _ .logout
    rw [hcalls] at hsurrenders hanswer
    exact ⟨hsurrenders, ((hanswer rfl).2 _).mpr ⟨tokenKey, _, by simp, rfl⟩, houtdates⟩
  clear_value o₁ o
  have hwaits : ∀ t ∈ o.waiting, t ∈ o₁.waiting := fun t ht => hsurrenders.waiting ▸ ht
  have hfetch := List.mem_of_getElem? hfetch
  have hexchange := List.mem_of_getElem? hexchange
  refine ⟨hanswer, hsurrenders, ?_, ?_⟩
  · exact (houtdates.now hexchange rfl (hwaits _ hexchange)).1 q' _ rfl
  · exact (houtdates.now hfetch rfl (hwaits _ hfetch)).2 q _ rfl

end SignIn
