import SignIn.Proofs.Session.Story
import SignIn.Proofs.Store.Snapshot

/-!
# A manager that is opened among others

A manager is opened on a snapshot. If no key was overtaken while this was read, the manager is the
one that is opened on what the store held at one moment, with a token that was beside its handle,
and a session that was in order all the time is left alone. Else it may come up with the handle of
one session and the token of another, or clear a session that has a handle.
-/

namespace SignIn

variable {σ : Type}

theorem ok_of_asOp {α : Type} {x : Access σ α} {st : σ} {a : α}
    (h : (Access.asOp x st).1 = .ok a) : (x st).1 = .ok a := by
  unfold Access.asOp at h
  generalize x st = r at h
  obtain ⟨fault | _, st'⟩ := r
  · cases h
  · exact congrArg _ (Except.ok.inj h)

namespace PersistedSession

def manager (kept : PersistedSession) : Manager :=
  match kept.token, kept.handle with
  | some token, some handle =>
    { phase := .authenticated, handle := some handle, token := some token }
  | some _, none => {}
  | none, handle =>
    { phase := if kept.state.isSome then .loginPending else .unauthenticated, handle }

/-- Removes what cannot stay: the state beside a session, or everything beside a token without a
handle. -/
def tidy (kept : PersistedSession) (s : Storage σ) : Access σ Unit :=
  match kept.token, kept.handle, kept.state with
  | some _, some _, some _ => do
    let _ ← s.removeState
    return ()
  | some _, none, _ => s.clear
  | _, _, _ => return ()

def Named (kept : PersistedSession) : Prop := kept.token.isSome → kept.handle.isSome

theorem of_token_manager {kept : PersistedSession} {token : String}
    (h : kept.manager.token = some token) :
    kept.token = some token ∧ ∃ handle, kept.handle = some handle ∧
      kept.manager.handle = some handle := by
  obtain ⟨handle, own, state⟩ := kept
  cases own with
  | none => cases h
  | some own =>
    cases handle with
    | none => cases h
    | some handle => exact ⟨h, handle, rfl, rfl⟩

theorem tidy_of_named {kept : PersistedSession} (h : kept.Named) (s : Storage σ) (st : σ) :
    (kept.tidy s st).2 = st ∨ (kept.tidy s st).2 = (s.remove stateKey st).2 := by
  obtain ⟨handle, token, state⟩ := kept
  cases token with
  | none => exact .inl rfl
  | some token =>
    cases handle with
    | none => cases h rfl
    | some handle =>
      cases state with
      | none => exact .inl rfl
      | some state =>
        refine .inr ?_
        simp only [tidy, Storage.removeState, bind_apply, pure_apply]
        generalize s.remove stateKey st = r
        obtain ⟨fault | _, st'⟩ := r <;> rfl

end PersistedSession

namespace Manager

/-- To open a manager is to read what is kept and to tidy it. -/
theorem openOn_eq (s : Storage σ) :
    openOn s = (do
      let kept ← Access.asOp s.snapshot
      Access.asOp (kept.tidy s)
      return kept.manager) := by
  unfold openOn
  congr 1
  funext ⟨handle, token, state⟩ st
  cases token with
  | none => rfl
  | some token =>
    cases handle with
    | none => rfl
    | some handle =>
      cases state with
      | none => rfl
      | some state =>
        simp only [PersistedSession.tidy, bind_apply, Access.asOp, Option.isSome_some, if_true]
        generalize s.removeState st = r
        obtain ⟨fault | _, st'⟩ := r <;> rfl

theorem openOn_apply (s : Storage σ) (st : σ) :
    openOn s st = match s.snapshot st with
      | (.error fault, st) => (.error (.storage fault), st)
      | (.ok kept, st) =>
        match kept.tidy s st with
        | (.error fault, st) => (.error (.storage fault), st)
        | (.ok (), st) => (.ok kept.manager, st) := by
  rw [openOn_eq, bind_apply]
  unfold Access.asOp
  generalize s.snapshot st = r
  obtain ⟨fault | kept, st'⟩ := r
  · rfl
  dsimp only
  rw [bind_apply]
  generalize kept.tidy s st' = r
  obtain ⟨fault | _, st''⟩ := r <;> rfl

theorem exists_snapshot_of_openOn {s : Storage σ} {st : σ} {m : Manager}
    (h : (openOn s st).1 = .ok m) : ∃ kept, (s.snapshot st).1 = .ok kept ∧ m = kept.manager := by
  rw [openOn_eq] at h
  obtain ⟨kept, hkept, h⟩ := exists_of_bind h
  obtain ⟨_, -, h⟩ := exists_of_bind h
  exact ⟨kept, ok_of_asOp hkept, (Except.ok.inj h).symm⟩

theorem openOn_of_named {s : Storage σ} {st : σ}
    (h : ∀ kept, (s.snapshot st).1 = .ok kept → kept.Named) :
    (openOn s st).2 = (s.snapshot st).2 ∨
      (openOn s st).2 = (s.remove stateKey (s.snapshot st).2).2 := by
  rw [openOn_apply]
  generalize s.snapshot st = r at h
  obtain ⟨fault | kept, st'⟩ := r
  · exact .inl rfl
  have htidy := kept.tidy_of_named (h kept rfl) s st'
  dsimp only
  generalize kept.tidy s st' = r at htidy
  obtain ⟨fault | _, st''⟩ := r <;> exact htidy

theorem openOn_kept (t : Entries) : (openOn .memory t).1 = .ok t.kept.manager := by
  rw [openOn_memory]
  unfold Entries.kept PersistedSession.manager
  cases t.get? tokenKey with
  | none => rfl
  | some token =>
    cases t.get? handleKey with
    | none => rfl
    | some handle => rfl

end Manager

namespace Reading

/-- What is read in a run and the manager that is opened on it are of one moment of the reading. -/
structure Faithful (r : Reading) (s : Storage σ) (w : Shared σ) : Prop where
  /-- what a snapshot answers was in the store at one moment -/
  record : ∀ kept, (s.shared.snapshot w).1 = .ok kept → ∃ i ≤ r.last, kept = (r.moment i).kept
  /-- a manager is opened as it would have been at one moment -/
  manager : ∀ m, (Manager.openOn s.shared w).1 = .ok m →
    ∃ i ≤ r.last, (Manager.openOn .memory (r.moment i)).1 = .ok m
  /-- the token of a manager that is opened was beside its handle -/
  paired : ∀ m token, (Manager.openOn s.shared w).1 = .ok m → m.token = some token →
    ∃ handle, m.handle = some handle ∧ ∃ i ≤ r.last,
      (r.moment i).get? handleKey = some handle ∧ (r.moment i).get? tokenKey = some token
  /-- of a session that is in order all the time no more than a state is removed -/
  spared : (∀ i ≤ r.last, (r.moment i).kept.Named) →
    (Manager.openOn s.shared w).2 = (s.shared.snapshot w).2 ∨
      (Manager.openOn s.shared w).2 = (s.shared.remove stateKey (s.shared.snapshot w).2).2

variable {s : Storage σ} {Holds : σ → Entries → Prop} {w : Shared σ} {t : Entries}

theorem faithful_of_ofOneMoment (hs : s.Faltering Holds) (h : Holds w.store t)
    (hone : (s.readingOn w t).OfOneMoment) : (s.readingOn w t).Faithful s w := by
  obtain ⟨i, hi, hmoment⟩ := hone
  have hrecord : ∀ kept, (s.shared.snapshot w).1 = .ok kept →
      kept = ((s.readingOn w t).moment i).kept := fun kept hkept =>
    (hs.eq_record_of_snapshot h hkept).trans hmoment
  refine ⟨fun kept hkept => ⟨i, hi, hrecord kept hkept⟩, fun m hm => ?_,
    fun m token hm htoken => ?_, fun hnamed => ?_⟩
  · obtain ⟨kept, hkept, rfl⟩ := Manager.exists_snapshot_of_openOn hm
    obtain rfl := hrecord kept hkept
    exact ⟨i, hi, Manager.openOn_kept _⟩
  · obtain ⟨kept, hkept, rfl⟩ := Manager.exists_snapshot_of_openOn hm
    obtain ⟨htoken, handle, hhandle, hmanager⟩ := PersistedSession.of_token_manager htoken
    obtain rfl := hrecord kept hkept
    exact ⟨handle, hmanager, i, hi, hhandle, htoken⟩
  · exact Manager.openOn_of_named fun kept hkept => hrecord kept hkept ▸ hnamed i hi

theorem ofOneMoment_of_faithful (hs : s.Faltering Holds) (h : Holds w.store t)
    (hanswer : ∃ kept, (s.shared.snapshot w).1 = .ok kept)
    (hfaithful : (s.readingOn w t).Faithful s w) : (s.readingOn w t).OfOneMoment := by
  obtain ⟨kept, hkept⟩ := hanswer
  obtain ⟨i, hi, hmoment⟩ := hfaithful.record kept hkept
  exact ⟨i, hi, (hs.eq_record_of_snapshot h hkept).symm.trans hmoment⟩

/-- Opening a manager among others is faithful if no key is overtaken while it is read. If no value
that is read comes back after another one, and the snapshot does not fail, it is so only then. -/
theorem faithful_iff_not_overtaken (hs : s.Faltering Holds) (h : Holds w.store t) :
    (¬ (s.readingOn w t).Overtaken → (s.readingOn w t).Faithful s w) ∧
      ((s.readingOn w t).NothingReturns → (∃ kept, (s.shared.snapshot w).1 = .ok kept) →
        ((s.readingOn w t).Faithful s w ↔ ¬ (s.readingOn w t).Overtaken)) := by
  have hfaithful (hovertaken : ¬ (s.readingOn w t).Overtaken) : (s.readingOn w t).Faithful s w :=
    faithful_of_ofOneMoment hs h (ofOneMoment_of_not_overtaken hovertaken)
  refine ⟨hfaithful, fun hreturns hanswer => ⟨fun hwhole => ?_, hfaithful⟩⟩
  rw [← ofOneMoment_iff_not_overtaken hreturns]
  exact ofOneMoment_of_faithful hs h hanswer hwhole

/-- A login that is completed while the token is read: handle and token were in the store together
after it. -/
theorem faithful_of_completed_login :
    let t := (Entries.empty.set handleKey "alice.example").set stateKey "s1"
    let w : Shared Entries := ⟨t, [[],
      [.take stateKey, .set handleKey "alice.example", .set tokenKey "token-A"]]⟩
    (Storage.memory.readingOn w t).Faithful .memory w ∧
      ¬ (Storage.memory.readingOn w t).Overtaken ∧
      (Manager.openOn Storage.memory.shared w).1 = .ok
        { phase := .authenticated, handle := some "alice.example", token := some "token-A" } := by
  intro t w
  obtain ⟨hfaithful, hiff⟩ :=
    faithful_iff_not_overtaken Storage.memory_reliable.faltering (rfl : w.store = t)
  have hwhole := hfaithful (by decide)
  exact ⟨hwhole, (hiff ⟨by decide, by decide, by decide⟩ ⟨_, rfl⟩).mp hwhole, rfl⟩

/-- A manager logs in anew between two reads of another that is opened: this has the handle of the
old session and the token of the new one. If it is the first login of all, the session is cleared
as soon as it is there. -/
theorem not_faithful_of_login :
    (let t := (Entries.empty.set handleKey "alice.example").set tokenKey "token-A"
    let login : List KeyCall := [.remove tokenKey, .set handleKey "bob.example",
      .set stateKey "s1", .take stateKey, .set handleKey "bob.example", .set tokenKey "token-B"]
    let w : Shared Entries := ⟨t, [[], login]⟩
    ((OpenManagers.closed t).run .sample
      [.openManager, .login 0 "s1" "bob.example" (.secure "app.example" ["cb"]),
        .startExchange 0 "https://app.example/cb?code=B&state=s1",
        .finishExchange 0 (.ok { accessToken := "token-B" })]).store =
          Storage.memory.makeAll t login ∧
      (Manager.openOn Storage.memory.shared w).1 = .ok
        { phase := .authenticated, handle := some "alice.example", token := some "token-B" } ∧
      ¬ (Storage.memory.readingOn w t).Faithful .memory w) ∧
    (let login : List KeyCall := [.set handleKey "alice.example", .set stateKey "s1",
      .take stateKey, .set handleKey "alice.example", .set tokenKey "token-A"]
    let w : Shared Entries := ⟨.empty, [[], login]⟩
    (Storage.memory.makeAll .empty login).kept = ⟨some "alice.example", some "token-A", none⟩ ∧
      Manager.openOn Storage.memory.shared w = (.ok {}, ⟨.empty, []⟩) ∧
      ¬ (Storage.memory.readingOn w .empty).Faithful .memory w) := by
  refine ⟨⟨rfl, rfl, fun h => ?_⟩, rfl, rfl, fun h => ?_⟩
  · obtain ⟨i, hi, hrecord⟩ := h.record ⟨some "alice.example", some "token-B", none⟩ rfl
    revert i
    decide
  · obtain ⟨i, hi, hrecord⟩ := h.record ⟨none, some "token-A", none⟩ rfl
    revert i
    decide

end Reading

end SignIn
