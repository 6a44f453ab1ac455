import Mathlib.Tactic.SplitIfs
import SignIn.Proofs.Store.Backends
import SignIn.Proofs.Store.Faltering

/-!
# The file of a store is replaced as a whole

Whatever stands on the disk, and whatever the disk refuses, a call on a store in a file ends in one
of three ways: it fails and the file is as it was, it reads and the file is as it was, or it puts a
new file in the place of the old one, private and with all entries. Beside the file it makes nothing
but the lock, and, when the store is opened, the directories on the way. So a file that holds no
entries stays as it is, whatever is called.
-/

namespace SignIn

def Entries.drop? (e : Entries) (k : String) : Option Entries :=
  if (e.get? k).isSome then some (e.erase k) else none

theorem Entries.getD_drop? (e : Entries) (k : String) : (e.drop? k).getD e = e.erase k := by
  cases hk : e.get? k with
  | none => simp [drop?, hk, erase_of_get?_eq_none hk]
  | some v => simp [drop?, hk]

/-- A call on a store in a file that runs under the lock once. -/
inductive FileCall where
  | openStore
  | set (key value : String)
  | get (key : String)
  | remove (key : String)
  | take (key : String)
  | has (key : String)
  deriving DecidableEq

namespace FileCall

def onStore? : FileCall → Option StoreCall
  | openStore => none
  | set k v => some (.set k v)
  | get k => some (.get k)
  | remove k => some (.remove k)
  | take k => some (.take k)
  | has k => some (.has k)

def perform (f : FileStore) (c : FileCall) : Access Disk StoreAnswer :=
  match c.onStore? with
  | none => do f.openStore; return .done
  | some c => f.storage.perform c

def answer (c : FileCall) (e : Entries) : StoreAnswer :=
  match c.onStore? with
  | none => .done
  | some c => KeyMap.answer e.get? c

/-- The entries after a call that changes some, none if it changes nothing. -/
def change (e : Entries) : FileCall → Option Entries
  | set k v => some (e.set k v)
  | remove k | take k => e.drop? k
  | openStore | get _ | has _ => none

/-- What a call may make beside the file: the lock, and directories when the store is opened. -/
def Makes (f : FileStore) (c : FileCall) (q : FilePath) (n : Node) : Prop :=
  f.IsLock q n ∨
    c = .openStore ∧ n = .directory ∧ ∃ k ≤ f.directory.length, q = f.directory.take k

end FileCall

namespace FileStore

variable {f : FileStore} {d d' : Disk} {e : Entries} {α β : Type}

/-- What stands in the place of the file holds no entries: a directory, or content that cannot be
read. -/
def Malformed (f : FileStore) (d : Disk) : Prop :=
  d.find? f.path = some .directory ∨ ∃ content isPrivate fault,
    d.find? f.path = some (.file content isPrivate) ∧ decode f.shown content = .error fault

theorem malformed_iff : f.Malformed d ↔ ∀ e, ¬f.Contains d e := by
  constructor
  · rintro (hplace | ⟨content, isPrivate, fault, hfile, hdecode⟩) e hholds
    · rcases hholds with ⟨hnone, -⟩ | ⟨content, isPrivate, hfile, -⟩
      · rw [hplace] at hnone
        cases hnone
      · rw [hplace] at hfile
        cases hfile
    · rcases hholds with ⟨hnone, -⟩ | ⟨content', isPrivate', hfile', hdecode'⟩
      · rw [hfile] at hnone
        cases hnone
      · rw [hfile] at hfile'
        cases hfile'
        rw [hdecode] at hdecode'
        cases hdecode'
  · intro h
    cases hnode : d.find? f.path with
    | none => exact absurd (.inl ⟨hnode, rfl⟩) (h .empty)
    | some n =>
      cases n with
      | directory => exact .inl hnode
      | file content isPrivate =>
        cases hdecode : decode f.shown content with
        | error fault => exact .inr ⟨content, isPrivate, fault, hnode, hdecode⟩
        | ok e => exact absurd (.inr ⟨content, isPrivate, hnode, hdecode⟩) (h e)

theorem Contains.unique {e' : Entries} (h : f.Contains d e) (h' : f.Contains d e') : e = e' := by
  rcases h with ⟨hnone, rfl⟩ | ⟨content, isPrivate, hfile, hdecode⟩
  · rcases h' with ⟨-, rfl⟩ | ⟨content', isPrivate', hfile', -⟩
    · rfl
    · rw [hnone] at hfile'
      cases hfile'
  · rcases h' with ⟨hnone, -⟩ | ⟨content', isPrivate', hfile', hdecode'⟩
    · rw [hfile] at hnone
      cases hnone
    · rw [hfile] at hfile'
      cases hfile'
      exact Except.ok.inj (hdecode.symm.trans hdecode')

/-- How a call on the file ends that would make `change` of its entries and answer `answer`. -/
inductive Ends (f : FileStore) (change : Entries → Option Entries) (answer : Entries → α)
    (d : Disk) : Except StoreFault α → Disk → Prop
  | fails {fault : StoreFault} {d' : Disk} (hfile : d'.find? f.path = d.find? f.path) :
      Ends f change answer d (.error fault) d'
  | reads {e : Entries} {d' : Disk} (hholds : f.Contains d e) (hchange : change e = none)
      (hfile : d'.find? f.path = d.find? f.path) : Ends f change answer d (.ok (answer e)) d'
  | replaces {e e' : Entries} {d' : Disk} (hholds : f.Contains d e) (hchange : change e = some e')
      (hfile : d'.find? f.path = some (.file (encode e') true)) :
      Ends f change answer d (.ok (answer e)) d'

variable {change : Entries → Option Entries} {answer : Entries → α} {r : Except StoreFault α}

theorem Ends.map (h : f.Ends change answer d r d') (g : α → β) :
    f.Ends change (g ∘ answer) d (r.map g) d' := by
  cases h with
  | fails hfile => exact .fails hfile
  | reads hholds hchange hfile => exact @reads _ f change (g ∘ answer) d _ _ hholds hchange hfile
  | replaces hholds hchange hfile =>
    exact @replaces _ f change (g ∘ answer) d _ _ _ hholds hchange hfile

theorem Ends.of_same {d₀ : Disk} (h : f.Ends change answer d r d')
    (hsame : d.find? f.path = d₀.find? f.path) : f.Ends change answer d₀ r d' := by
  cases h with
  | fails hfile => exact .fails (hfile.trans hsame)
  | reads hholds hchange hfile =>
    exact .reads ((contains_congr hsame).1 hholds) hchange (hfile.trans hsame)
  | replaces hholds hchange hfile => exact .replaces ((contains_congr hsame).1 hholds) hchange hfile

theorem contains_of_load (h : f.load d = .ok e) : f.Contains d e := by
  rw [load, Disk.read] at h
  cases hseek : d.seek f.path with
  | error fault =>
    rw [hseek, Disk.seek_eq_error hseek] at h
    cases h
  | ok o =>
    obtain ⟨rfl, -⟩ := Disk.seek_eq_ok hseek
    rw [hseek] at h
    cases hnode : d.find? f.path with
    | none =>
      rw [hnode] at h
      exact .inl ⟨hnode, (Except.ok.inj h).symm⟩
    | some n =>
      simp only [hnode] at h
      cases hrefused : d.refuses (.access f.path) with
      | some fault =>
        -- A refusal does not say that the file is missing.
        obtain ⟨fault, hne⟩ := fault
        simp only [hrefused] at h
        cases fault with
        | notFound => exact absurd rfl hne
        | _ => cases h
      | none =>
        simp only [hrefused] at h
        cases n with
        | directory => cases h
        | file content isPrivate => exact .inr ⟨content, isPrivate, hnode, h⟩

/-! ## Calls -/

/-- A call ends in one of the three ways, and beside the file it makes nothing but what it may. -/
structure Settles (f : FileStore) (change : Entries → Option Entries) (answer : Entries → α)
    (Made : FilePath → Node → Prop) (d : Disk) (x : Except StoreFault α × Disk) : Prop where
  ends : f.Ends change answer d x.1 x.2
  grows : d.Grows x.2 f.path Made

variable {Made : FilePath → Node → Prop}

theorem Settles.of_same {d₀ : Disk} {x : Except StoreFault α × Disk}
    (h : f.Settles change answer Made d x) (hsame : d.find? f.path = d₀.find? f.path)
    (hgrows : d₀.Grows d f.path Made) : f.Settles change answer Made d₀ x :=
  ⟨h.ends.of_same hsame, hgrows.trans h.grows⟩

theorem Settles.mono {Made' : FilePath → Node → Prop} {x : Except StoreFault α × Disk}
    (h : f.Settles change answer Made d x) (hle : ∀ q n, Made q n → Made' q n) :
    f.Settles change answer Made' d x :=
  ⟨h.ends, h.grows.mono hle⟩

theorem Settles.bind_pure {x : Access Disk α} (h : f.Settles change answer Made d (x d))
    (g : α → β) :
    f.Settles change (fun e => g (answer e)) Made d ((x >>= fun a => pure (g a)) d) := by
  have hrun : (x >>= fun a => pure (g a)) d = ((x d).1.map g, (x d).2) := by
    rw [bind_apply]
    rcases x d with ⟨fault | a, d'⟩ <;> rfl
  rw [hrun]
  exact ⟨h.ends.map g, h.grows⟩

theorem settles_load (f : FileStore) (g : Entries → α) (d : Disk) :
    f.Settles (fun _ => none) g Made d ((f.load d).map g, d) := by
  refine ⟨?_, .of_same fun _ _ => rfl⟩
  cases hload : f.load d with
  | error fault => exact .fails rfl
  | ok e => exact @Ends.reads _ f _ g d _ _ (contains_of_load hload) rfl rfl

theorem settles_locked {body : Disk → Except StoreFault α × Disk}
    (h : ∀ d, f.Settles change answer f.IsLock d (body d)) (d : Disk) :
    f.Settles change answer f.IsLock d (f.locked body d) := by
  obtain ⟨d', hgrows, -, hlocked⟩ := f.locked_cases body d
  have hsame := find?_of_grows hgrows lockPath_ne_path.symm
  rcases hlocked with hran | ⟨-, fault, hfailed⟩
  · rw [hran]
    exact (h d').of_same hsame (hgrows.spare _)
  · rw [hfailed]
    exact ⟨.fails hsame, hgrows.spare _⟩

theorem settles_get (k : String) (d : Disk) :
    f.Settles (fun _ => none) (·.get? k) f.IsLock d (f.get k d) :=
  settles_locked (f.settles_load _) d

/-- To save the changed entries either puts them in the place of the file or leaves it as it was. -/
theorem settles_save {e' : Entries} {a : α} (hholds : f.Contains d e) (hchange : change e = some e')
    (hanswer : answer e = a) :
    f.Settles change answer Made d ((f.save e' d).1.map fun _ => a, (f.save e' d).2) := by
  subst hanswer
  rcases f.save_cases e' d with ⟨d', hsave, -, hmoved⟩ | ⟨-, fault, d', hsave, hsame⟩
  · rw [hsave]
    refine ⟨.replaces hholds hchange ?_, .of_same fun q hq => ?_⟩
    · rw [hmoved, if_pos rfl]
    · rw [hmoved, if_neg hq]
  · rw [hsave]
    exact ⟨.fails (hsame _), .of_same fun q _ => hsame q⟩

theorem settles_set (k v : String) (d : Disk) :
    f.Settles (fun e => some (e.set k v)) (fun _ => ()) f.IsLock d (f.set k v d) := by
  refine settles_locked (fun d => ?_) d
  cases hload : f.load d with
  | error fault => exact ⟨.fails rfl, .of_same fun _ _ => rfl⟩
  | ok e =>
    have hsettles : f.Settles (fun e => some (e.set k v)) (fun _ => ()) f.IsLock d _ :=
      settles_save (contains_of_load hload) rfl rfl
    simp only
    rcases hsave : f.save (e.set k v) d with ⟨fault | _, d'⟩ <;> rwa [hsave] at hsettles

theorem settles_take (k : String) (d : Disk) :
    f.Settles (·.drop? k) (·.get? k) f.IsLock d (f.take k d) := by
  refine settles_locked (fun d => ?_) d
  cases hload : f.load d with
  | error fault => exact ⟨.fails rfl, .of_same fun _ _ => rfl⟩
  | ok e =>
    have hholds := contains_of_load hload
    cases hk : e.get? k with
    | none =>
      simp only [hk]
      refine ⟨?_, .of_same fun _ _ => rfl⟩
      rw [← hk]
      exact .reads hholds (by simp [Entries.drop?, hk]) rfl
    | some v =>
      have hchange : e.drop? k = some (e.erase k) := by simp [Entries.drop?, hk]
      have hsettles : f.Settles (·.drop? k) (·.get? k) f.IsLock d _ :=
        settles_save hholds hchange hk
      simp only [hk]
      rcases hsave : f.save (e.erase k) d with ⟨fault | _, d'⟩ <;> rwa [hsave] at hsettles

theorem settles_openStore (d : Disk) :
    f.Settles (fun _ => none) (fun _ => ()) (FileCall.openStore.Makes f) d (f.openStore d) := by
  have hgrows : d.Grows (d.makeDirectories f.directory).2 f.path (FileCall.openStore.Makes f) :=
    (Disk.grows_makeDirectories d f.directory f.path).mono fun q n h => .inr ⟨rfl, h⟩
  have hsame := f.find?_makeDirectories d f.name
  rw [openStore]
  generalize d.makeDirectories f.directory = r at hgrows hsame
  obtain ⟨fault | _, made⟩ := r
  · exact ⟨.fails hsame, hgrows⟩
  · exact ((settles_locked (f.settles_load fun _ => ()) made).mono fun q n h => .inl h).of_same
      hsame hgrows

/-- A call that fails leaves the entries in the file, and any other changes them. -/
theorem Ends.contains (h : f.Ends change answer d r d') (hd : f.Contains d e) :
    (∃ fault, r = .error fault) ∧ f.Contains d' e ∨
      r = .ok (answer e) ∧ f.Contains d' ((change e).getD e) := by
  cases h with
  | @fails fault _ hfile => exact .inl ⟨⟨fault, rfl⟩, (contains_congr hfile).2 hd⟩
  | @reads e₀ _ hholds hchange hfile =>
    obtain rfl : e₀ = e := hholds.unique hd
    rw [hchange]
    exact .inr ⟨rfl, (contains_congr hfile).2 hd⟩
  | @replaces e₀ e' _ hholds hchange hfile =>
    obtain rfl : e₀ = e := hholds.unique hd
    rw [hchange]
    exact .inr ⟨rfl, .inr ⟨_, _, hfile, decode_encode f.shown e'⟩⟩

theorem ends_of_settles {x : Access Disk α} (h : ∀ d, f.Settles change answer Made d (x d))
    {Q : α → Entries → Prop} (hQ : Q (answer e) ((change e).getD e)) :
    SignIn.Ends f.Contains x e Q fun _ t => t = e := by
  intro d hd
  rcases (h d).ends.contains hd with ⟨⟨fault, hfault⟩, hsame⟩ | ⟨hanswer, hchanged⟩
  · rw [hfault]
    exact ⟨e, hsame, rfl⟩
  · rw [hanswer]
    exact ⟨_, hchanged, hQ⟩

/-- Whatever the disk refuses, the store in a file is one whose calls go as in memory, or fail and
change nothing. -/
theorem platform_faltering (f : FileStore) (endpoints : Endpoints) :
    (Platform.mk f.storage f.openStore endpoints).Faltering f.Contains where
  storage :=
    { set := fun k v _ => ends_of_settles (settles_set k v) rfl
      get := fun k _ => ends_of_settles (settles_get k) ⟨rfl, rfl⟩
      remove := fun k e =>
        ends_of_settles (fun d => (settles_take k d).bind_pure Option.isSome) (e.getD_drop? k)
      take := fun k e => ends_of_settles (settles_take k) ⟨rfl, e.getD_drop? k⟩ }
  opens _ := ends_of_settles settles_openStore rfl

end FileStore

namespace FileCall

variable {f : FileStore} {c : FileCall} {d : Disk} {e : Entries}

theorem settles (f : FileStore) (c : FileCall) (d : Disk) :
    f.Settles c.change c.answer (c.Makes f) d (c.perform f d) := by
  have hlock : ∀ q n, f.IsLock q n → c.Makes f q n := fun _ _ h => .inl h
  cases c with
  | openStore => exact (FileStore.settles_openStore d).bind_pure fun _ => StoreAnswer.done
  | set k v => exact ((FileStore.settles_set k v d).bind_pure fun _ => StoreAnswer.done).mono hlock
  | get k => exact ((FileStore.settles_get k d).bind_pure StoreAnswer.value).mono hlock
  | remove k =>
    refine FileStore.Settles.mono ?_ hlock
    exact ((FileStore.settles_take k d).bind_pure Option.isSome).bind_pure StoreAnswer.flag
  | take k => exact ((FileStore.settles_take k d).bind_pure StoreAnswer.value).mono hlock
  | has k =>
    refine FileStore.Settles.mono ?_ hlock
    exact ((FileStore.settles_get k d).bind_pure Option.isSome).bind_pure StoreAnswer.flag

theorem perform_openStore (h : f.Fits d e) :
    (FileCall.openStore.perform f d).1 = .ok (FileCall.openStore.answer e) := by
  obtain ⟨d', hopened, -⟩ := h.openStore
  change ((f.openStore >>= fun _ => pure StoreAnswer.done) d).1 = _
  rw [bind_apply, hopened]
  rfl

theorem perform_of_holds (h : f.Holds d e ∨ c = .openStore ∧ f.Fits d e) :
    (c.perform f d).1 = .ok (c.answer e) := by
  rcases h with h | ⟨rfl, h⟩
  · cases hc : c.onStore? with
    | none =>
      cases c with
      | openStore => exact perform_openStore h.toFits
      | _ => cases hc
    | some call =>
      have hmirror := (FileStore.storage_reliable.perform call d e h).1
      obtain ⟨e', hmemory, -⟩ := Storage.perform_memory call e
      rw [hmemory] at hmirror
      rw [perform, answer, hc]
      exact hmirror
  · exact perform_openStore h

/-! ## Runs -/

/-- Carries out calls one after the other. What the disk refuses may change before each. -/
def run (f : FileStore) (d : Disk) :
    List (Refusals × FileCall) → List (Except StoreFault StoreAnswer) × Disk
  | [] => ([], d)
  | (refuses, c) :: steps =>
    let first := c.perform f { d with refuses }
    let rest := run f first.2 steps
    (first.1 :: rest.1, rest.2)

/-- The entries that calls and their answers lead to: a call that failed left them alone, any other
was answered by them and changed them. -/
inductive Leads : Entries → List (FileCall × Except StoreFault StoreAnswer) → Entries → Prop
  | nil (e : Entries) : Leads e [] e
  | failed {c : FileCall} {fault : StoreFault} {e e' : Entries}
      {rest : List (FileCall × Except StoreFault StoreAnswer)} (h : Leads e rest e') :
      Leads e ((c, .error fault) :: rest) e'
  | done {c : FileCall} {e e' : Entries}
      {rest : List (FileCall × Except StoreFault StoreAnswer)}
      (h : Leads ((c.change e).getD e) rest e') : Leads e ((c, .ok (c.answer e)) :: rest) e'

theorem run_cons (f : FileStore) (d : Disk) (refuses : Refusals) (c : FileCall)
    (steps : List (Refusals × FileCall)) :
    run f d ((refuses, c) :: steps) =
      let first := c.perform f { d with refuses }
      (first.1 :: (run f first.2 steps).1, (run f first.2 steps).2) := rfl

theorem run_single (f : FileStore) (d : Disk) (refuses : Refusals) (c : FileCall) :
    (run f d [(refuses, c)]).2 = (c.perform f { d with refuses }).2 := rfl

theorem perform_of_malformed (h : f.Malformed d) :
    (∃ fault, (c.perform f d).1 = .error fault) ∧
      (c.perform f d).2.find? f.path = d.find? f.path := by
  have hends := (c.settles f d).ends
  generalize (c.perform f d).1 = r, (c.perform f d).2 = d' at hends
  cases hends with
  | @fails fault _ hfile => exact ⟨⟨fault, rfl⟩, hfile⟩
  | reads hholds => exact absurd hholds (FileStore.malformed_iff.1 h _)
  | replaces hholds => exact absurd hholds (FileStore.malformed_iff.1 h _)

theorem run_of_malformed (steps : List (Refusals × FileCall)) (h : f.Malformed d) :
    (∀ r ∈ (run f d steps).1, ∃ fault, r = .error fault) ∧
      (run f d steps).2.find? f.path = d.find? f.path := by
  induction steps generalizing d with
  | nil => exact ⟨by simp [run], rfl⟩
  | cons step steps ih =>
    obtain ⟨refuses, c⟩ := step
    have hbefore : f.Malformed { d with refuses } := h
    obtain ⟨hfault, hsame⟩ := perform_of_malformed (c := c) hbefore
    have hstill : f.Malformed (c.perform f { d with refuses }).2 := by
      rwa [FileStore.Malformed, hsame]
    obtain ⟨hfaults, hfile⟩ := ih hstill
    rw [run_cons]
    exact ⟨List.forall_mem_cons.2 ⟨hfault, hfaults⟩, hfile.trans hsame⟩

theorem perform_of_contains (h : f.Contains d e) :
    ∃ e', (∀ rest e'', Leads e' rest e'' → Leads e ((c, (c.perform f d).1) :: rest) e'') ∧
      f.Contains (c.perform f d).2 e' ∧
      ((c.perform f d).2.find? f.path = d.find? f.path ∧ e' = e ∨
        (c.perform f d).2.find? f.path = some (.file (FileStore.encode e') true)) := by
  have hends := (c.settles f d).ends
  generalize (c.perform f d).1 = r, (c.perform f d).2 = d' at hends
  cases hends with
  | fails hfile =>
    exact ⟨e, fun _ _ => .failed, (FileStore.contains_congr hfile).2 h, .inl ⟨hfile, rfl⟩⟩
  | @reads e₀ _ hholds hchange hfile =>
    obtain rfl : e₀ = e := hholds.unique h
    refine ⟨e₀, fun _ _ hrest => .done ?_, (FileStore.contains_congr hfile).2 h, .inl ⟨hfile, rfl⟩⟩
    rwa [hchange]
  | @replaces e₀ e' _ hholds hchange hfile =>
    obtain rfl : e₀ = e := hholds.unique h
    refine ⟨e', fun _ _ hrest => .done ?_, .inr ⟨_, _, hfile, FileStore.decode_encode _ _⟩,
      .inr hfile⟩
    rwa [hchange]

/-- What calls answer leads from the entries in the file to those in the file after them, which is
the file as it was or a private one. -/
theorem run_of_contains (steps : List (Refusals × FileCall)) (h : f.Contains d e) :
    ∃ e', Leads e ((steps.map Prod.snd).zip (run f d steps).1) e' ∧
      f.Contains (run f d steps).2 e' ∧
      ((run f d steps).2.find? f.path = d.find? f.path ∧ e' = e ∨
        (run f d steps).2.find? f.path = some (.file (FileStore.encode e') true)) := by
  induction steps generalizing d e with
  | nil => exact ⟨e, .nil e, h, .inl ⟨rfl, rfl⟩⟩
  | cons step steps ih =>
    obtain ⟨refuses, c⟩ := step
    have hbefore : f.Contains { d with refuses } e := h
    obtain ⟨e₁, hleads, hholds, hfirst⟩ := perform_of_contains (c := c) hbefore
    obtain ⟨e₂, hrest, hafter, hlast⟩ := ih hholds
    rw [run_cons]
    refine ⟨e₂, hleads _ _ hrest, hafter, ?_⟩
    rcases hlast with ⟨hsame, rfl⟩ | hreplaced
    · rcases hfirst with ⟨hkept, rfl⟩ | hreplaced
      · exact .inl ⟨hsame.trans hkept, rfl⟩
      · exact .inr (hsame.trans hreplaced)
    · exact .inr hreplaced

theorem grows_run (f : FileStore) (d : Disk) (steps : List (Refusals × FileCall)) :
    d.Grows (run f d steps).2 f.path fun q n => ∃ step ∈ steps, step.2.Makes f q n := by
  induction steps generalizing d with
  | nil => exact .of_same fun _ _ => rfl
  | cons step steps ih =>
    obtain ⟨refuses, c⟩ := step
    have hfirst : d.Grows (c.perform f { d with refuses }).2 f.path
        fun q n => ∃ step ∈ (refuses, c) :: steps, step.2.Makes f q n :=
      (c.settles f { d with refuses }).grows.mono fun q n h => ⟨_, List.mem_cons_self, h⟩
    refine hfirst.trans ((ih _).mono ?_)
    rintro q n ⟨step, hstep, h⟩
    exact ⟨step, List.mem_cons_of_mem _ hstep, h⟩

theorem find?_newPath_run (f : FileStore) (d : Disk) (steps : List (Refusals × FileCall))
    (n : Nat) : (run f d steps).2.find? (f.newPath n) = d.find? (f.newPath n) := by
  refine (grows_run f d steps).same (FileStore.newPath_ne_path n) ?_
  rintro node ⟨⟨-, c⟩, -, ⟨hlock, -⟩ | ⟨-, -, k, -, hk⟩⟩
  · exact absurd hlock (FileStore.newPath_ne_lockPath n)
  · exact absurd hk.symm (f.take_ne_sibling k _)

end FileCall

/-- Whatever stands on the disk and whatever it refuses, a call that fails leaves the file as it
was, and so does one that changes no entry; one that changes some puts a private file in its place,
which holds just the changed entries. A file that holds no entries stays as it is, whatever is
called. Calls that follow one another lead from the entries in the file to those in the file after
them. Nothing is made beside the file but the lock and, for opening, the directories on the way, and
no new file is left. Where the store can be opened it is, and then no call fails. -/
theorem file_is_replaced_as_a_whole (f : FileStore) :
    (∀ (c : FileCall) (d : Disk),
      (∀ fault, (c.perform f d).1 = .error fault →
        (c.perform f d).2.find? f.path = d.find? f.path) ∧
      ∀ a, (c.perform f d).1 = .ok a → ∃ e, f.Contains d e ∧ a = c.answer e ∧
        (c.change e = none → (c.perform f d).2.find? f.path = d.find? f.path) ∧
        ∀ e', c.change e = some e' → ∃ content,
          (c.perform f d).2.find? f.path = some (.file content true) ∧
            FileStore.decode f.shown content = .ok e') ∧
    (∀ (steps : List (Refusals × FileCall)) (d : Disk),
      (f.Malformed d → (∀ r ∈ (FileCall.run f d steps).1, ∃ fault, r = .error fault) ∧
        (FileCall.run f d steps).2.find? f.path = d.find? f.path) ∧
      (∀ e, f.Contains d e → ∃ e',
        FileCall.Leads e ((steps.map Prod.snd).zip (FileCall.run f d steps).1) e' ∧
        f.Contains (FileCall.run f d steps).2 e' ∧
        ((FileCall.run f d steps).2.find? f.path = d.find? f.path ∧ e' = e ∨
          (FileCall.run f d steps).2.find? f.path =
            some (.file (FileStore.encode e') true))) ∧
      (d.Grows (FileCall.run f d steps).2 f.path
        fun q n => ∃ step ∈ steps, step.2.Makes f q n) ∧
      ∀ n, (FileCall.run f d steps).2.find? (f.newPath n) = d.find? (f.newPath n)) ∧
    ∀ (c : FileCall) (d : Disk) (e : Entries), f.Holds d e ∨ c = .openStore ∧ f.Fits d e →
      (c.perform f d).1 = .ok (c.answer e) := by
  refine ⟨fun c d => ?_, fun steps d => ⟨fun h => FileCall.run_of_malformed steps h,
    fun e h => FileCall.run_of_contains steps h, FileCall.grows_run f d steps,
    FileCall.find?_newPath_run f d steps⟩,
    fun c d e h => FileCall.perform_of_holds h⟩
  have hends := (c.settles f d).ends
  generalize (c.perform f d).1 = r, (c.perform f d).2 = d' at hends
  cases hends with
  | fails hfile => exact ⟨fun _ _ => hfile, by simp⟩
  | @reads e _ hholds hchange hfile =>
    refine ⟨by simp, fun a ha => ⟨e, hholds, (Except.ok.inj ha).symm, fun _ => hfile, ?_⟩⟩
    simp [hchange]
  | @replaces e e' _ hholds hchange hfile =>
    refine ⟨by simp, fun a ha => ⟨e, hholds, (Except.ok.inj ha).symm, ?_, ?_⟩⟩
    · simp [hchange]
    · intro e'' he''
      obtain rfl : e' = e'' := Option.some.inj (hchange.symm.trans he'')
      exact ⟨_, hfile, FileStore.decode_encode f.shown e'⟩

/-- A file of one brace stays, an empty object that others may read becomes private, and stays as it
is where no file can be moved to its place. -/
theorem file_is_replaced_as_a_whole_in_base :
    let f : FileStore := ⟨["base"], "session.json", "base/session.json"⟩
    let disk (content : String) : Disk := { nodes := [(["base"], .directory),
      (["base", "session.json"], .file (Bytes.ofText content) false)] }
    let fixed : Refusals := fun c => if c = .move (f.newPath 0) f.path then
      some ⟨.alreadyExists, by decide⟩ else none
    let after (refuses : Refusals) (content : String) : Disk :=
      (FileCall.run f (disk content) [(refuses, .set "key" "ü")]).2
    f.Malformed (disk "\x7b") ∧
      (after (fun _ => none) "\x7b").find? f.path = some (.file (Bytes.ofText "\x7b") false) ∧
      f.Holds (disk "\x7b\x7d") .empty ∧
      (∃ content, (after (fun _ => none) "\x7b\x7d").find? f.path = some (.file content true) ∧
        FileStore.decode f.shown content = .ok (Entries.empty.set "key" "ü")) ∧
      (after fixed "\x7b\x7d").find? f.path = some (.file (Bytes.ofText "\x7b\x7d") false) ∧
      (after fixed "\x7b\x7d").find? (f.newPath 0) = none := by
  intro f disk fixed after
  obtain ⟨hcall, hrun, hopened⟩ := file_is_replaced_as_a_whole f
  have hmalformed : f.Malformed (disk "\x7b") := .inr ⟨_, _, _, rfl, rfl⟩
  have hmade : ∀ k ≤ f.directory.length,
      (disk "\x7b\x7d").find? (f.directory.take k) = some .directory := by decide
  have hholds : f.Holds (disk "\x7b\x7d") .empty :=
    { willing := fun _ => rfl
      free := fun k hk _ _ => by rw [hmade k hk]; simp
      lock := by decide
      content := .inr ⟨_, _, rfl, rfl⟩
      made := hmade }
  have hok := hopened (.set "key" "ü") _ _ (.inl hholds)
  obtain ⟨e, hcontains, -, -, hreplaced⟩ := (hcall (.set "key" "ü") _).2 _ hok
  obtain rfl : e = .empty := hcontains.unique hholds.content
  have hafter (refuses : Refusals) (content : String) : after refuses content =
      ((FileCall.set "key" "ü").perform f { disk content with refuses }).2 :=
    FileCall.run_single f (disk content) refuses _
  have hfails : ((FileCall.set "key" "ü").perform f { disk "\x7b\x7d" with refuses := fixed }).1 =
      .error (.io .alreadyExists) := by decide
  refine ⟨hmalformed, ((hrun [(_, .set "key" "ü")] _).1 hmalformed).2, hholds, ?_, ?_, ?_⟩
  · rw [hafter]
    exact hreplaced _ rfl
  · rw [hafter]
    exact (hcall (.set "key" "ü") { disk "\x7b\x7d" with refuses := fixed }).1 _ hfails
  · exact (hrun [(fixed, .set "key" "ü")] (disk "\x7b\x7d")).2.2.2 0

end SignIn
