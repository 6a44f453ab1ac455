import Mathlib.Data.List.Nodup
import Mathlib.Data.List.Perm.Subperm
import SignIn.Proofs.Disk
import SignIn.Proofs.Json.Records
import SignIn.Proofs.Store.Reliable
import SignIn.Store.FileStorage

/-!
# The store in a file

What a call does on any disk: under the lock nothing is made but the lock, and saving either puts a
new file in the place of the file or leaves everything as it was. There is always a free name for
the new file, which is moved away in the call that makes it.

On a disk that refuses nothing, where the store can be opened, and whose file is missing or holds
entries, no call fails: it answers as the same call on those entries in memory, and the file holds
what the memory holds after it.
-/

namespace SignIn

theorem Entries.ofPairs_list (e : Entries) : Entries.ofPairs e.list = e := by
  have hfold : ∀ (l : List (String × String)) (a : Entries),
      (l.foldl (fun e p => e.set p.1 p.2) a).list =
        l.foldl (fun acc p => KeyValue.insert p.1 p.2 acc) a.list := by
    intro l
    induction l with
    | nil => intro a; rfl
    | cons p l ih => intro a; exact ih (a.set p.1 p.2)
  have hlist : (Entries.ofPairs e.list).list = e.list := by
    rw [Entries.ofPairs, hfold]
    exact KeyValue.foldl_insert (l := []) e.sorted
  cases e
  generalize Entries.ofPairs _ = a at hlist ⊢
  cases a
  cases hlist
  rfl

namespace FileStore

variable {f : FileStore} {d : Disk} {e : Entries}

theorem sibling_ne {name other : String} (h : name.length ≠ other.length) :
    f.directory ++ [name] ≠ f.directory ++ [other] := by
  intro hpath
  have hname := (List.cons.inj (List.append_cancel_left hpath)).1
  exact h (congrArg String.length hname)

theorem length_lock : (f.name ++ ".lock").length = f.name.length + 5 := by
  rw [String.length_append, show ".lock".length = 5 from rfl]

theorem length_new (n : Nat) :
    ("." ++ f.name ++ ".tmp." ++ String.ofList (List.replicate n '1')).length =
      f.name.length + 6 + n := by
  simp only [String.length_append, String.length_ofList, List.length_replicate,
    show ".".length = 1 from rfl, show ".tmp.".length = 5 from rfl]
  omega

theorem lockPath_ne_path : f.lockPath ≠ f.path := sibling_ne (by rw [length_lock]; omega)

theorem newPath_ne_path (n : Nat) : f.newPath n ≠ f.path := sibling_ne (by rw [length_new]; omega)

theorem newPath_ne_lockPath (n : Nat) : f.newPath n ≠ f.lockPath :=
  sibling_ne (by rw [length_new, length_lock]; omega)

theorem take_ne_sibling (f : FileStore) (k : Nat) (name : String) :
    f.directory.take k ≠ f.directory ++ [name] :=
  Disk.take_ne_child k

theorem sibling_ne_nil (f : FileStore) (name : String) : f.directory ++ [name] ≠ [] := by simp

theorem newPath_injective (f : FileStore) : Function.Injective f.newPath := by
  intro m n hpath
  have hname := (List.cons.inj (List.append_cancel_left hpath)).1
  have hlength := congrArg String.length hname
  rw [length_new, length_new] at hlength
  omega

/-- Of more new files than there are nodes, one has a name where nothing stands. -/
theorem find?_freePath (f : FileStore) (d : Disk) : d.find? (f.freePath d) = none := by
  let tallies := List.range (d.nodes.length + 1)
  have hfree : ∃ n ∈ tallies, d.find? (f.newPath n) = none := by
    by_contra htaken
    have hnodup : (tallies.map f.newPath).Nodup :=
      List.Nodup.map f.newPath_injective List.nodup_range
    have hsub : tallies.map f.newPath ⊆ d.nodes.map Prod.fst := by
      intro q hq
      obtain ⟨n, hn, rfl⟩ := List.mem_map.1 hq
      exact Disk.mem_of_find?_ne_none (f.sibling_ne_nil _) fun hnone => htaken ⟨n, hn, hnone⟩
    have hlength := (List.Nodup.subperm hnodup hsub).length_le
    rw [List.length_map, List.length_map, List.length_range] at hlength
    omega
  obtain ⟨n, hn, hnone⟩ := hfree
  have hsome : ((tallies.find? fun n => (d.find? (f.newPath n)).isNone).isSome) := by
    rw [List.find?_isSome]
    exact ⟨n, hn, by rw [hnone]; rfl⟩
  obtain ⟨m, hm⟩ := Option.isSome_iff_exists.1 hsome
  have hnew : f.freePath d = f.newPath m := by rw [freePath, hm, Option.getD_some]
  rw [hnew]
  simpa using List.find?_some hm

/-- The file of the store is missing and there are no entries, or its content decodes to the
entries. -/
def Contains (f : FileStore) (d : Disk) (e : Entries) : Prop :=
  (d.find? f.path = none ∧ e = .empty) ∨
    ∃ content isPrivate, d.find? f.path = some (.file content isPrivate) ∧
      decode f.shown content = .ok e

/-- The store can be opened on the disk: it refuses nothing, no file is in the way of the store's
directory, no directory in the way of its lock, and its file contains the entries. -/
structure Fits (f : FileStore) (d : Disk) (e : Entries) : Prop where
  willing : d.Willing
  free : ∀ k ≤ f.directory.length, ∀ content isPrivate,
    d.find? (f.directory.take k) ≠ some (.file content isPrivate)
  lock : d.find? f.lockPath ≠ some .directory
  content : f.Contains d e

/-- The store was opened on the disk, and its file contains the entries. -/
structure Holds (f : FileStore) (d : Disk) (e : Entries) : Prop extends f.Fits d e where
  made : ∀ k ≤ f.directory.length, d.find? (f.directory.take k) = some .directory

/-! ## The content of the file -/

theorem decode_encode (shown : String) (e : Entries) : decode shown (encode e) = .ok e := by
  obtain ⟨s, hs⟩ := Json.exists_writeTexts (.indented 0) e.list
  have hblank : Text.isBlankText ("\x7b" ++ s) = false := by
    simp only [Text.isBlankText, String.toList_append, List.all_append, Bool.and_eq_false_iff]
    exact Or.inl (by decide)
  have htext : Bytes.text? (encode e) = some ("\x7b" ++ s) := by
    rw [encode]
    exact (congrArg Bytes.text? hs).trans (Bytes.text?_ofText _)
  have hread : Json.decodeTexts (encode e) = .ok e.list :=
    Json.decodeTexts_write (.indented 0) e.sorted
  rw [decode, htext]
  simp only [hblank, Bool.false_eq_true, if_false, hread, Entries.ofPairs_list]

namespace Fits

theorem seek (h : f.Fits d e) (name : String) :
    d.seek (f.directory ++ [name]) = .ok (d.find? (f.directory ++ [name])) :=
  Disk.seek_child h.free name

theorem load (h : f.Fits d e) : f.load d = .ok e := by
  have hseek : d.seek f.path = .ok (d.find? f.path) := h.seek f.name
  rw [FileStore.load]
  rcases h.content with ⟨hnone, rfl⟩ | ⟨content, isPrivate, hfile, hdecode⟩
  · rw [Disk.read, hseek, hnone]
  · rw [Disk.read_of_find? (Disk.seek_eq_ok hseek).2 hfile (h.willing _)]
    exact hdecode

end Fits

/-! ## Calls on any disk -/

def IsLock (f : FileStore) (q : FilePath) (n : Node) : Prop :=
  q = f.lockPath ∧ n = .file [] true

theorem path_ne_nil (f : FileStore) : f.path ≠ [] := f.sibling_ne_nil f.name

theorem find?_of_grows {d' : Disk} {q : FilePath} (h : d.Grows d' [] f.IsLock)
    (hq : q ≠ f.lockPath) : d'.find? q = d.find? q := by
  by_cases hroot : q = []
  · rw [hroot]
    rfl
  · exact h.same hroot fun n hn => hq hn.1

theorem contains_congr {d' : Disk} (h : d'.find? f.path = d.find? f.path) :
    f.Contains d' e ↔ f.Contains d e := by
  rw [Contains, Contains, h]

theorem Fits.of_grows {d' : Disk} (h : f.Fits d e) (hgrows : d.Grows d' [] f.IsLock)
    (hrefuses : d'.refuses = d.refuses) : f.Fits d' e where
  willing c := by
    rw [hrefuses]
    exact h.willing c
  free k hk := by
    rw [find?_of_grows hgrows (f.take_ne_sibling k _)]
    exact h.free k hk
  lock := by
    rcases hgrows f.lockPath (f.sibling_ne_nil _) with hsame | ⟨-, n, ⟨-, rfl⟩, hmade⟩
    · rw [hsame]
      exact h.lock
    · simp [hmade]
  content := (contains_congr (find?_of_grows hgrows lockPath_ne_path.symm)).2 h.content

theorem Holds.of_grows {d' : Disk} (h : f.Holds d e) (hgrows : d.Grows d' [] f.IsLock)
    (hrefuses : d'.refuses = d.refuses) : f.Holds d' e where
  toFits := h.toFits.of_grows hgrows hrefuses
  made k hk := by
    rw [find?_of_grows hgrows (f.take_ne_sibling k _)]
    exact h.made k hk

theorem locked_cases {α : Type} (f : FileStore) (body : Disk → Except StoreFault α × Disk)
    (d : Disk) :
    ∃ d', d.Grows d' [] f.IsLock ∧ d'.refuses = d.refuses ∧
      (f.locked body d = body d' ∨
        (∀ e, ¬f.Holds d e) ∧ ∃ fault, f.locked body d = (.error fault, d')) := by
  have hlocked : ∀ d', d'.refuses = d.refuses → d.touch f.lockPath true = (.ok (), d') →
      f.locked body d = body d' ∨
        (∀ e, ¬f.Holds d e) ∧ ∃ fault, f.locked body d = (.error fault, d') := by
    intro d' hrefuses htouch
    rw [locked, htouch]
    rcases Disk.attempt_cases d' (.lock f.lockPath) d' with ⟨-, hlock⟩ | ⟨hrefused, fault, hlock⟩
    · simp only [Disk.lock, hlock]
      exact .inl trivial
    · simp only [Disk.lock, hlock]
      refine .inr ⟨fun e h => Disk.not_willing (hrefuses ▸ hrefused) h.willing, .io fault, rfl⟩
  rcases Disk.touch_cases d f.lockPath true with ⟨fault, htouch⟩ | ⟨-, htouch⟩ | ⟨hnone, htouch⟩
  · refine ⟨d, .of_same fun _ _ => rfl, rfl, .inr ⟨fun e h => ?_, .io fault, ?_⟩⟩
    · have hopens : ∃ d', d.touch f.lockPath true = (.ok (), d') :=
        (Disk.touch_eq_ok_iff h.made).2 ⟨h.lock, fun _ => h.willing _, fun _ => h.willing _⟩
      obtain ⟨d', hopened⟩ := hopens
      rw [hopened] at htouch
      cases htouch
    · rw [locked, htouch]
  · exact ⟨d, .of_same fun _ _ => rfl, rfl, hlocked d rfl htouch⟩
  · exact ⟨_, .put hnone ⟨rfl, rfl⟩, rfl, hlocked _ rfl htouch⟩

/-- A new file takes the place of the file, or everything is as it was. -/
theorem save_cases (f : FileStore) (e : Entries) (d : Disk) :
    (∃ d', f.save e d = (.ok (), d') ∧ d'.refuses = d.refuses ∧
      ∀ q, d'.find? q = if q = f.path then some (.file (encode e) true) else d.find? q) ∨
    (∀ e', ¬f.Holds d e') ∧
      ∃ fault d', f.save e d = (.error fault, d') ∧ ∀ q, d'.find? q = d.find? q := by
  obtain ⟨n, hpath⟩ : ∃ n, f.freePath d = f.newPath n := ⟨_, rfl⟩
  have hfree : d.find? (f.newPath n) = none := hpath ▸ f.find?_freePath d
  have hne : f.newPath n ≠ [] := f.sibling_ne_nil _
  rw [save, hpath]
  rcases Disk.createNew_cases hfree (encode e) with ⟨made, hcreate, hrefuses, hmade⟩ |
    ⟨hreason, fault, d', hcreate, hsame, hplace⟩
  · have hnew : made.find? (f.newPath n) = some (.file (encode e) true) := by
      rw [hmade, if_pos rfl]
    rcases Disk.rename_cases hnew hne f.path_ne_nil with ⟨d', hrename, hkept, hmoved⟩ |
      ⟨hreason, fault, hrename⟩
    · refine .inl ⟨d', by simp only [hcreate, hrename], hkept.trans hrefuses, fun q => ?_⟩
      rw [hmoved]
      split_ifs with hq hqnew
      · rfl
      · rw [hqnew, hfree]
      · rw [hmade, if_neg hqnew]
    · refine .inr ⟨fun e' h => ?_, .io fault, made.removeFile (f.newPath n), ?_, ?_⟩
      · rcases hreason with hdirectory | hrefused
        · rw [hmade, if_neg (newPath_ne_path n).symm] at hdirectory
          rcases h.content with ⟨hnone, -⟩ | ⟨_, _, hfile, -⟩
          · simp [hnone] at hdirectory
          · simp [hfile] at hdirectory
        · exact Disk.not_willing (hrefuses ▸ hrefused) h.willing
      · simp only [hcreate, hrename]
      · refine Disk.find?_removeFile hfree (fun q hq => ?_) (by simp [hnew])
        rw [hmade, if_neg hq]
  · refine .inr ⟨fun e' h => ?_, .io fault, d'.removeFile (f.newPath n), ?_, ?_⟩
    · refine hreason (hfree ▸ h.seek _) ?_ h.willing
      have hparent := h.made f.directory.length (Nat.le_refl _)
      rw [List.take_length] at hparent
      rwa [newPath, List.dropLast_concat]
    · simp only [hcreate]
    · exact Disk.find?_removeFile hfree hsame hplace

/-! ## Calls that do not fail -/

theorem Holds.save (h : f.Holds d e) (e' : Entries) :
    ∃ d', f.save e' d = (.ok (), d') ∧ f.Holds d' e' := by
  obtain ⟨d', hsave, hrefuses, hmoved⟩ | ⟨hnot, -⟩ := f.save_cases e' d
  · have hsame (q : FilePath) (hq : q ≠ f.path) : d'.find? q = d.find? q := by
      rw [hmoved, if_neg hq]
    refine ⟨d', hsave, ⟨fun c => ?_, fun k hk => ?_, ?_, ?_⟩, fun k hk => ?_⟩
    · rw [hrefuses]
      exact h.willing c
    · rw [hsame _ (f.take_ne_sibling k _)]
      exact h.free k hk
    · rw [hsame _ lockPath_ne_path]
      exact h.lock
    · exact .inr ⟨_, _, (hmoved _).trans (if_pos rfl), decode_encode f.shown e'⟩
    · rw [hsame _ (f.take_ne_sibling k _)]
      exact h.made k hk
  · exact absurd h (hnot e)

theorem mirrors_locked {α : Type} {body : Disk → Except StoreFault α × Disk} {y : Access Entries α}
    (h : ∀ d e, f.Holds d e → (body d).1 = (y e).1 ∧ f.Holds (body d).2 (y e).2) :
    Mirrors f.Holds (f.locked body) y := by
  intro d e hd
  obtain ⟨d', hgrows, hrefuses, hlocked | ⟨hnot, -⟩⟩ := f.locked_cases body d
  · rw [hlocked]
    exact h d' e (hd.of_grows hgrows hrefuses)
  · exact absurd hd (hnot e)

theorem mirrors_set (k v : String) : Mirrors f.Holds (f.set k v) (Storage.memory.set k v) := by
  refine mirrors_locked fun d e h => ?_
  obtain ⟨d', hsave, hd'⟩ := h.save (e.set k v)
  simp only [h.load, hsave]
  exact ⟨rfl, hd'⟩

theorem mirrors_get (k : String) : Mirrors f.Holds (f.get k) (Storage.memory.get k) := by
  refine mirrors_locked fun d e h => ?_
  simp only [h.load]
  exact ⟨rfl, h⟩

theorem mirrors_take (k : String) : Mirrors f.Holds (f.take k) (Storage.memory.take k) := by
  refine mirrors_locked fun d e h => ?_
  cases hk : e.get? k with
  | none =>
    -- Nothing is written, since there is nothing to remove.
    have hmemory : Storage.memory.take k e = (Except.ok none, e) := by
      rw [← hk, ← Entries.erase_of_get?_eq_none hk]
      simp [Storage.memory, Storage.Memory.take, Entries.erase_of_get?_eq_none hk]
    rw [hmemory]
    simp only [h.load, hk]
    exact ⟨trivial, h⟩
  | some v =>
    obtain ⟨d', hsave, hd'⟩ := h.save (e.erase k)
    have hmemory : Storage.memory.take k e = (Except.ok (some v), e.erase k) := by
      rw [← hk]
      rfl
    rw [hmemory]
    simp only [h.load, hk, hsave]
    exact ⟨trivial, hd'⟩

theorem mirrors_remove (k : String) : Mirrors f.Holds (f.remove k) (Storage.memory.remove k) :=
  (mirrors_take k).bind (g := fun v => pure v.isSome) fun v => Mirrors.pure v.isSome

/-- The calls of an open store in a file are those of the storage in memory. -/
theorem storage_reliable : f.storage.Reliable f.Holds where
  set := mirrors_set
  get := mirrors_get
  remove := mirrors_remove
  take := mirrors_take

/-! ## Opening the store -/

theorem find?_makeDirectories (f : FileStore) (d : Disk) (name : String) :
    (d.makeDirectories f.directory).2.find? (f.directory ++ [name]) =
      d.find? (f.directory ++ [name]) :=
  (Disk.grows_makeDirectories d f.directory []).same (f.sibling_ne_nil name)
    fun _ ⟨_, k, _, hk⟩ => f.take_ne_sibling k name hk.symm

theorem Fits.openStore (h : f.Fits d e) :
    ∃ d', f.openStore d = (.ok (), d') ∧ f.Holds d' e := by
  obtain ⟨made, hmade⟩ := Disk.makeDirectories_eq_ok_iff.2 ⟨h.free, fun _ _ _ => h.willing _⟩
  have hsame := f.find?_makeDirectories d
  have hrefuses := Disk.refuses_makeDirectories d f.directory
  rw [hmade] at hsame hrefuses
  have hway := Disk.find?_of_makeDirectories hmade
  have hholds : f.Holds made e :=
    { willing := fun c => by rw [hrefuses]; exact h.willing c
      free := fun k hk content isPrivate => by rw [hway k hk]; simp
      lock := by rw [lockPath, hsame]; exact h.lock
      content := (contains_congr (hsame f.name)).2 h.content
      made := hway }
  rw [FileStore.openStore, hmade]
  obtain ⟨d', hgrows, hrefuses, hlocked | ⟨hnot, -⟩⟩ :=
    f.locked_cases (fun d => ((f.load d).map fun _ => (), d)) made
  · have hd' := hholds.of_grows hgrows hrefuses
    refine ⟨d', ?_, hd'⟩
    simp only [hlocked, hd'.load]
    rfl
  · exact absurd hholds (hnot e)

theorem mirrors_openStore : Mirrors f.Holds f.openStore (pure () : Access Entries Unit) := by
  intro d e h
  obtain ⟨d', hopen, hd'⟩ := h.toFits.openStore
  rw [hopen]
  exact ⟨rfl, hd'⟩

/-- Where the disk refuses nothing, managers over a store in a file that was opened go as over one
in memory. -/
theorem platform_reliable (f : FileStore) (endpoints : Endpoints) :
    (Platform.mk f.storage f.openStore endpoints).Reliable f.Holds :=
  ⟨storage_reliable, mirrors_openStore⟩

end FileStore

end SignIn
