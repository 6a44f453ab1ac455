import Mathlib.Tactic.SplitIfs
import SignIn.Disk

/-!
# Files and directories

What the operations on a disk leave at every path: making directories and moving a file change
what they name and nothing else, and what was written to a file is read from it. Of an operation
that fails no more is done than making what was missing.
-/

namespace SignIn

namespace Disk

variable {p : FilePath}

theorem ne_nil_of_find?_eq_none {d : Disk} {q : FilePath} (h : d.find? q = none) : q ≠ [] := by
  rintro rfl
  cases h

theorem ne_nil_of_find?_file {d : Disk} {q : FilePath} {content : Bytes} {isPrivate : Bool}
    (h : d.find? q = some (.file content isPrivate)) : q ≠ [] := by
  rintro rfl
  cases h

theorem mem_of_find?_ne_none {d : Disk} {q : FilePath} (hq : q ≠ []) (h : d.find? q ≠ none) :
    q ∈ d.nodes.map Prod.fst := by
  rw [find?, if_neg hq] at h
  generalize d.nodes = nodes at h ⊢
  induction nodes with
  | nil => exact absurd rfl h
  | cons entry nodes ih =>
    obtain ⟨k, n⟩ := entry
    by_cases hk : q = k
    · rw [hk]
      exact List.mem_cons_self
    · rw [nodeAt, if_neg hk] at h
      exact List.mem_cons_of_mem _ (ih h)

theorem seek_of_free {d : Disk} {p : FilePath}
    (h : ∀ k < p.length, ∀ content isPrivate, d.find? (p.take k) ≠ some (.file content isPrivate)) :
    d.seek p = .ok (d.find? p) := by
  rw [seek, if_neg]
  rw [Bool.not_eq_true, List.any_eq_false]
  intro k hk
  split
  case h_1 content isPrivate hfile => exact absurd hfile (h k (List.mem_range.1 hk) _ _)
  case h_2 => simp

theorem seek_eq_ok {d : Disk} {p : FilePath} {o : Option Node} (h : d.seek p = .ok o) :
    o = d.find? p ∧
      ∀ k < p.length, ∀ content isPrivate, d.find? (p.take k) ≠ some (.file content isPrivate) := by
  rw [seek] at h
  split_ifs at h with hblocked
  refine ⟨(Except.ok.inj h).symm, fun k hk content isPrivate hfile => hblocked ?_⟩
  rw [List.any_eq_true]
  exact ⟨k, List.mem_range.2 hk, by rw [hfile]⟩

theorem seek_eq_error {d : Disk} {p : FilePath} {fault : IoFault} (h : d.seek p = .error fault) :
    fault = .notDirectory := by
  rw [seek] at h
  split_ifs at h
  exact (Except.error.inj h).symm

/-! ## Refusals -/

section

variable {d d' : Disk} {c : DiskCall}

def Willing (d : Disk) : Prop := ∀ c, d.refuses c = none

theorem not_willing (h : ∃ reason, d.refuses c = some reason) : ¬d.Willing := by
  obtain ⟨reason, h⟩ := h
  intro hwilling
  rw [hwilling c] at h
  cases h

theorem attempt_of_not_refused (h : d.refuses c = none) : d.attempt c d' = (.ok (), d') := by
  rw [attempt, h]

theorem attempt_cases (d : Disk) (c : DiskCall) (done : Disk) :
    d.refuses c = none ∧ d.attempt c done = (.ok (), done) ∨
      (∃ reason, d.refuses c = some reason) ∧ ∃ fault, d.attempt c done = (.error fault, d) := by
  cases hrefused : d.refuses c with
  | none => exact .inl ⟨rfl, attempt_of_not_refused hrefused⟩
  | some reason => exact .inr ⟨⟨reason, rfl⟩, reason, by rw [attempt, hrefused]⟩

theorem attempt_eq_ok_iff {done : Disk} :
    d.attempt c done = (.ok (), d') ↔ d.refuses c = none ∧ done = d' := by
  rw [attempt]
  cases d.refuses c <;> simp

end

/-! ## Growing -/

/-- Every path but one is as it was, or something was made there where nothing stood. -/
def Grows (d d' : Disk) (spared : FilePath) (Made : FilePath → Node → Prop) : Prop :=
  ∀ q, q ≠ spared → d'.find? q = d.find? q ∨
    d.find? q = none ∧ ∃ n, Made q n ∧ d'.find? q = some n

variable {d d' d'' : Disk} {spared : FilePath} {Made Made' : FilePath → Node → Prop}

theorem Grows.of_same (h : ∀ q, q ≠ spared → d'.find? q = d.find? q) : d.Grows d' spared Made :=
  fun q hq => .inl (h q hq)

theorem Grows.trans (h : d.Grows d' spared Made) (h' : d'.Grows d'' spared Made) :
    d.Grows d'' spared Made := by
  intro q hq
  rcases h q hq with hsame | ⟨hnone, n, hmade, hn⟩
  · rw [← hsame]
    exact h' q hq
  · rcases h' q hq with hsame | ⟨hnone', -⟩
    · exact .inr ⟨hnone, n, hmade, hsame.trans hn⟩
    · rw [hn] at hnone'
      cases hnone'

theorem Grows.spare (h : d.Grows d' [] Made) (spared : FilePath) : d.Grows d' spared Made := by
  intro q _
  by_cases hroot : q = []
  · rw [hroot]
    exact .inl rfl
  · exact h q hroot

theorem Grows.mono (h : d.Grows d' spared Made) (hle : ∀ q n, Made q n → Made' q n) :
    d.Grows d' spared Made' := by
  intro q hq
  rcases h q hq with hsame | ⟨hnone, n, hmade, hn⟩
  · exact .inl hsame
  · exact .inr ⟨hnone, n, hle q n hmade, hn⟩

theorem Grows.put {n : Node} (hnone : d.find? p = none) (hmade : Made p n) :
    d.Grows (d.put p n) spared Made := by
  intro q _
  rw [find?_put _ _ _ _ (ne_nil_of_find?_eq_none hnone)]
  split_ifs with hq
  · subst hq
    exact .inr ⟨hnone, n, hmade, rfl⟩
  · exact .inl rfl

theorem Grows.same (h : d.Grows d' spared Made) {q : FilePath} (hq : q ≠ spared)
    (hnot : ∀ n, ¬Made q n) : d'.find? q = d.find? q := by
  rcases h q hq with hsame | ⟨-, n, hmade, -⟩
  · exact hsame
  · exact absurd hmade (hnot n)

theorem Grows.ne_none (h : d.Grows d' spared Made) {q : FilePath} (hq : q ≠ spared)
    (hsome : d.find? q ≠ none) : d'.find? q ≠ none := by
  rcases h q hq with hsame | ⟨hnone, -⟩
  · rwa [hsame]
  · exact absurd hnone hsome

/-! ## Making directories -/

/-- No file is in the way of a path or stands there. -/
def Free (d : Disk) (p : FilePath) : Prop :=
  ∀ k ≤ p.length, ∀ content isPrivate, d.find? (p.take k) ≠ some (.file content isPrivate)

theorem free_of_seek {o : Option Node} (h : d.seek p = .ok o)
    (hplace : ∀ content isPrivate, o ≠ some (.file content isPrivate)) : d.Free p := by
  intro k hk content isPrivate hfile
  obtain ⟨rfl, hway⟩ := seek_eq_ok h
  obtain hlt | rfl := Nat.lt_or_eq_of_le hk
  · exact hway k hlt _ _ hfile
  · rw [List.take_length] at hfile
    exact hplace _ _ hfile

theorem makeDirectory_of_ne_none (h : d.find? p ≠ none) : d.makeDirectory p = (.ok (), d) := by
  rw [makeDirectory, if_neg (by simpa using h)]

theorem makeDirectory_of_eq_none (h : d.find? p = none) :
    d.makeDirectory p = d.attempt (.create p) (d.put p .directory) := by
  rw [makeDirectory, if_pos (by simp [h])]

theorem grows_makeDirectory (hmade : Made p .directory) :
    d.Grows (d.makeDirectory p).2 spared Made := by
  by_cases hnone : d.find? p = none
  · rw [makeDirectory_of_eq_none hnone]
    rcases attempt_cases d (.create p) (d.put p .directory) with ⟨-, h⟩ | ⟨-, fault, h⟩ <;> rw [h]
    · exact .put hnone hmade
    · exact .of_same fun _ _ => rfl
  · rw [makeDirectory_of_ne_none hnone]
    exact .of_same fun _ _ => rfl

theorem find?_ne_none_of_makeDirectory (h : d.makeDirectory p = (.ok (), d')) :
    d'.find? p ≠ none := by
  by_cases hnone : d.find? p = none
  · rw [makeDirectory_of_eq_none hnone, attempt_eq_ok_iff] at h
    rw [← h.2, find?_put _ _ _ _ (ne_nil_of_find?_eq_none hnone), if_pos rfl]
    simp
  · rw [makeDirectory_of_ne_none hnone] at h
    cases h
    exact hnone

theorem makeFirst_succ_of_ok {n : Nat} (h : makeFirst p n d = (.ok (), d')) :
    makeFirst p (n + 1) d = d'.makeDirectory (p.take n) := by
  rw [makeFirst, h]

/-- Either the first directories are all made, or making more changes nothing. -/
theorem makeFirst_cases (p : FilePath) (n : Nat) (d : Disk) :
    (∃ d', makeFirst p n d = (.ok (), d')) ∨
      ∃ fault d', makeFirst p n d = (.error fault, d') ∧
        makeFirst p (n + 1) d = (.error fault, d') := by
  rcases h : makeFirst p n d with ⟨fault | _, d'⟩
  · exact .inr ⟨fault, d', rfl, by rw [makeFirst, h]⟩
  · exact .inl ⟨d', rfl⟩

theorem grows_makeFirst (p : FilePath) (n : Nat) (d : Disk) (spared : FilePath) :
    d.Grows (makeFirst p n d).2 spared fun q m => m = .directory ∧ ∃ k < n, q = p.take k := by
  induction n with
  | zero => exact .of_same fun _ _ => rfl
  | succ n ih =>
    have hfirst : d.Grows (makeFirst p n d).2 spared
        fun q m => m = .directory ∧ ∃ k < n + 1, q = p.take k :=
      ih.mono fun q m ⟨hm, k, hk, hq⟩ => ⟨hm, k, by omega, hq⟩
    rcases makeFirst_cases p n d with ⟨d', hmake⟩ | ⟨fault, d', hmake, hmore⟩
    · rw [makeFirst_succ_of_ok hmake]
      rw [hmake] at hfirst
      exact hfirst.trans (grows_makeDirectory ⟨rfl, n, by omega, rfl⟩)
    · rw [hmore]
      rwa [hmake] at hfirst

theorem refuses_makeDirectory (d : Disk) (p : FilePath) :
    (d.makeDirectory p).2.refuses = d.refuses := by
  by_cases hnone : d.find? p = none
  · rw [makeDirectory_of_eq_none hnone]
    rcases attempt_cases d (.create p) (d.put p .directory) with ⟨-, h⟩ | ⟨-, fault, h⟩ <;> rw [h]
    rfl
  · rw [makeDirectory_of_ne_none hnone]

theorem refuses_makeFirst (p : FilePath) (n : Nat) (d : Disk) :
    (makeFirst p n d).2.refuses = d.refuses := by
  induction n with
  | zero => rfl
  | succ n ih =>
    rcases makeFirst_cases p n d with ⟨d', hmake⟩ | ⟨fault, d', hmake, hmore⟩
    · rw [makeFirst_succ_of_ok hmake, refuses_makeDirectory]
      rwa [hmake] at ih
    · rw [hmore]
      rwa [hmake] at ih

theorem find?_ne_none_of_makeFirst {n : Nat} (h : makeFirst p n d = (.ok (), d')) :
    ∀ k < n, d'.find? (p.take k) ≠ none := by
  induction n generalizing d' with
  | zero => intro k hk; omega
  | succ n ih =>
    intro k hk
    rcases makeFirst_cases p n d with ⟨d₁, hmake⟩ | ⟨fault, d₁, -, hmore⟩
    · rw [makeFirst_succ_of_ok hmake] at h
      obtain hlt | rfl := Nat.lt_succ_iff_lt_or_eq.1 hk
      · -- What was made before stays.
        have hgrows : d₁.Grows (d₁.makeDirectory (p.take n)).2 (p.take n) fun _ _ => True :=
          grows_makeDirectory trivial
        rw [h] at hgrows
        by_cases hsame : p.take k = p.take n
        · rw [hsame]
          exact find?_ne_none_of_makeDirectory h
        · exact hgrows.ne_none hsame (ih hmake k hlt)
      · exact find?_ne_none_of_makeDirectory h
    · rw [hmore] at h
      cases h

/-- Where no file is in the way, there are directories afterwards. -/
theorem find?_makeFirst_take {n : Nat} (hmake : makeFirst p n d = (.ok (), d'))
    (h : ∀ k < n, ∀ content isPrivate, d.find? (p.take k) ≠ some (.file content isPrivate)) :
    ∀ k < n, d'.find? (p.take k) = some .directory := by
  intro k hk
  have hsome := find?_ne_none_of_makeFirst hmake k hk
  by_cases hroot : p.take k = []
  · rw [hroot]
    rfl
  have hgrows := grows_makeFirst p n d []
  rw [hmake] at hgrows
  rcases hgrows _ hroot with hsame | ⟨-, m, ⟨rfl, -⟩, hmade⟩
  · rw [hsame] at hsome ⊢
    cases hnode : d.find? (p.take k) with
    | none => exact absurd hnode hsome
    | some node =>
      cases node with
      | directory => rfl
      | file content isPrivate => exact absurd hnode (h k hk content isPrivate)
  · exact hmade

/-- The first directories are made exactly if none that is missing is refused. -/
theorem makeFirst_eq_ok_iff {n : Nat} :
    (∃ d', makeFirst p n d = (.ok (), d')) ↔
      ∀ k < n, d.find? (p.take k) = none → d.refuses (.create (p.take k)) = none := by
  induction n with
  | zero => exact ⟨fun _ k hk => by omega, fun _ => ⟨d, rfl⟩⟩
  | succ n ih =>
    rw [Nat.forall_lt_succ_right, ← ih]
    rcases makeFirst_cases p n d with ⟨d₁, hmake⟩ | ⟨fault, d₁, hmake, hmore⟩
    · have hgrows := grows_makeFirst p n d []
      have hrefuses : d₁.refuses = d.refuses := by simpa [hmake] using refuses_makeFirst p n d
      rw [hmake] at hgrows
      rw [makeFirst_succ_of_ok hmake]
      by_cases hnone : d₁.find? (p.take n) = none
      · have hbefore : d.find? (p.take n) = none := Classical.not_not.1 fun hsome =>
          hgrows.ne_none (ne_nil_of_find?_eq_none hnone) hsome hnone
        rw [makeDirectory_of_eq_none hnone]
        simp [attempt_eq_ok_iff, hrefuses, hbefore, hmake]
      · refine ⟨fun _ => ⟨⟨d₁, hmake⟩, fun hbefore => ?_⟩, fun _ =>
          ⟨d₁, makeDirectory_of_ne_none hnone⟩⟩
        -- What is there now was made on the way, so nothing that came before was refused.
        have hroot : p.take n ≠ [] := ne_nil_of_find?_eq_none hbefore
        rcases hgrows _ hroot with hsame | ⟨-, m, ⟨-, k, hk, hkn⟩, -⟩
        · exact absurd (hsame.trans hbefore) hnone
        · rw [hkn]
          exact ih.1 ⟨d₁, hmake⟩ k hk (hkn ▸ hbefore)
    · simp [hmore, hmake]

theorem makeDirectories_cases (d : Disk) (p : FilePath) :
    (d.Free p ∧ d.makeDirectories p = makeFirst p (p.length + 1) d) ∨
      ∃ fault, d.makeDirectories p = (.error fault, d) := by
  rw [makeDirectories]
  cases hseek : d.seek p with
  | error fault => exact .inr ⟨fault, rfl⟩
  | ok o =>
    cases o with
    | none => exact .inl ⟨free_of_seek hseek (by simp), rfl⟩
    | some n =>
      cases n with
      | directory => exact .inl ⟨free_of_seek hseek (by simp), rfl⟩
      | file content isPrivate => exact .inr ⟨.alreadyExists, rfl⟩

theorem makeDirectories_of_free (h : d.Free p) :
    d.makeDirectories p = makeFirst p (p.length + 1) d := by
  have hseek : d.seek p = .ok (d.find? p) := seek_of_free fun k hk => h k (by omega)
  have hplace := h p.length (by omega)
  rw [List.take_length] at hplace
  rw [makeDirectories, hseek]
  split
  case h_1 hfault => cases hfault
  case h_2 content isPrivate hfile => exact absurd (Except.ok.inj hfile) (hplace _ _)
  case h_3 => rfl

theorem grows_makeDirectories (d : Disk) (p spared : FilePath) :
    d.Grows (d.makeDirectories p).2 spared
      fun q n => n = .directory ∧ ∃ k ≤ p.length, q = p.take k := by
  rcases makeDirectories_cases d p with ⟨-, hmake⟩ | ⟨fault, hmake⟩
  · rw [hmake]
    exact (grows_makeFirst p _ d spared).mono fun q n ⟨hn, k, hk, hq⟩ => ⟨hn, k, by omega, hq⟩
  · rw [hmake]
    exact .of_same fun _ _ => rfl

theorem refuses_makeDirectories (d : Disk) (p : FilePath) :
    (d.makeDirectories p).2.refuses = d.refuses := by
  rcases makeDirectories_cases d p with ⟨-, hmake⟩ | ⟨fault, hmake⟩
  · rw [hmake, refuses_makeFirst]
  · rw [hmake]

/-- The directories of a path are made exactly if no file is in the way and none that is missing is
refused; and then they are there. -/
theorem makeDirectories_eq_ok_iff :
    (∃ d', d.makeDirectories p = (.ok (), d')) ↔ d.Free p ∧
      ∀ k ≤ p.length, d.find? (p.take k) = none → d.refuses (.create (p.take k)) = none := by
  simp only [← Nat.lt_succ_iff, ← makeFirst_eq_ok_iff]
  constructor
  · rintro ⟨d', hmade⟩
    rcases makeDirectories_cases d p with ⟨hfree, hmake⟩ | ⟨fault, hmake⟩
    · exact ⟨hfree, d', hmake ▸ hmade⟩
    · rw [hmade] at hmake
      cases hmake
  · rintro ⟨hfree, d', hmade⟩
    exact ⟨d', (makeDirectories_of_free hfree).trans hmade⟩

theorem find?_of_makeDirectories (h : d.makeDirectories p = (.ok (), d')) :
    ∀ k ≤ p.length, d'.find? (p.take k) = some .directory := by
  rcases makeDirectories_cases d p with ⟨hfree, hmake⟩ | ⟨fault, hmake⟩
  · intro k hk
    exact find?_makeFirst_take (hmake ▸ h) (fun j hj => hfree j (by omega)) k (by omega)
  · rw [h] at hmake
    cases hmake

/-! ## Reading and writing -/

theorem take_ne_self {k : Nat} (hk : k < p.length) : p.take k ≠ p := fun h => by
  have := congrArg List.length h
  rw [List.length_take] at this
  omega

theorem take_ne_child {name : String} (k : Nat) : p.take k ≠ p ++ [name] := by
  intro h
  have := congrArg List.length h
  simp only [List.length_take, List.length_append, List.length_singleton] at this
  omega

theorem seek_child (h : d.Free p) (name : String) :
    d.seek (p ++ [name]) = .ok (d.find? (p ++ [name])) := by
  refine seek_of_free fun k hk => ?_
  have hle : k ≤ p.length := by simpa [Nat.lt_succ_iff] using hk
  rw [List.take_append_of_le_length hle]
  exact h k hle

theorem read_of_find? {content : Bytes} {isPrivate : Bool}
    (hway : ∀ k < p.length, ∀ content isPrivate,
      d.find? (p.take k) ≠ some (.file content isPrivate))
    (hfile : d.find? p = some (.file content isPrivate)) (hopened : d.refuses (.access p) = none) :
    d.read p = .ok content := by
  rw [read, seek_of_free hway, hfile]
  simp only [hopened]

theorem create_cases (d : Disk) (p : FilePath) (n : Node) :
    d.create p n = (.ok (), d.put p n) ∨
      (d.find? p.dropLast = some .directory → ¬d.Willing) ∧
        ∃ fault, d.create p n = (.error fault, d) := by
  rw [create]
  split_ifs with hparent
  · rcases attempt_cases d (.create p) (d.put p n) with ⟨-, h⟩ | ⟨hrefused, h⟩
    · exact .inl h
    · exact .inr ⟨fun _ => not_willing hrefused, h⟩
  · exact .inr ⟨fun h => absurd h hparent, _, rfl⟩

theorem touch_cases (d : Disk) (p : FilePath) (isPrivate : Bool) :
    (∃ fault, d.touch p isPrivate = (.error fault, d)) ∨
      (∃ content isPrivate', d.find? p = some (.file content isPrivate')) ∧
        d.touch p isPrivate = (.ok (), d) ∨
      d.find? p = none ∧ d.touch p isPrivate = (.ok (), d.put p (.file [] isPrivate)) := by
  rw [touch]
  cases hseek : d.seek p with
  | error fault => exact .inl ⟨fault, rfl⟩
  | ok o =>
    obtain ⟨rfl, -⟩ := seek_eq_ok hseek
    cases hnode : d.find? p with
    | none =>
      rcases create_cases d p (.file [] isPrivate) with h | ⟨-, h⟩
      · exact .inr (.inr ⟨rfl, h⟩)
      · exact .inl h
    | some n =>
      cases n with
      | directory => exact .inl ⟨_, rfl⟩
      | file content isPrivate =>
        rcases attempt_cases d (.access p) d with ⟨-, h⟩ | ⟨-, h⟩
        · exact .inr (.inl ⟨⟨content, isPrivate, rfl⟩, h⟩)
        · exact .inl h

theorem fill_cases {old : Bytes} {isPrivate : Bool} (h : d.find? p = some (.file old isPrivate))
    (content : Bytes) :
    d.refuses (.fill p) = none ∧ (∃ d', d.fill p content = (.ok (), d') ∧ d'.refuses = d.refuses ∧
      ∀ q, d'.find? q = if q = p then some (.file content isPrivate) else d.find? q) ∨
    (∃ reason, d.refuses (.fill p) = some reason) ∧
      ∃ fault d', d.fill p content = (.error fault, d') ∧
        ∀ q, d'.find? q = if q = p then some (.file [] isPrivate) else d.find? q := by
  have hp : p ≠ [] := ne_nil_of_find?_file h
  let emptied : Disk := d.put p (.file [] isPrivate)
  have hemptied (q : FilePath) :
      emptied.find? q = if q = p then some (.file [] isPrivate) else d.find? q :=
    find?_put _ _ _ _ hp
  rw [fill, h]
  rcases attempt_cases emptied (.fill p) (emptied.put p (.file content isPrivate)) with
    ⟨hallowed, hdone⟩ | ⟨hrefused, fault, hdone⟩
  · refine .inl ⟨hallowed, _, hdone, rfl, fun q => ?_⟩
    rw [find?_put _ _ _ _ hp]
    split_ifs with hq
    · rfl
    · rw [hemptied, if_neg hq]
  · exact .inr ⟨hrefused, fault, emptied, hdone, hemptied⟩

theorem find?_fill_put {q : FilePath} {n m : Node} (hp : p ≠ [])
    (hfill : ∀ q, d'.find? q = if q = p then some m else (d.put p n).find? q) :
    d'.find? q = if q = p then some m else d.find? q := by
  rw [hfill, find?_put _ _ _ _ hp]
  split_ifs <;> rfl

/-- Where nothing stands a private file is made, or at most an empty file is. -/
theorem createNew_cases (hnone : d.find? p = none) (content : Bytes) :
    (∃ d', d.createNew p content = (.ok (), d') ∧ d'.refuses = d.refuses ∧
      ∀ q, d'.find? q = if q = p then some (.file content true) else d.find? q) ∨
    (d.seek p = .ok none → d.find? p.dropLast = some .directory → ¬d.Willing) ∧
      ∃ fault d', d.createNew p content = (.error fault, d') ∧
        (∀ q, q ≠ p → d'.find? q = d.find? q) ∧ d'.find? p ≠ some .directory := by
  have hp : p ≠ [] := ne_nil_of_find?_eq_none hnone
  have hnothing : ∀ {x : Except IoFault Unit × Disk} {fault : IoFault}, x = (.error fault, d) →
      ∃ fault d', x = (.error fault, d') ∧ (∀ q, q ≠ p → d'.find? q = d.find? q) ∧
        d'.find? p ≠ some .directory :=
    fun h => ⟨_, d, h, fun _ _ => rfl, by simp [hnone]⟩
  rw [createNew]
  cases hseek : d.seek p with
  | error fault => exact .inr ⟨by simp, hnothing rfl⟩
  | ok o =>
    obtain ⟨rfl, -⟩ := seek_eq_ok hseek
    rw [hnone]
    rcases create_cases d p (.file [] true) with hmade | ⟨hreason, fault, hmade⟩
    · have hempty : (d.put p (.file [] true)).find? p = some (.file [] true) := by
        rw [find?_put _ _ _ _ hp, if_pos rfl]
      rw [hmade]
      rcases fill_cases hempty content with ⟨-, d', hfill, hrefuses, hfind⟩ |
        ⟨hrefused, fault, d', hfill, hfind⟩
      · exact .inl ⟨d', hfill, hrefuses, fun q => find?_fill_put hp hfind⟩
      · refine .inr ⟨fun _ _ => not_willing hrefused, fault, d', hfill, fun q hq => ?_, ?_⟩
        · rw [find?_fill_put hp hfind, if_neg hq]
        · simp [hfind]
    · rw [hmade]
      exact .inr ⟨fun _ => hreason, hnothing rfl⟩

/-- A file that was made where nothing stood is removed without a trace. -/
theorem find?_removeFile (hnone : d.find? p = none)
    (hsame : ∀ q, q ≠ p → d'.find? q = d.find? q) (hplace : d'.find? p ≠ some .directory)
    (q : FilePath) : (d'.removeFile p).find? q = d.find? q := by
  rw [removeFile]
  cases hnode : d'.find? p with
  | none =>
    by_cases hq : q = p
    · rw [hq]
      exact hnode.trans hnone.symm
    · exact hsame q hq
  | some n =>
    cases n with
    | directory => exact absurd hnode hplace
    | file content isPrivate =>
      rw [find?_remove _ _ _ (ne_nil_of_find?_eq_none hnone)]
      split_ifs with hq
      · rw [hq, hnone]
      · exact hsame q hq

theorem rename_cases {source target : FilePath} {n : Node} (hsource : d.find? source = some n)
    (hs : source ≠ []) (ht : target ≠ []) :
    (∃ d', d.rename source target = (.ok (), d') ∧ d'.refuses = d.refuses ∧ ∀ q, d'.find? q =
      if q = target then some n else if q = source then none else d.find? q) ∨
    (d.find? target = some .directory ∨ ∃ reason, d.refuses (.move source target) = some reason) ∧
      ∃ fault, d.rename source target = (.error fault, d) := by
  rw [rename, hsource]
  by_cases hplace : d.find? target = some .directory
  · rw [hplace]
    exact .inr ⟨.inl rfl, _, rfl⟩
  · have hmoved (q : FilePath) : ((d.remove source).put target n).find? q =
        if q = target then some n else if q = source then none else d.find? q := by
      rw [find?_put _ _ _ _ ht, find?_remove _ _ _ hs]
    split
    case h_1 _ hmissing => cases hmissing
    case h_2 _ _ hdirectory => exact absurd hdirectory hplace
    case h_3 _ _ m hm _ =>
      cases hm
      rcases attempt_cases d (.move source target) ((d.remove source).put target n) with
        ⟨-, h⟩ | ⟨hrefused, h⟩
      · exact .inl ⟨_, h, rfl, hmoved⟩
      · exact .inr ⟨.inr hrefused, h⟩

theorem touch_eq_ok {isPrivate : Bool} (h : d.touch p isPrivate = (.ok (), d')) :
    (∃ o, d.seek p = .ok o) ∧ d'.refuses = d.refuses ∧ ∃ content isPrivate', ∀ q, d'.find? q =
      if q = p then some (.file content isPrivate') else d.find? q := by
  have hseek : ∃ o, d.seek p = .ok o := by
    cases hseek : d.seek p with
    | error fault =>
      rw [touch, hseek] at h
      cases h
    | ok o => exact ⟨o, rfl⟩
  refine ⟨hseek, ?_⟩
  rcases touch_cases d p isPrivate with ⟨fault, htouch⟩ | ⟨⟨content, isPrivate', hfile⟩, htouch⟩ |
    ⟨hnone, htouch⟩
  · rw [htouch] at h
    cases h
  · rw [htouch] at h
    cases h
    refine ⟨rfl, content, isPrivate', fun q => ?_⟩
    split_ifs with hq
    · rw [hq, hfile]
    · rfl
  · rw [htouch] at h
    cases h
    exact ⟨rfl, [], isPrivate, fun q => find?_put _ _ _ _ (ne_nil_of_find?_eq_none hnone)⟩

/-- In a directory that is there, a file is opened for writing exactly if no directory stands at
its path, and it may be created or accessed. -/
theorem touch_eq_ok_iff {name : String} {isPrivate : Bool}
    (h : ∀ k ≤ p.length, d.find? (p.take k) = some .directory) :
    (∃ d', d.touch (p ++ [name]) isPrivate = (.ok (), d')) ↔
      d.find? (p ++ [name]) ≠ some .directory ∧
      (d.find? (p ++ [name]) = none → d.refuses (.create (p ++ [name])) = none) ∧
      (d.find? (p ++ [name]) ≠ none → d.refuses (.access (p ++ [name])) = none) := by
  have hfree : d.Free p := fun k hk content isPrivate hfile => by
    rw [h k hk] at hfile
    cases hfile
  have hparent := h p.length (Nat.le_refl _)
  rw [List.take_length] at hparent
  rw [touch, seek_child hfree]
  cases hnode : d.find? (p ++ [name]) with
  | none => simp [create, hparent, attempt_eq_ok_iff]
  | some n => cases n <;> simp [attempt_eq_ok_iff]

theorem write_eq_ok_iff {content : Bytes} :
    (∃ d', d.write p content = (.ok (), d')) ↔
      (∃ d', d.touch p false = (.ok (), d')) ∧ d.refuses (.fill p) = none := by
  rw [write]
  rcases htouch : d.touch p false with ⟨fault | _, opened⟩
  · simp
  · obtain ⟨-, hrefuses, old, isPrivate, hfind⟩ := touch_eq_ok htouch
    have hfile : opened.find? p = some (.file old isPrivate) := by rw [hfind, if_pos rfl]
    rw [← hrefuses]
    rcases fill_cases hfile content with ⟨hallowed, d', hfill, -⟩ |
      ⟨⟨reason, hrefused⟩, _, _, hfill, -⟩
    · simp [hfill, hallowed]
    · simp [hfill, hrefused]

theorem write_eq_ok {content : Bytes} (h : d.write p content = (.ok (), d')) :
    (∃ o, d.seek p = .ok o) ∧ d'.refuses = d.refuses ∧ ∃ isPrivate, ∀ q, d'.find? q =
      if q = p then some (.file content isPrivate) else d.find? q := by
  rw [write] at h
  rcases htouch : d.touch p false with ⟨fault | _, opened⟩
  · rw [htouch] at h
    cases h
  · simp only [htouch] at h
    obtain ⟨hseek, hrefuses, old, isPrivate, hfind⟩ := touch_eq_ok htouch
    have hfile : opened.find? p = some (.file old isPrivate) := by rw [hfind, if_pos rfl]
    rcases fill_cases hfile content with ⟨-, d₁, hfill, hsame, hfilled⟩ | ⟨-, _, _, hfill, -⟩
    · obtain rfl : d₁ = d' := (Prod.mk.inj (hfill.symm.trans h)).2
      refine ⟨hseek, hsame.trans hrefuses, isPrivate, fun q => ?_⟩
      rw [hfilled, hfind]
      split_ifs <;> rfl
    · rw [hfill] at h
      cases h

/-- What was written is read, where the file may be opened. -/
theorem read_of_write {content : Bytes} (h : d.write p content = (.ok (), d'))
    (hopened : d.refuses (.access p) = none) : d'.read p = .ok content := by
  obtain ⟨⟨o, hseek⟩, hrefuses, isPrivate, hfind⟩ := write_eq_ok h
  refine read_of_find? (fun k hk => ?_) ((hfind p).trans (if_pos rfl)) (hrefuses ▸ hopened)
  rw [hfind, if_neg (take_ne_self hk)]
  exact (seek_eq_ok hseek).2 k hk

end Disk

end SignIn
