import Mathlib.Data.List.Induction
import SignIn.Proofs.Session.Turn

/-!
# Stories of runs

A scene is what can be seen of managers over one store: what they remember, the calls that wait, the
notices, and what the store answers for each key. A moment is an act with its answer and the scenes
before and after it, and a story is the list of the moments of a run. Over every reliable store a
run tells the story that it tells in memory.
-/

namespace SignIn

/-- What can be seen of managers over one store. -/
structure Scene where
  managers : List Manager
  waiting : List Ticket
  notices : List (Nat × Notice)
  keeps : String → Except StoreFault (Option String)

/-- An act in a run, with what it was answered and what was seen before and after it. -/
structure Moment (A B : Type) where
  before : Scene
  act : A
  answer : B
  after : Scene

variable {σ : Type} {A B : Type}

def OpenManagers.scene (s : Storage σ) (o : OpenManagers σ) : Scene :=
  ⟨o.managers, o.waiting, o.notices, fun k => (s.get k o.store).1⟩

section Story

variable (s : Storage σ) (step : OpenManagers σ → A → B × OpenManagers σ)

/-- The moment at which an act is carried out. -/
def moment (o : OpenManagers σ) (a : A) : Moment A B :=
  ⟨o.scene s, a, (step o a).1, (step o a).2.scene s⟩

def reach (o : OpenManagers σ) (acts : List A) : OpenManagers σ :=
  acts.foldl (fun o a => (step o a).2) o

/-- The moments of acts, the earliest first. -/
def story (o : OpenManagers σ) : List A → List (Moment A B)
  | [] => []
  | a :: acts => moment s step o a :: story (step o a).2 acts

variable {s step} {o : OpenManagers σ}

theorem reach_append (as bs : List A) :
    reach step o (as ++ bs) = reach step (reach step o as) bs := by
  simp [reach]

theorem story_append (as bs : List A) :
    story s step o (as ++ bs) = story s step o as ++ story s step (reach step o as) bs := by
  induction as generalizing o with
  | nil => rfl
  | cons a as ih => exact congrArg (_ :: ·) ih

theorem story_concat (as : List A) (a : A) :
    story s step o (as ++ [a]) = story s step o as ++ [moment s step (reach step o as) a] :=
  story_append as [a]

theorem map_act_story (as : List A) : (story s step o as).map (·.act) = as := by
  induction as generalizing o with
  | nil => rfl
  | cons a as ih => exact congrArg (a :: ·) ih

theorem exists_of_story_eq {as : List A} {xs ys : List (Moment A B)} {x : Moment A B}
    (h : story s step o as = xs ++ x :: ys) :
    ∃ bs b cs, as = bs ++ b :: cs ∧ xs = story s step o bs ∧ x = moment s step (reach step o bs) b ∧
      ys = story s step (step (reach step o bs) b).2 cs := by
  induction xs generalizing o as with
  | nil =>
    cases as with
    | nil => cases h
    | cons a as =>
      obtain ⟨hx, hys⟩ := List.cons.inj h
      exact ⟨[], a, as, rfl, rfl, hx.symm, hys.symm⟩
  | cons y xs ih =>
    cases as with
    | nil => cases h
    | cons a as =>
      obtain ⟨hy, htail⟩ := List.cons.inj h
      obtain ⟨bs, b, cs, rfl, rfl, hx, hys⟩ := ih htail
      exact ⟨a :: bs, b, cs, rfl, by rw [← hy]; rfl, hx, hys⟩

/-- What holds before all acts and is kept by each act holds after all acts. -/
theorem story_induction {P : List (Moment A B) → OpenManagers σ → Prop} (hnil : P [] o)
    (hact : ∀ xs o a, P xs o → P (xs ++ [moment s step o a]) (step o a).2) (as : List A) :
    P (story s step o as) (reach step o as) := by
  induction as using List.reverseRecOn with
  | nil => exact hnil
  | append_singleton as a ih =>
    rw [story_concat, reach_append]
    exact hact _ _ a ih

end Story

section Mirror

variable {s : Storage σ} {Holds : σ → Entries → Prop}

theorem OpenManagers.MirroredBy.scene_eq (hs : s.Reliable Holds) {o : OpenManagers σ}
    {o' : OpenManagers Entries}
    (h : o.MirroredBy Holds o') : o.scene s = o'.scene .memory := by
  have hkeeps : (fun k => (s.get k o.store).1) = fun k => (Storage.memory.get k o'.store).1 :=
    funext fun k => (hs.get k _ _ h.store).1
  simp only [OpenManagers.scene, h.managers, h.waiting, h.notices, hkeeps]

theorem story_eq_of_mirroredBy (hs : s.Reliable Holds)
    {step : OpenManagers σ → A → B × OpenManagers σ}
    {step' : OpenManagers Entries → A → B × OpenManagers Entries}
    (hstep : ∀ {o o'} a, OpenManagers.MirroredBy Holds o o' →
      (step o a).1 = (step' o' a).1 ∧ (step o a).2.MirroredBy Holds (step' o' a).2)
    {o : OpenManagers σ} {o' : OpenManagers Entries} (h : o.MirroredBy Holds o') (acts : List A) :
    story s step o acts = story .memory step' o' acts := by
  induction acts generalizing o o' with
  | nil => rfl
  | cons a acts ih =>
    obtain ⟨hanswer, hafter⟩ := hstep a h
    simp only [story, moment, h.scene_eq hs, hafter.scene_eq hs, hanswer, ih hafter]

end Mirror

namespace OpenManagers

variable (p : Platform σ)

/-- A store over which no manager is open. -/
def closed (st : σ) : OpenManagers σ := { store := st }

def story (o : OpenManagers σ) (acts : List Act) : List (Moment Act Answer) :=
  SignIn.story p.storage (fun o a => o.step p a) o acts

variable {p}

theorem story_eq_inMemory {Holds : σ → Entries → Prop} (hp : p.Reliable Holds) {st : σ}
    {st' : Entries} (hst : Holds st st') (acts : List Act) :
    (closed st).story p acts = (closed st').story p.inMemory acts :=
  story_eq_of_mirroredBy hp.storage (fun a h => h.step hp a) ⟨hst, rfl, rfl, rfl, rfl⟩ acts

end OpenManagers

/-! ## A node -/

def Answer.fault? : Answer → Option AuthFault
  | .fault f => some f
  | _ => none

def Url.secure (host : String) (parts : List String) : Url where
  scheme := "https"
  authority := some ⟨"", none, some (.name host), none⟩
  path := .segments parts
  query := none
  fragment := none

/-- The endpoints of a node, for runs that are told in full. -/
def Endpoints.sample : Endpoints where
  serverOrigin := .secure "node.example" [""]
  issuer := "https://node.example/oauth/authorize"
  authorization := .secure "node.example" ["oauth", "authorize"]
  token := .secure "node.example" ["oauth", "token"]
  clientId := "https://app.example/client-metadata.json"

/-- Managers at this node, over a store in memory that takes values in two steps. -/
def Platform.sample : Platform Entries := ⟨.plain, pure (), .sample⟩

theorem Platform.sample_reliable : sample.Reliable Eq where
  storage := Storage.plain_reliable
  opens := by rintro s _ rfl; exact ⟨rfl, rfl⟩

end SignIn
