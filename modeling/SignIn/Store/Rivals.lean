import SignIn.Store.Storage

/-!
# Callers that share a key

Callers that take the value of a key in two steps, or set one, over a store that they share. Each
call of the store goes undivided, but between two calls of one caller any of the others may come:
a list of turns says whose call is next, and so spells every order in which the calls can fall.
-/

namespace SignIn

/-- What a caller has still to do with a store: nothing, or a call and what its answer leads to. A
fault of a call is the caller's own. -/
inductive Calls (α : Type) where
  | ended (answer : Except StoreFault α)
  | set (k v : String) (next : Unit → Calls α)
  | get (k : String) (next : Option String → Calls α)
  | remove (k : String) (next : Bool → Calls α)

namespace Calls

variable {σ α β : Type}

def bind : Calls α → (α → Calls β) → Calls β
  | ended (.ok a), f => f a
  | ended (.error fault), _ => ended (.error fault)
  | set k v next, f => set k v fun a => (next a).bind f
  | get k next, f => get k fun a => (next a).bind f
  | remove k next, f => remove k fun a => (next a).bind f

instance : Monad Calls where
  pure a := ended (.ok a)
  bind := bind

def setting (k v : String) : Calls Unit := set k v pure

def getting (k : String) : Calls (Option String) := get k pure

def removing (k : String) : Calls Bool := remove k pure

def after (next : β → Calls α) : Except StoreFault β × σ → Calls α × σ
  | (.ok a, st) => (next a, st)
  | (.error fault, st) => (ended (.error fault), st)

def step (s : Storage σ) : Calls α → σ → Calls α × σ
  | ended answer, st => (ended answer, st)
  | set k v next, st => after next (s.set k v st)
  | get k next, st => after next (s.get k st)
  | remove k next, st => after next (s.remove k st)

end Calls

/-- What a caller does with the key. -/
inductive KeyTask where
  | take
  | set (v : String)
  deriving DecidableEq

/-- The calls of a task. Setting gives no value back. -/
def KeyTask.calls (k : String) : KeyTask → Calls (Option String)
  | take => Storage.takeInSteps Calls.getting Calls.removing k
  | set v => do
    Calls.setting k v
    return none

def KeyTask.value? : KeyTask → Option String
  | take => none
  | set v => some v

/-- Callers over one store. -/
structure Rivals (σ : Type) where
  store : σ
  callers : List (Calls (Option String))

namespace Rivals

variable {σ : Type}

def start (k : String) (tasks : List KeyTask) (st : σ) : Rivals σ := ⟨st, tasks.map (·.calls k)⟩

/-- One caller makes a call. A number that no caller has changes nothing. -/
def turn (s : Storage σ) (r : Rivals σ) (i : Nat) : Rivals σ :=
  match r.callers[i]? with
  | none => r
  | some c =>
    let (c, st) := c.step s r.store
    ⟨st, r.callers.set i c⟩

def run (s : Storage σ) (r : Rivals σ) (turns : List Nat) : Rivals σ := turns.foldl (turn s) r

/-- The answer of a caller that has come to its end. -/
def answer? (r : Rivals σ) (i : Nat) : Option (Except StoreFault (Option String)) :=
  match r.callers[i]? with
  | some (.ended answer) => some answer
  | _ => none

def given? (r : Rivals σ) (i : Nat) : Option String :=
  match r.answer? i with
  | some (.ok v) => v
  | _ => none

end Rivals

end SignIn
