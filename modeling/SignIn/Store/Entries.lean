import SignIn.KeyValue

/-!
# Entries of a store

A finite map from texts to texts: what every store holds, whatever keeps it.
-/

namespace SignIn

/-- A finite map from texts to texts. -/
structure Entries where
  list : List (String × String)
  sorted : KeyValue.Sorted list

namespace Entries

def empty : Entries := ⟨[], List.Pairwise.nil⟩

def get? (e : Entries) (k : String) : Option String := KeyValue.find? k e.list

def set (e : Entries) (k v : String) : Entries :=
  ⟨KeyValue.insert k v e.list, KeyValue.sorted_insert e.sorted⟩

def erase (e : Entries) (k : String) : Entries :=
  ⟨KeyValue.erase k e.list, KeyValue.sorted_erase e.sorted⟩

def size (e : Entries) : Nat := e.list.length

/-- The entries of pairs, the last value of each key. -/
def ofPairs (pairs : List (String × String)) : Entries :=
  pairs.foldl (fun e p => e.set p.1 p.2) empty

@[simp] theorem get?_empty (k : String) : empty.get? k = none := rfl

@[simp] theorem get?_set (e : Entries) (k k' v : String) :
    (e.set k v).get? k' = if k' = k then some v else e.get? k' :=
  KeyValue.find?_insert k k' v e.list

@[simp] theorem get?_erase (e : Entries) (k k' : String) :
    (e.erase k).get? k' = if k' = k then none else e.get? k' :=
  KeyValue.find?_erase e.sorted

/-- Entries are determined by the values of their keys. -/
@[ext] theorem ext {e f : Entries} (h : ∀ k, e.get? k = f.get? k) : e = f := by
  cases e
  cases f
  congr 1
  exact KeyValue.eq_of_find?_eq ‹_› ‹_› h

end Entries

end SignIn
