/-!
# Punycode

The ASCII form of a label: its ASCII characters, then one variable-length number for each other
character, in the order of their code points, that says how many steps of a walk over places and
code points lie before it.
-/

namespace SignIn.Domain.Punycode

def base : Nat := 36

/-- The threshold of a digit: from which value on another digit follows. -/
def threshold (k bias : Nat) : Nat :=
  if k ≤ bias then 1 else if bias + 26 ≤ k then 26 else k - bias

theorem threshold_pos (k bias : Nat) : 1 ≤ threshold k bias := by
  unfold threshold
  repeat' split
  all_goals omega

theorem threshold_le (k bias : Nat) : threshold k bias ≤ 26 := by
  unfold threshold
  repeat' split
  all_goals omega

/-- Divides a step count until it is small. Gives it with the digits that were passed. -/
def settle (delta k : Nat) : Nat × Nat :=
  if delta > 455 then settle (delta / 35) (k + base) else (delta, k)

def adapt (delta count : Nat) (first : Bool) : Nat :=
  let delta := if first then delta / 700 else delta / 2
  let (delta, k) := settle (delta + delta / count) 0
  k + 36 * delta / (delta + 38)

def digit (n : Nat) : Char := if n < 26 then Char.ofNat (97 + n) else Char.ofNat (22 + n)

def digitValue? (c : Char) : Option Nat :=
  if 'a' ≤ c ∧ c ≤ 'z' then some (c.toNat - 97)
  else if 'A' ≤ c ∧ c ≤ 'Z' then some (c.toNat - 65)
  else if '0' ≤ c ∧ c ≤ '9' then some (c.toNat - 22)
  else none

/-- A variable-length number from the digit at position `k` on. -/
def number (q k bias : Nat) : List Char :=
  let t := threshold k bias
  if q < t then [digit q]
  else digit (t + (q - t) % (base - t)) :: number ((q - t) / (base - t)) (k + base) bias
termination_by q
decreasing_by
  have h1 := threshold_pos k bias
  exact Nat.lt_of_le_of_lt (Nat.div_le_self _ _) (by omega)

structure Walk where
  delta : Nat
  bias : Nat
  handled : Nat
  output : List Char

/-- One character of the label while the code point `m` is looked for. -/
def Walk.step (m basic : Nat) (w : Walk) (c : Nat) : Walk :=
  if c < m then { w with delta := w.delta + 1 }
  else if c = m then
    { delta := 0
      bias := adapt w.delta (w.handled + 1) (w.handled == basic)
      handled := w.handled + 1
      output := w.output ++ number w.delta base w.bias }
  else w

/-- The code points beyond ASCII, each once, in order. -/
def distinct (points : List Nat) : List Nat :=
  ((points.filter (128 ≤ ·)).mergeSort (· ≤ ·)).eraseDups

def encode (label : List Char) : List Char :=
  let points := label.map Char.toNat
  let plain := label.filter (·.toNat < 128)
  let start : Walk := ⟨0, 72, plain.length, plain ++ if plain.isEmpty then [] else ['-']⟩
  let (w, _) := (distinct points).foldl
    (fun (w, n) m =>
      let w : Walk := { w with delta := w.delta + (m - n) * (w.handled + 1) }
      let w := points.foldl (Walk.step m plain.length) w
      ({ w with delta := w.delta + 1 }, m + 1))
    (start, 128)
  w.output

/-- A variable-length number and the characters after it. -/
def readNumber : List Char → Nat → Nat → Nat → Nat → Option (Nat × List Char)
  | [], _, _, _, _ => none
  | c :: cs, k, weight, acc, bias => do
    let d ← digitValue? c
    let acc := acc + d * weight
    let t := threshold k bias
    if d < t then return (acc, cs)
    else readNumber cs (k + base) (weight * (base - t)) acc bias

theorem readNumber_length {cs rest : List Char} {k weight acc bias n : Nat}
    (h : readNumber cs k weight acc bias = some (n, rest)) : rest.length < cs.length := by
  induction cs generalizing k weight acc with
  | nil => cases h
  | cons c cs ih =>
    unfold readNumber at h
    cases hd : digitValue? c with
    | none =>
      rw [hd] at h
      cases h
    | some d =>
      simp only [hd, Option.bind_eq_bind, Option.bind_some] at h
      split at h
      · cases h
        exact Nat.lt_succ_self _
      · exact Nat.lt_succ_of_lt (ih h)

/-- The numbers of an ASCII form, each naming a place and a code point. The walk stands at place
`i` and code point `n`; only before the first number does it stand at place zero. -/
def decodeNumbers (cs : List Char) (i n bias : Nat) (out : List Char) : Option (List Char) :=
  match cs with
  | [] => some out
  | c :: cs' =>
    match h : readNumber (c :: cs') base 1 0 bias with
    | none => none
    | some (delta, rest) =>
      have := readNumber_length h
      let size := out.length + 1
      let point := n + (i + delta) / size
      let place := (i + delta) % size
      if point < 0x110000 ∧ ¬(0xD800 ≤ point ∧ point < 0xE000) then
        decodeNumbers rest (place + 1) point (adapt delta size (i == 0))
          (out.take place ++ Char.ofNat point :: out.drop place)
      else none
termination_by cs.length
decreasing_by
  exact this

/-- The label of an ASCII form, given without the mark in front of it. -/
def decode? (cs : List Char) : Option (List Char) :=
  let back := cs.reverse
  let tail := (back.takeWhile (· ≠ '-')).reverse
  let plain := (back.drop (tail.length + 1)).reverse
  if plain.all (·.toNat < 128) then decodeNumbers tail 0 128 72 plain else none

end SignIn.Domain.Punycode
