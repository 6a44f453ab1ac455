import SignIn.Number.Binary64
import SignIn.Text.Bytes

/-!
# The shortest decimal of a binary64 number

Of all decimals that round to the number, one with the fewest digits and, among those, the
nearest. It is found on the grids of one, two, up to seventeen digits: the number's two
neighbours on a grid are tested against the interval of reals that round to it.
-/

namespace SignIn.Binary64

/-- A positive decimal, `digits * 10 ^ exponent`. -/
structure Decimal where
  digits : Nat
  exponent : Int
  deriving DecidableEq, Repr

namespace Decimal

def ratio (d : Decimal) : Nat × Nat :=
  match d.exponent with
  | .ofNat k => (d.digits * Nat.pow 10 k, 1)
  | .negSucc k => (d.digits, Nat.pow 10 (k + 1))

/-- The same value with at most `fuel` trailing zeros moved into the exponent. -/
def strip : Nat → Decimal → Decimal
  | 0, d => d
  | fuel + 1, d =>
    if d.digits % 10 = 0 then strip fuel ⟨d.digits / 10, d.exponent + 1⟩ else d

end Decimal

/-- Twice-scaled ends of the interval that rounds to the number: a quarter of a unit in the last
place is the unit here. The lower half is shorter where the significand is the least of its
exponent. -/
def ends (x : Binary64) : Nat × Nat :=
  let m := 4 * x.significand
  let below := if x.significand = leastNormal ∧ x.exponent ≠ leastExponent then 1 else 2
  (m - below, m + 2)

/-- Whether a decimal rounds to the number. -/
def covers (x : Binary64) (d : Decimal) : Bool :=
  let (num, den) := d.ratio
  let (n, k) := scaled num den (x.exponent - 2)
  let (lo, hi) := x.ends
  if x.significand % 2 = 0 then decide (lo * k ≤ n ∧ n ≤ hi * k)
  else decide (lo * k < n ∧ n < hi * k)

/-- How far a decimal lies from the number, in a unit common to all decimals of one exponent. -/
def distance (x : Binary64) (d : Decimal) : Nat :=
  let (a, b) := x.ratio
  let (c, e) := d.ratio
  (a * e - c * b) + (c * b - a * e)

/-- The exponent of ten of the number's first digit: `10 ^ k ≤ x < 10 ^ (k + 1)`, looked for
upwards from a lower bound. -/
def leading (x : Binary64) : Int :=
  let (a, b) := x.ratio
  let atLeast (k : Int) : Bool :=
    match k with
    | .ofNat j => decide (b * Nat.pow 10 j ≤ a)
    | .negSucc j => decide (b ≤ a * Nat.pow 10 (j + 1))
  let start : Int := ((a.log2 : Int) - b.log2 - 1) * 30103 / 100000 - 1
  if atLeast (start + 3) then start + 3
  else if atLeast (start + 2) then start + 2
  else if atLeast (start + 1) then start + 1
  else start

/-- The better of the number's two neighbours on the grid of `n` digits, if one of them rounds
to it. -/
def onGrid? (x : Binary64) (n : Nat) : Option Decimal :=
  let e := x.leading - n + 1
  let (a, b) := x.ratio
  let low : Nat :=
    match e with
    | .ofNat k => a / (b * Nat.pow 10 k)
    | .negSucc k => a * Nat.pow 10 (k + 1) / b
  let below : Decimal := ⟨low, e⟩
  let above : Decimal := ⟨low + 1, e⟩
  match x.covers below, x.covers above with
  | false, false => none
  | true, false => some below
  | false, true => some above
  | true, true =>
    if x.distance below < x.distance above then some below
    else if x.distance above < x.distance below then some above
    else if low % 2 = 0 then some below else some above

def shortest (x : Binary64) : Decimal :=
  let found := (List.range 17).findSome? fun n => x.onGrid? (n + 1)
  (found.getD ⟨x.significand, 0⟩).strip 20

/-- Where positional notation ends: it is used for a point within the digits or after at most
`positionalEnd` places, and for at most `leadingZeros` zeros between the point and the digits. -/
structure Style where
  positionalEnd : Int
  leadingZeros : Int

/-- Points up to the sixteenth place and four zeros after the point are written out. -/
def jsonStyle : Style := ⟨16, 4⟩

/-- The text of a number: a whole number ends in `.0`, and an exponent has a sign. -/
def text (x : Binary64) (style : Style := jsonStyle) : Bytes :=
  let sign : Bytes := if x.negative then [45] else []
  if x.significand = 0 then sign ++ Bytes.ofText "0.0"
  else
    let d := x.shortest
    let ds := Bytes.decimal d.digits
    let point : Int := ds.length + d.exponent
    let zeros (n : Int) : Bytes := List.replicate n.toNat 48
    if 0 ≤ d.exponent ∧ point ≤ style.positionalEnd then
      sign ++ ds ++ zeros d.exponent ++ Bytes.ofText ".0"
    else if 0 < point ∧ point ≤ style.positionalEnd then
      sign ++ ds.take point.toNat ++ [46] ++ ds.drop point.toNat
    else if -style.leadingZeros ≤ point ∧ point ≤ 0 then
      sign ++ Bytes.ofText "0." ++ zeros (-point) ++ ds
    else
      let mantissa := if ds.length = 1 then ds else ds.take 1 ++ [46] ++ ds.drop 1
      let power := point - 1
      sign ++ mantissa ++ [101] ++ (if power < 0 then [] else [43]) ++ Bytes.integer power

end SignIn.Binary64
