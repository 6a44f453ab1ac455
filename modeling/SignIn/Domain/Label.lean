import SignIn.Domain.LabelTable
import SignIn.Domain.Mapping
import SignIn.Domain.Punycode

/-!
# Labels

A label beyond ASCII is written in Punycode after a mark. It has to be in mapped form, does not
begin with a combining mark, and uses the joiners only where they change how letters are written.
Where a name has letters that are written from right to left, each label has one direction.
-/

namespace SignIn.Domain

def aceMark : List Char := ['x', 'n', '-', '-']

def isAscii (cs : List Char) : Bool := cs.all (·.toNat < 128)

/-! ## Joiners -/

def marks : List (Nat × Nat) := Text.readRanges markRanges

def joiningAfter : List (Nat × Nat) := Text.readRanges joiningAfterRanges

def joiningBefore : List (Nat × Nat) := Text.readRanges joiningBeforeRanges

def transparent : List (Nat × Nat) := Text.readRanges transparentRanges

/-- Whether the nearest letter of a text, seen through transparent characters, is in ranges. -/
def nearestIn (ranges : List (Nat × Nat)) : List Char → Bool
  | [] => false
  | c :: cs => if Text.inRanges transparent c then nearestIn ranges cs else Text.inRanges ranges c

/-- Whether a joiner may stand between two texts, the first of which is given backwards. A virama
before it suffices; one that keeps letters apart may also stand where they would join. -/
def joinerFits (keepsApart : Bool) (before after : List Char) : Bool :=
  before.head?.any (Text.combiningClass · == 9) ||
    (keepsApart && nearestIn joiningAfter before && nearestIn joiningBefore after)

/-- Whether every joiner of a text is in its place. What stands before it is given backwards. -/
def joinersFit (before : List Char) : List Char → Bool
  | [] => true
  | c :: cs =>
    (if c.toNat == 0x200C then joinerFits true before cs
      else if c.toNat == 0x200D then joinerFits false before cs
      else true) && joinersFit (c :: before) cs

def isWideLabel (cs : List Char) : Bool :=
  !isAscii cs && mapped? cs == some cs && !cs.head?.any (Text.inRanges marks) &&
    joinersFit [] cs

/-! ## Direction -/

/-- How a character takes part in the direction of a label. -/
inductive Direction where
  | leftToRight
  | rightToLeft
  | arabicDigit
  | commonDigit
  | neutral
  | mark
  deriving DecidableEq

def rightToLeft : List (Nat × Nat) := Text.readRanges rightToLeftRanges

def arabicDigits : List (Nat × Nat) := Text.readRanges arabicDigitRanges

def commonDigits : List (Nat × Nat) := Text.readRanges commonDigitRanges

def neutrals : List (Nat × Nat) := Text.readRanges neutralRanges

def directionlessMarks : List (Nat × Nat) := Text.readRanges directionlessMarkRanges

def direction (c : Char) : Direction :=
  if c.toNat < 128 then
    if c.isAlpha then .leftToRight else if c.isDigit then .commonDigit else .neutral
  else if Text.inRanges rightToLeft c then .rightToLeft
  else if Text.inRanges arabicDigits c then .arabicDigit
  else if Text.inRanges commonDigits c then .commonDigit
  else if Text.inRanges neutrals c then .neutral
  else if Text.inRanges directionlessMarks c then .mark
  else .leftToRight

/-- Whether characters of these directions make up a label of one direction: the first letter
sets it, letters of the other do not occur, and the last character but for marks is a letter or
a digit. A label from right to left keeps to one kind of digits. -/
def hasOneDirection (ds : List Direction) : Bool :=
  let last? := (ds.reverse.dropWhile (· == .mark)).head?
  match ds with
  | [] => true
  | .leftToRight :: _ =>
    !ds.contains .rightToLeft && !ds.contains .arabicDigit &&
      last?.any fun d => d == .leftToRight || d == .commonDigit
  | .rightToLeft :: _ =>
    !ds.contains .leftToRight && !(ds.contains .arabicDigit && ds.contains .commonDigit) &&
      last?.any fun d => d == .rightToLeft || d == .arabicDigit || d == .commonDigit
  | _ => false

/-- Whether labels can stand together: if one of them has a letter or a digit that is written
from right to left, each has to have one direction. -/
def directionsFit (labels : List (List Char)) : Bool :=
  let directions := labels.map (·.map direction)
  !directions.any (fun ds => ds.contains .rightToLeft || ds.contains .arabicDigit) ||
    directions.all hasOneDirection

/-! ## Writing -/

structure Label where
  text : List Char
  written : List Char
  deriving DecidableEq

/-- The label of a part of a mapped name. What is written in Punycode has to say the same when it
is read. -/
def Label.ofPart? (part : List Char) : Option Label :=
  if part.take 4 == aceMark then
    match Punycode.decode? (part.drop 4) with
    | some text => if isWideLabel text then some ⟨text, part⟩ else none
    | none => none
  else if isAscii part then some ⟨part, part⟩
  else
    let code := Punycode.encode part
    if isWideLabel part && Punycode.decode? code == some part then some ⟨part, aceMark ++ code⟩
    else none

end SignIn.Domain
