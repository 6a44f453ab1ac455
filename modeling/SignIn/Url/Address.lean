import SignIn.Text.Blank
import SignIn.Text.Quoted

/-!
# Addresses

IPv4 addresses in their many spellings and IPv6 addresses, read and written.
-/

namespace SignIn.Url

def radixDigit? (radix : Nat) (c : Char) : Option Nat :=
  let value? : Option Nat :=
    if '0' ≤ c ∧ c ≤ '9' then some (c.toNat - 48)
    else if 'a' ≤ c ∧ c ≤ 'f' then some (c.toNat - 87)
    else if 'A' ≤ c ∧ c ≤ 'F' then some (c.toNat - 55)
    else none
  value?.filter (· < radix)

/-- The value of digits in a radix. -/
def radixNumber? (radix : Nat) (cs : List Char) : Option Nat :=
  cs.foldlM (fun acc c => (radixDigit? radix c).map fun d => acc * radix + d) 0

/-- One part of an IPv4 address: decimal, octal after `0`, or hexadecimal after `0x`. -/
def v4Part? (cs : List Char) : Option Nat :=
  match cs with
  | [] => none
  | '0' :: 'x' :: rest => radixNumber? 16 rest
  | '0' :: 'X' :: rest => radixNumber? 16 rest
  | ['0'] => some 0
  | '0' :: rest => radixNumber? 8 rest
  | _ => radixNumber? 10 cs

def dottedParts (cs : List Char) : List (List Char) :=
  let parts := Text.splitWhere (· == '.') cs
  if parts.getLast? = some [] ∧ parts.length > 1 then parts.dropLast else parts

/-- Whether a name has to be an IPv4 address: its last part is a number. -/
def endsInNumber (cs : List Char) : Bool :=
  match (dottedParts cs).getLast? with
  | none => false
  | some part => (!part.isEmpty && part.all Char.isDigit) || (v4Part? part).isSome

/-- The IPv4 address of a dotted name: each part but the last is a byte, the last fills what is
left. -/
def v4Address? (cs : List Char) : Option UInt32 := do
  let parts := dottedParts cs
  if parts.length > 4 then failure
  let numbers ← parts.mapM v4Part?
  let last ← numbers.getLast?
  let high := numbers.dropLast
  if high.any (255 < ·) then failure
  if Nat.pow 256 (4 - high.length) ≤ last then failure
  let top := high.foldl (fun acc n => acc * 256 + n) 0
  return UInt32.ofNat (top * Nat.pow 256 (4 - high.length) + last)

def v4Text (a : UInt32) : String :=
  let byte (k : Nat) : String := toString (a.toNat / Nat.pow 256 k % 256)
  byte 3 ++ "." ++ byte 2 ++ "." ++ byte 1 ++ "." ++ byte 0

/-- A byte in decimal without leading zeros. -/
def plainByte? (cs : List Char) : Option Nat := do
  if cs.isEmpty || (cs.length > 1 && cs.head? == some '0') then failure
  let n ← radixNumber? 10 cs
  if n ≤ 255 then return n else failure

/-- The two last pieces of an IPv6 address that ends in the dotted form of an IPv4 address. -/
def dottedPieces? (cs : List Char) : Option (List Nat) := do
  match ← (Text.splitWhere (· == '.') cs).mapM plainByte? with
  | [a, b, c, d] => return [a * 256 + b, c * 256 + d]
  | _ => failure

def piece? (cs : List Char) : Option Nat :=
  if cs.isEmpty || cs.length > 4 then none else radixNumber? 16 cs

/-- The pieces of one side of an IPv6 address, the last possibly in dotted form. -/
def sidePieces? (dotted : Bool) : List (List Char) → Option (List Nat)
  | [] => some []
  | [last] =>
    if dotted && last.contains '.' then dottedPieces? last else (piece? last).map ([·])
  | p :: ps => do return (← piece? p) :: (← sidePieces? dotted ps)

/-- The text before and after the first double colon. -/
def splitGap : List Char → List Char × Option (List Char)
  | [] => ([], none)
  | ':' :: ':' :: cs => ([], some cs)
  | c :: cs =>
    let (before, after) := splitGap cs
    (c :: before, after)

def side? (dotted : Bool) (cs : List Char) : Option (List Nat) :=
  if cs.isEmpty then some [] else sidePieces? dotted (Text.splitWhere (· == ':') cs)

/-- The eight pieces of an IPv6 address. A double colon stands for one piece of zero or more. -/
def v6Pieces? (cs : List Char) : Option (List Nat) :=
  match splitGap cs with
  | (all, none) => (side? true all).filter (·.length = 8)
  | (before, some after) => do
    let left ← side? false before
    let right ← side? true after
    let size := left.length + right.length
    if size ≤ 7 then return left ++ List.replicate (8 - size) 0 ++ right else failure

/-- The longest run of zeros that starts at the front. -/
def zeroRun (ps : List Nat) : Nat := (ps.takeWhile (· == 0)).length

/-- Where the first longest run of two zeros or more starts, and its length. -/
def longestRun (ps : List Nat) : Option (Nat × Nat) :=
  let runs := (List.range ps.length).map fun i => (i, zeroRun (ps.drop i))
  let best := runs.foldl
    (fun (b : Nat × Nat) r => if b.2 < r.2 then r else b) (0, 0)
  if best.2 ≥ 2 then some best else none

def piecesText (ps : List Nat) : List Char :=
  (String.intercalate ":" (ps.map fun n => String.ofList (Text.hexNumber n))).toList

/-- An IPv6 address, its longest run of zeros left out. -/
def v6Text (ps : List Nat) : String :=
  match longestRun ps with
  | none => String.ofList (piecesText ps)
  | some (start, size) =>
    String.ofList (piecesText (ps.take start) ++ [':', ':'] ++ piecesText (ps.drop (start + size)))

end SignIn.Url
