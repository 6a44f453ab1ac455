import SignIn.Domain.Name
import SignIn.Url.Address
import SignIn.Url.Fault
import SignIn.Url.Percent

/-!
# Hosts

The host of a URL is a name or an address. In a special scheme a name is a domain name in ASCII,
and one that ends in a number has to be an IPv4 address; in other schemes any text without the
delimiters of a URL will do.
-/

namespace SignIn

inductive Host where
  | name (text : String)
  | v4 (address : UInt32)
  | v6 (pieces : List Nat)
  deriving DecidableEq

namespace Host

def text : Host → String
  | .name s => s
  | .v4 a => Url.v4Text a
  | .v6 ps => "[" ++ Url.v6Text ps ++ "]"

/-- The address between brackets, from its opening bracket on. -/
def bracketed (cs : List Char) : Except UrlFault Host :=
  match cs.drop 1, cs.getLast? with
  | inside, some ']' =>
    match Url.v6Pieces? inside.dropLast with
    | some ps => .ok (.v6 ps)
    | none => .error .badV6Address
  | _, _ => .error .badV6Address

def special (cs : List Char) : Except UrlFault Host :=
  if cs.head? = some '[' then bracketed cs
  else
    match (Bytes.text? (Url.percentDecode cs)).bind fun s => Domain.toAscii? s.toList with
    | none => .error .badDomainName
    | some [] => .error .emptyHost
    | some ascii =>
      if Url.endsInNumber ascii then
        match Url.v4Address? ascii with
        | some a => .ok (.v4 a)
        | none => .error .badV4Address
      else .ok (.name (String.ofList ascii))

/-- Characters that may not stand in the host of any scheme. -/
def delimiter (c : Char) : Bool :=
  ['\x00', '\t', '\n', '\r', ' ', '#', '/', ':', '<', '>', '?', '@', '[', '\\', ']', '^',
    '|'].contains c

/-- The host of a URL of another scheme, none if it is empty. -/
def plain (cs : List Char) : Except UrlFault (Option Host) :=
  if cs.head? = some '[' then (bracketed cs).map some
  else if cs.any delimiter then .error .badHostCharacter
  else if cs.isEmpty then .ok none
  else .ok (some (.name (String.ofList (Url.percentEncode Url.controlSet cs))))

end Host

end SignIn
