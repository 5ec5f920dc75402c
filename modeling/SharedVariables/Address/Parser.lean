import SharedVariables.Address.Basic
import SharedVariables.Text.Hex

/-!
# Reading addresses

The forms in which addresses are written. Readers take characters off the front of a list and give
the rest; an address stands alone if nothing is left behind it.
-/

namespace SharedVariables.Address

/-- The value of a digit to a base of at most 16. -/
def digitValue? (base : Nat) (c : Char) : Option Nat :=
  (Text.hexValue? c).filter (· < base)

/-- The number that digits to a base spell, or `most` if that is less. -/
def digitsValue (base most : Nat) (digits : List Char) : Nat :=
  digits.foldl (fun n c => min most (n * base + (digitValue? base c).getD 0)) 0

/-- The digits to a base in front, and the rest. -/
def digits (base : Nat) (cs : List Char) : List Char × List Char :=
  cs.span fun c => (digitValue? base c).isSome

/-- A number up to `limit`, written with at most `most` digits. -/
def number (base most limit : Nat) (cs : List Char) : Option (Nat × List Char) :=
  let (ds, rest) := digits base cs
  let n := digitsValue base (limit + 1) ds
  if ds.isEmpty ∨ most < ds.length ∨ limit < n then none else some (n, rest)

/-- A number up to `limit`, however many zeros stand before it. -/
def anyNumber (base limit : Nat) (cs : List Char) : Option (Nat × List Char) :=
  number base cs.length limit cs

/-- One character. -/
def char (c : Char) : List Char → Option (Unit × List Char)
  | d :: rest => if d = c then some ((), rest) else none
  | [] => none

/-- A byte of an IPv4 address: up to three digits and no superfluous zero. -/
def octet (cs : List Char) : Option (UInt8 × List Char) := do
  let (n, rest) ← number 10 3 255 cs
  if cs.head? = some '0' ∧ cs.length ≠ rest.length + 1 then none else some (.ofNat n, rest)

/-- An IPv4 address. -/
def ipv4 (cs : List Char) : Option (Ipv4Address × List Char) := do
  let (a, cs) ← octet cs
  let (_, cs) ← char '.' cs
  let (b, cs) ← octet cs
  let (_, cs) ← char '.' cs
  let (c, cs) ← octet cs
  let (_, cs) ← char '.' cs
  let (d, cs) ← octet cs
  return (⟨a, b, c, d⟩, cs)

/-- What `r` reads, behind a colon unless it comes first. -/
def behindColon {α : Type} (first : Bool) (r : List Char → Option (α × List Char))
    (cs : List Char) : Option (α × List Char) :=
  if first then r cs else (char ':' cs).bind fun (_, rest) => r rest

/-- At most `left` groups of an IPv6 address, as many as there are, and whether the last two are
written as an IPv4 address. -/
def groups : (left : Nat) → (first : Bool) → List Char → (List UInt16 × Bool) × List Char
  | 0, _, cs => (([], false), cs)
  | left + 1, first, cs =>
    match if left = 0 then none else behindColon first ipv4 cs with
    | some (ip, rest) =>
      ((ip.groups, true), rest)
    | none =>
      match behindColon first (number 16 4 0xFFFF) cs with
      | some (n, rest) =>
        let ((gs, v4), rest) := groups left false rest
        ((.ofNat n :: gs, v4), rest)
      | none => (([], false), cs)

/-- An IPv6 address: eight groups, or fewer with a double colon for one or more zero groups. -/
def ipv6 (cs : List Char) : Option (Ipv6Address × List Char) :=
  let ((front, v4), cs) := groups 8 true cs
  if h : front.toArray.size = 8 then some (⟨⟨front.toArray, h⟩⟩, cs)
  else if v4 then none
  else do
    let (_, cs) ← char ':' cs
    let (_, cs) ← char ':' cs
    let ((back, _), cs) := groups (8 - (front.length + 1)) true cs
    let all := (front ++ List.replicate (8 - front.length - back.length) 0 ++ back).toArray
    if h : all.size = 8 then some (⟨⟨all, h⟩⟩, cs) else none

/-- The port of a socket: a colon and a number. -/
def portBehind (cs : List Char) : Option (UInt16 × List Char) := do
  let (_, cs) ← char ':' cs
  let (n, cs) ← anyNumber 10 0xFFFF cs
  return (.ofNat n, cs)

/-- The scope of an address: a percent sign and a number, or nothing. -/
def scope (cs : List Char) : UInt32 × List Char :=
  match (char '%' cs).bind fun (_, rest) => anyNumber 10 0xFFFFFFFF rest with
  | some (n, rest) => (.ofNat n, rest)
  | none => (0, cs)

/-- A socket of the older family. -/
def socketV4 (cs : List Char) : Option (SocketAddress × List Char) := do
  let (host, cs) ← ipv4 cs
  let (port, cs) ← portBehind cs
  return (.v4 host port, cs)

/-- A socket of the newer family: the address, with its scope if it has one, stands in brackets. -/
def socketV6 (cs : List Char) : Option (SocketAddress × List Char) := do
  let (_, cs) ← char '[' cs
  let (host, cs) ← ipv6 cs
  let (scope, cs) := scope cs
  let (_, cs) ← char ']' cs
  let (port, cs) ← portBehind cs
  return (.v6 host port scope, cs)

/-- What `r` reads, if it reads all of a text. -/
def whole? {α : Type} (r : List Char → Option (α × List Char)) (s : List Char) : Option α :=
  match r s with
  | some (a, []) => some a
  | _ => none

end SharedVariables.Address

namespace SharedVariables

namespace IpAddress

/-- The host's address that a text is. -/
def parse? (s : String) : Option IpAddress :=
  ((Address.whole? Address.ipv4 s.toList).map .v4).or
    ((Address.whole? Address.ipv6 s.toList).map .v6)

end IpAddress

/-- The socket's address that a text is. -/
def SocketAddress.parse? (s : String) : Option SocketAddress :=
  (Address.whole? Address.socketV4 s.toList).or (Address.whole? Address.socketV6 s.toList)

end SharedVariables
