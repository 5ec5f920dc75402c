import SharedVariables.Address.Parser

/-!
# Hosts that need no look-up

A host may be written as a number where a name could stand: as an IPv6 address, or as one to four
numbers, decimal, octal or hexadecimal, of which all but the last are bytes and the last fills the
rest of an IPv4 address. Names of hosts are not looked up.
-/

namespace SharedVariables.Address

/-- A natural number up to `limit` in decimal; a plus sign may stand before it. -/
def decimal? (limit : Nat) (s : List Char) : Option Nat :=
  let unsigned := match s with
    | '+' :: rest => rest
    | _ => s
  whole? (anyNumber 10 limit) unsigned

/-- A number whose base shows in front: `0x` for hexadecimal, another zero for octal. -/
def basedNumber? : List Char → Option Nat
  | '0' :: 'x' :: rest => whole? (anyNumber 16 0xFFFFFFFF) rest
  | '0' :: 'X' :: rest => whole? (anyNumber 16 0xFFFFFFFF) rest
  | '0' :: rest => whole? (anyNumber 8 0xFFFFFFFF) ('0' :: rest)
  | cs => whole? (anyNumber 10 0xFFFFFFFF) cs

/-- The pieces of a list between the characters `separator`. -/
def splitOn (separator : Char) : List Char → List (List Char)
  | [] => [[]]
  | c :: cs =>
    if c = separator then [] :: splitOn separator cs
    else
      match splitOn separator cs with
      | piece :: pieces => (c :: piece) :: pieces
      | [] => [[c]]

/-- An IPv4 address of one to four numbers: those in front are bytes, the last is `last` or less. -/
def looseIpv4? (cs : List Char) : Option Ipv4Address := do
  match ← (splitOn '.' cs).mapM basedNumber? with
  | [n] => some (.ofNat n)
  | [a, n] => if a ≤ 255 ∧ n < 0x1000000 then some (.ofNat (a * 0x1000000 + n)) else none
  | [a, b, n] =>
    if a ≤ 255 ∧ b ≤ 255 ∧ n < 0x10000 then some (.ofNat (a * 0x1000000 + b * 0x10000 + n))
    else none
  | [a, b, c, n] =>
    if a ≤ 255 ∧ b ≤ 255 ∧ c ≤ 255 ∧ n ≤ 255 then
      some (.ofNat (a * 0x1000000 + b * 0x10000 + c * 0x100 + n))
    else none
  | _ => none

/-- An IPv6 address and its scope, if it has one. -/
def scopedIpv6 (cs : List Char) : Option ((Ipv6Address × UInt32) × List Char) := do
  let (ip, cs) ← ipv6 cs
  let (scope, cs) := scope cs
  return ((ip, scope), cs)

/-- The socket at a host that is written as a number. -/
def numericHost? (host : List Char) (port : UInt16) : Option SocketAddress :=
  ((looseIpv4? host).map (SocketAddress.v4 · port)).or
    ((whole? scopedIpv6 host).map fun (ip, scope) => .v6 ip port scope)

/-- The characters before and behind the last colon. -/
def splitLastColon? (cs : List Char) : Option (List Char × List Char) :=
  let behind := cs.reverse.takeWhile (· != ':')
  if behind.length < cs.length then
    some ((cs.reverse.drop (behind.length + 1)).reverse, behind.reverse)
  else none

/-- The socket at a host and a port with a colon between them. -/
def hostAndPort? (cs : List Char) : Option SocketAddress := do
  let (host, port) ← splitLastColon? cs
  let port ← decimal? 0xFFFF port
  numericHost? host (.ofNat port)

end SharedVariables.Address
