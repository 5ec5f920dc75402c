import SharedVariables.Address.Basic

/-!
# Writing addresses

An IPv4 address is written as four decimal numbers. In an IPv6 address the first of the longest runs
of at least two zero groups is left out; one that stands for an IPv4 address ends in the form of
that.
-/

namespace SharedVariables

/-- The text of an IPv4 address. -/
def Ipv4Address.text (ip : Ipv4Address) : String :=
  s!"{ip.a.toNat}.{ip.b.toNat}.{ip.c.toNat}.{ip.d.toNat}"

namespace Ipv6Address

/-- The groups of an address in hexadecimal with colons between them. -/
def groupsText (groups : List UInt16) : String :=
  ":".intercalate (groups.map fun g => String.ofList (Nat.toDigits 16 g.toNat))

/-- The place and length of the first of the longest runs of zeros among `groups`. `place` is the
place of the first of these; `run` is how many zeros end before it, and the best run so far comes
last. -/
def longestZeros : (place run : Nat) → Nat × Nat → List UInt16 → Nat × Nat
  | _, _, best, [] => best
  | place, run, best, g :: groups =>
    if g = 0 then
      let best := if best.2 < run + 1 then (place - run, run + 1) else best
      longestZeros (place + 1) (run + 1) best groups
    else longestZeros (place + 1) 0 best groups

/-- The IPv4 address that an address stands for. -/
def mapped? (ip : Ipv6Address) : Option Ipv4Address :=
  match ip.groups.toList with
  | [0, 0, 0, 0, 0, 0xFFFF, g, h] => some (.ofNat (g.toNat * 0x10000 + h.toNat))
  | _ => none

/-- The text of an IPv6 address. -/
def text (ip : Ipv6Address) : String :=
  match ip.mapped? with
  | some ip => "::ffff:" ++ ip.text
  | none =>
    let groups := ip.groups.toList
    let (start, length) := longestZeros 0 0 (0, 0) groups
    if 1 < length then
      groupsText (groups.take start) ++ "::" ++ groupsText (groups.drop (start + length))
    else groupsText groups

end Ipv6Address

/-- The text of a host's address. -/
def IpAddress.text : IpAddress → String
  | .v4 ip => ip.text
  | .v6 ip => ip.text

/-- The text of a socket's address. -/
def SocketAddress.text : SocketAddress → String
  | .v4 host port => s!"{host.text}:{port.toNat}"
  | .v6 host port scope =>
    let scopeText := if scope = 0 then "" else s!"%{scope.toNat}"
    s!"[{host.text}{scopeText}]:{port.toNat}"

end SharedVariables
