/-!
# Internet addresses

Addresses of hosts in both families, and addresses of sockets: a host and a port and, in the newer
family, the scope in which the address is meant.
-/

namespace SharedVariables

/-- An IPv4 address: its four bytes. -/
structure Ipv4Address where
  a : UInt8
  b : UInt8
  c : UInt8
  d : UInt8
deriving DecidableEq, Repr

/-- An IPv6 address: its eight groups of 16 bits. -/
structure Ipv6Address where
  groups : Vector UInt16 8
deriving DecidableEq, Repr

/-- The address of a host. -/
inductive IpAddress where
  | v4 (address : Ipv4Address)
  | v6 (address : Ipv6Address)
deriving DecidableEq, Repr

/-- The address of a socket. -/
inductive SocketAddress where
  | v4 (host : Ipv4Address) (port : UInt16)
  | v6 (host : Ipv6Address) (port : UInt16) (scope : UInt32)
deriving DecidableEq, Repr

namespace Ipv4Address

/-- The address of the host itself. -/
def localhost : Ipv4Address := ⟨127, 0, 0, 1⟩

/-- The address with the 32 bits of `n`. -/
def ofNat (n : Nat) : Ipv4Address :=
  ⟨.ofNat (n / 0x1000000), .ofNat (n / 0x10000), .ofNat (n / 0x100), .ofNat n⟩

/-- The address as two groups of 16 bits. -/
def groups (ip : Ipv4Address) : List UInt16 :=
  [.ofNat (ip.a.toNat * 256 + ip.b.toNat), .ofNat (ip.c.toNat * 256 + ip.d.toNat)]

end Ipv4Address

end SharedVariables
