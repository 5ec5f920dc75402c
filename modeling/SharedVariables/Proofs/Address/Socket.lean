import SharedVariables.Proofs.Address.Host

/-!
# The addresses of sockets read back

The text of a socket's address is read back as the address (`SocketAddress.parse?_text`): the host's
address ends at the colon or at the bracket behind it, and a scope is written just if there is one.
-/

namespace SharedVariables

namespace Address

open Nat (toDigits)

variable {rest : List Char}

/-- A port is read back from the digits behind its colon. -/
theorem portBehind_toDigits (port : UInt16) :
    portBehind (':' :: toDigits 10 port.toNat) = some (port, []) := by
  have small := port.toNat_lt
  have read : anyNumber 10 0xFFFF (toDigits 10 port.toNat ++ []) = some (port.toNat, []) :=
    anyNumber_toDigits (by decide) (by decide) (by omega) ends_nil
  rw [List.append_nil] at read
  simp [portBehind, char, read]

/-- What stands between an IPv6 address and its bracket. -/
def scopeText (scope : UInt32) : List Char :=
  if scope = 0 then [] else '%' :: toDigits 10 scope.toNat

/-- A scope is read back, and none is read where none is written. -/
theorem scope_text (n : UInt32) : scope (scopeText n ++ ']' :: rest) = (n, ']' :: rest) := by
  have small := n.toNat_lt
  have read : anyNumber 10 0xFFFFFFFF (toDigits 10 n.toNat ++ ']' :: rest) =
      some (n.toNat, ']' :: rest) :=
    anyNumber_toDigits (by decide) (by decide) (by omega) (ends_cons.2 (by decide))
  rw [scopeText]
  split
  · rename_i zero
    simp [scope, char, zero]
  · simp [scope, char, read]

theorem bounds_scopeText (n : UInt32) : Bounds (scopeText n ++ ']' :: rest) := by
  rw [scopeText]
  split
  · exact bounds_cons (by decide) (by decide) (by decide)
  · exact bounds_cons (by decide) (by decide) (by decide)

theorem socketV4_text (host : Ipv4Address) (port : UInt16) :
    socketV4 (host.text.toList ++ ':' :: toDigits 10 port.toNat) = some (.v4 host port, []) := by
  simp [socketV4, ipv4_text host (closes_colon _).decimal, portBehind_toDigits]

theorem socketV6_text (host : Ipv6Address) (port : UInt16) (n : UInt32) :
    socketV6 ('[' :: (host.text.toList ++ (scopeText n ++ ']' :: ':' :: toDigits 10 port.toNat))) =
      some (.v6 host port n, []) := by
  simp [socketV6, char, ipv6_text host (bounds_scopeText n), scope_text, portBehind_toDigits]

end Address

namespace SocketAddress

open Address

/-- The text of a socket's address: the host's, and the port behind a colon. -/
theorem toList_text (a : SocketAddress) :
    a.text.toList = match a with
      | .v4 host port => host.text.toList ++ ':' :: Nat.toDigits 10 port.toNat
      | .v6 host port scope => '[' :: (host.text.toList ++
          (scopeText scope ++ ']' :: ':' :: Nat.toDigits 10 port.toNat)) := by
  have sep (s : String) : (toString s).toList = s.toList := rfl
  cases a with
  | v4 host port => simp [text, sep, Nat.toString_eq_repr]
  | v6 host port scope =>
    simp only [text, scopeText]
    split <;> simp [sep, Nat.toString_eq_repr]

/-- The digits of the port come last. -/
theorem exists_toList_text (a : SocketAddress) :
    ∃ front port, a.text.toList = front ++ Nat.toDigits 10 port := by
  rw [toList_text]
  cases a with
  | v4 host port => exact ⟨_, _, List.append_cons ..⟩
  | v6 host port scope =>
    exact ⟨'[' :: (host.text.toList ++ (scopeText scope ++ [']', ':'])), port.toNat, by simp⟩

/-- The address of a socket is read back from its text. With no digit in front of its bracket, an IPv6
address is not taken for an IPv4 address. -/
theorem parse?_text (a : SocketAddress) : parse? a.text = some a := by
  rw [parse?, toList_text]
  cases a with
  | v4 host port => simp [whole?, socketV4_text]
  | v6 host port scope =>
    have bracket (cs : List Char) : ipv4 ('[' :: cs) = none := ipv4_of_ends (ends_cons.2 (by decide))
    have other (cs : List Char) : socketV4 ('[' :: cs) = none := by rw [socketV4, bracket]; rfl
    simp [whole?, socketV6_text, other]

end SocketAddress

end SharedVariables
