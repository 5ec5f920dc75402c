import SharedVariables.Registry.Basic

/-!
# The server's memory

A server keeps the registry and, for variables in it, two tables of bytes: the values that partners
assign under access control, and those that workspaces exchange without it. A value goes when its
variable does.
-/

namespace SharedVariables

/-- The bytes kept for keys. Every key has at most one entry. -/
structure ValueTable where
  entries : List (Key × Bytes)
deriving DecidableEq, Repr

namespace ValueTable

/-- The table without entries. -/
def empty : ValueTable := ⟨[]⟩

/-- The bytes kept for a key. -/
def get? (t : ValueTable) (key : Key) : Option Bytes :=
  (t.entries.find? fun entry => entry.1 = key).map Prod.snd

/-- The table with `bytes` kept for a key, instead of any that were. -/
def insert (t : ValueTable) (key : Key) (bytes : Bytes) : ValueTable :=
  ⟨(key, bytes) :: t.entries.filter fun entry => entry.1 ≠ key⟩

/-- The table without the keys for which `keep` is false. -/
def restrict (t : ValueTable) (keep : Key → Bool) : ValueTable :=
  ⟨t.entries.filter fun entry => keep entry.1⟩

end ValueTable

/-- What a server remembers. -/
structure Server where
  registry : Registry
  /-- The values that are assigned and read under access control. -/
  values : ValueTable
  /-- The values that workspaces exchange. -/
  exchanged : ValueTable
deriving DecidableEq

namespace Server

/-- A server without variables. -/
def empty : Server := ⟨.empty, .empty, .empty⟩

/-- The server without values of variables that are gone. -/
def prune (s : Server) : Server :=
  let isShared (key : Key) : Bool := (s.registry.findVar key).isSome
  { s with values := s.values.restrict isShared, exchanged := s.exchanged.restrict isShared }

/-- The server with another registry. -/
def withRegistry (s : Server) (registry : Registry) : Server := { s with registry }.prune

end Server

end SharedVariables
