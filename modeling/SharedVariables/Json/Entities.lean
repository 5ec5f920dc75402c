import SharedVariables.Json.Printer
import SharedVariables.Row

/-!
# JSON forms of the registry's values

How identities, keys, partners, couplings, names and rows are written as JSON.
-/

namespace SharedVariables

/-- An identity as an object of its three numbers. -/
def ProcessorId.json (id : ProcessorId) : String :=
  Json.object [("proc", toString id.proc.toInt), ("parent", toString id.parent.toInt),
    ("grand", toString id.grand.toInt)]

/-- A key as a number. -/
def Key.json (key : Key) : String := toString key.raw.toNat

/-- A partner as an object; its flags are a number. -/
def Partner.json (p : Partner) : String :=
  Json.object [("id", p.id.json), ("pid", toString p.pid.toNat), ("port", toString p.port.toNat),
    ("flags", toString p.flags.toWord.toNat)]

/-- A coupling as the name of its case. -/
def Coupling.json : Coupling → String
  | .none => Json.string "NoCoupling"
  | .offered => Json.string "Offered"
  | .coupled => Json.string "Coupled"

/-- A name as the string it reads as. -/
def Name.json (name : Name) : String := Json.string name.text

/-- A row as an object; its state is a number. -/
def Row.json (row : Row) : String :=
  Json.object [("key", row.key.json), ("offering", row.offering.json),
    ("accepting", row.accepting.json), ("state", toString row.stateCode.toNat),
    ("name", row.name.json)]

end SharedVariables
