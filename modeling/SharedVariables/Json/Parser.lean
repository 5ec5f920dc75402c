import SharedVariables.Json.Token

/-!
# Reading JSON

`parse?` reads a text that is one JSON value between blanks. It takes the tokens one by one and
keeps the arrays and objects that are still open in a list, innermost first, so that values may be
nested as deeply as a text can say.
-/

namespace SharedVariables.Json

/-- An array or an object around a value that is being read; what it holds already is last first. -/
inductive Frame where
  | array (elements : List Value)
  /-- An object, and the name of the member whose value is being read. -/
  | member (members : List (Option String × Value)) (name : Option String)

/-- What may come next, inside the frames `outer`. -/
inductive Reading where
  /-- A value. -/
  | value (outer : List Frame)
  /-- The first element of an array, or its end. -/
  | firstElement (outer : List Frame)
  /-- The name of the first member of an object, or its end. -/
  | firstName (outer : List Frame)
  /-- The name of a member that is not the first. -/
  | name (members : List (Option String × Value)) (outer : List Frame)
  /-- The colon behind the name of a member. -/
  | colon (members : List (Option String × Value)) (name : Option String) (outer : List Frame)
  /-- A comma or the end of the innermost frame, for a value has been read. -/
  | after (v : Value) (outer : List Frame)

namespace Reading

/-- Takes the first token of a value. -/
def begin? (outer : List Frame) : Token → Option Reading
  | .openArray => some (firstElement outer)
  | .openObject => some (firstName outer)
  | .string text => some (after (.string text) outer)
  | .word v => some (after v outer)
  | _ => none

/-- Takes one token. -/
def step? : Reading → Token → Option Reading
  | value outer, t => begin? outer t
  | firstElement outer, .closeArray => some (after (.array []) outer)
  | firstElement outer, t => begin? (.array [] :: outer) t
  | firstName outer, .closeObject => some (after (.object []) outer)
  | firstName outer, .string n => some (colon [] n outer)
  | name members outer, .string n => some (colon members n outer)
  | colon members n outer, .colon => some (value (.member members n :: outer))
  | after v (.array elements :: outer), .comma => some (value (.array (v :: elements) :: outer))
  | after v (.array elements :: outer), .closeArray =>
    some (after (.array (v :: elements).reverse) outer)
  | after v (.member members n :: outer), .comma => some (name ((n, v) :: members) outer)
  | after v (.member members n :: outer), .closeObject =>
    some (after (.object ((n, v) :: members).reverse) outer)
  | _, _ => none

end Reading

/-- The value that a text is. -/
def parse? (text : String) : Option Value := do
  match ← (← tokens? text).foldlM Reading.step? (.value []) with
  | .after v [] => some v
  | _ => none

end SharedVariables.Json
