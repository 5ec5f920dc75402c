/-!
# JSON values

Values as they are written: members of an object keep their order and may repeat, a number is known
only if it is a plain natural number of at most twenty digits, and a string that spells half of a
surrogate pair has no text.
-/

namespace SharedVariables.Json

/-- A JSON value. -/
inductive Value where
  | null
  | bool (b : Bool)
  /-- A number; `none` if it has a sign, a fraction, an exponent or more than twenty digits. -/
  | number (natural : Option Nat)
  /-- A string; `none` if it has no text. -/
  | string (text : Option String)
  | array (elements : List Value)
  | object (members : List (Option String × Value))

namespace Value

/-- The truth value that a value is. -/
def bool? : Value → Option Bool
  | .bool b => some b
  | _ => none

/-- The text that a value is. -/
def string? : Value → Option String
  | .string text => text
  | _ => none

/-- The natural number up to `limit` that a value is. -/
def natural? (limit : Nat) : Value → Option Nat
  | .number (some n) => if n ≤ limit then some n else none
  | _ => none

/-- The elements of a value that is an array. -/
def elements? : Value → Option (List Value)
  | .array vs => some vs
  | _ => none

/-- The value of the member `name`, if it is there. -/
def member? (name : String) (members : List (Option String × Value)) : Option Value :=
  (members.find? fun m => m.1 == some name).map Prod.snd

/-- How often the member `name` is there. -/
def countMember (name : String) (members : List (Option String × Value)) : Nat :=
  members.countP fun m => m.1 == some name

/-- The values of the fields `names` of a record. An object gives them by name, none of them twice,
and may hold other members; an array gives the first ones in order and nothing else. -/
def fields? (names : List String) : Value → Option (List (Option Value))
  | .array vs =>
    if vs.length ≤ names.length then
      some (vs.map some ++ List.replicate (names.length - vs.length) none)
    else none
  | .object members =>
    if members.all (·.1.isSome) ∧ names.all (countMember · members ≤ 1) then
      some (names.map (member? · members))
    else none
  | _ => none

/-- The values of the fields `names` of a record of which all must be given and no others may be. -/
def exactFields? (names : List String) (v : Value) : Option (List Value) := do
  match v with
  | .object members =>
    if !members.all fun m => names.any fun n => m.1 == some n then none
  | _ => pure ()
  (← v.fields? names).mapM id

end Value

end SharedVariables.Json
