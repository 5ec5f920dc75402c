import SharedVariables.Json.Value
import SharedVariables.Text.Hex

/-!
# JSON tokens

A JSON text is a row of tokens between blanks: brackets, braces, colons, commas, strings and the
values that are one word. Control characters inside strings and unknown escapes are refused; an
escaped surrogate is accepted, but only a pair of them spells a character.
-/

namespace SharedVariables.Json

/-- A part of a text that stands for itself. -/
inductive Token where
  | openArray
  | closeArray
  | openObject
  | closeObject
  | comma
  | colon
  /-- A string, which is a value or the name of a member; `none` if it has no text. -/
  | string (text : Option String)
  /-- A value that is one word. -/
  | word (v : Value)

/-- The characters that may stand between the parts of a value. -/
def isSpace (c : Char) : Bool := c == ' ' || c == '\n' || c == '\t' || c == '\r'

/-- The characters after any blanks. -/
def skipSpace (cs : List Char) : List Char := cs.dropWhile isSpace

/-- The number that four hexadecimal digits spell. -/
def hexQuad? (a b c d : Char) : Option Nat := do
  return ((← Text.hexValue? a) * 16 + (← Text.hexValue? b)) * 256 + (← Text.hexValue? c) * 16 +
    (← Text.hexValue? d)

/-- The character that a letter stands for behind a backslash. -/
def escape? (c : Char) : Option Char :=
  if c = '"' ∨ c = '\\' ∨ c = '/' then some c
  else if c = 'b' then some '\x08'
  else if c = 'f' then some '\x0c'
  else if c = 'n' then some '\n'
  else if c = 'r' then some '\r'
  else if c = 't' then some '\t'
  else none

/-- The code points of a string up to its closing quote, after those in `read` (last first), and the
characters behind the quote. -/
def stringPoints (read : List Nat) : List Char → Option (List Nat × List Char)
  | '"' :: rest => some (read.reverse, rest)
  | '\\' :: 'u' :: a :: b :: c :: d :: rest =>
    match hexQuad? a b c d with
    | some n => stringPoints (n :: read) rest
    | none => none
  | '\\' :: c :: rest =>
    match escape? c with
    | some e => stringPoints (e.toNat :: read) rest
    | none => none
  | c :: rest => if c.toNat < 0x20 then none else stringPoints (c.toNat :: read) rest
  | [] => none

/-- Whether a number is the first half of a surrogate pair. -/
def isHighSurrogate (n : Nat) : Bool := 0xD800 ≤ n && n < 0xDC00

/-- Whether a number is the second half of a surrogate pair. -/
def isLowSurrogate (n : Nat) : Bool := 0xDC00 ≤ n && n < 0xE000

/-- The characters that code points spell, after those in `read` (last first); `none` if half of a
surrogate pair is among them. -/
def joinSurrogates (read : List Char) : List Nat → Option (List Char)
  | [] => some read.reverse
  | [n] =>
    if isHighSurrogate n || isLowSurrogate n then none else some (Char.ofNat n :: read).reverse
  | n :: m :: rest =>
    if isHighSurrogate n then
      if isLowSurrogate m then
        joinSurrogates (Char.ofNat (0x10000 + (n - 0xD800) * 0x400 + (m - 0xDC00)) :: read) rest
      else none
    else if isLowSurrogate n then none
    else joinSurrogates (Char.ofNat n :: read) (m :: rest)

/-- A string behind its opening quote: its text, if it has one, and the characters behind it. -/
def readString? (cs : List Char) : Option (Option String × List Char) :=
  (stringPoints [] cs).map fun (points, rest) =>
    ((joinSurrogates [] points).map String.ofList, rest)

/-- The characters behind one or more digits. -/
def skipDigits? (cs : List Char) : Option (List Char) :=
  match cs with
  | c :: rest => if c.isDigit then some (rest.dropWhile Char.isDigit) else none
  | [] => none

/-- The characters behind a fraction, if there is one. -/
def skipFraction? : List Char → Option (List Char)
  | '.' :: rest => skipDigits? rest
  | cs => some cs

/-- The characters behind an exponent, if there is one. -/
def skipExponent? : List Char → Option (List Char)
  | c :: rest =>
    if c = 'e' ∨ c = 'E' then
      match rest with
      | '+' :: more => skipDigits? more
      | '-' :: more => skipDigits? more
      | more => skipDigits? more
    else some (c :: rest)
  | [] => some []

/-- The value of decimal digits. -/
def decimalValue (digits : List Char) : Nat :=
  digits.foldl (fun n c => n * 10 + (c.toNat - '0'.toNat)) 0

/-- The number that decimal digits spell. No setting has more than twenty digits, so that more of
them spell none. -/
def naturalNumber? (digits : List Char) : Option Nat :=
  if digits.length ≤ 20 then some (decimalValue digits) else none

/-- A number and the characters behind it. A number does not begin with a superfluous zero. -/
def readNumber? (cs : List Char) : Option (Value × List Char) := do
  let (negative, unsigned) := match cs with
    | '-' :: rest => (true, rest)
    | _ => (false, cs)
  let (digits, behind) := unsigned.span Char.isDigit
  match digits with
  | [] => none
  | '0' :: _ :: _ => none
  | _ =>
    let rest ← skipExponent? (← skipFraction? behind)
    let goesOn := behind.head?.any fun c => c == '.' || c == 'e' || c == 'E'
    return (.number (if negative || goesOn then none else naturalNumber? digits), rest)

/-- The characters behind `word`, if they begin with it. -/
def skipWord? (word : String) (cs : List Char) : Option (List Char) :=
  if word.toList.isPrefixOf cs then some (cs.drop word.length) else none

/-- The token in front, and the characters behind it. -/
def readToken? : List Char → Option (Token × List Char)
  | '[' :: rest => some (.openArray, rest)
  | ']' :: rest => some (.closeArray, rest)
  | '{' :: rest => some (.openObject, rest)
  | '}' :: rest => some (.closeObject, rest)
  | ',' :: rest => some (.comma, rest)
  | ':' :: rest => some (.colon, rest)
  | '"' :: rest => (readString? rest).map fun (text, rest) => (.string text, rest)
  | 't' :: rest => (skipWord? "rue" rest).map (.word (.bool true), ·)
  | 'f' :: rest => (skipWord? "alse" rest).map (.word (.bool false), ·)
  | 'n' :: rest => (skipWord? "ull" rest).map (.word .null, ·)
  | rest => (readNumber? rest).map fun (v, rest) => (.word v, rest)

/-- The tokens of a text, after those in `read` (last first); there are fewer than `fuel`. -/
def tokensAfter (read : List Token) : (fuel : Nat) → List Char → Option (List Token)
  | 0, _ => none
  | fuel + 1, cs =>
    match skipSpace cs with
    | [] => some read.reverse
    | cs =>
      match readToken? cs with
      | some (t, rest) => tokensAfter (t :: read) fuel rest
      | none => none

/-- The tokens of a text. Every token takes a character, so there are no more of them. -/
def tokens? (text : String) : Option (List Token) := tokensAfter [] (text.length + 1) text.toList

end SharedVariables.Json
