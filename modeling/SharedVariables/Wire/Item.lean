import SharedVariables.Event
import SharedVariables.Key
import SharedVariables.Name
import SharedVariables.Partner
import SharedVariables.Wire.Field

/-!
# Items

Signals and row records are made of items: keys, identities, names, control bits and so on, each of
which has one form on the wire. `Item.encode` writes an item and `Item.read` reads it back;
`Item.display` shows it to people. Reading is lenient where several forms mean the same: a flag is
set by any byte but zero, the upper bits of control bits are ignored, unknown codes of couplings and
states stand for none, and text that is not UTF-8 is mended.
-/

namespace SharedVariables.Wire

/-- The kinds of items. -/
inductive Item where
  | key
  /-- A signed number: of a processor, or of an attempt. -/
  | number
  /-- An unsigned number: of an error, or of a process. -/
  | word
  /-- The number of a port. -/
  | port
  | flag
  | text
  /-- A long text, which is shown by its length only. -/
  | listing
  | blob
  | id
  | name
  | control
  | coupling
  | state
  | events
  /-- A list of processor numbers. -/
  | numbers
  /-- A list of variable names. -/
  | names
deriving DecidableEq, Repr

namespace Item

/-- What an item of each kind holds. -/
abbrev Value : Item → Type
  | .key => Key
  | .number => Int32
  | .word => UInt32
  | .port => UInt16
  | .flag => Bool
  | .text => String
  | .listing => String
  | .blob => Bytes
  | .id => ProcessorId
  | .name => Name
  | .control => Control
  | .coupling => Coupling
  | .state => AccessState
  | .events => Event
  | .numbers => List ProcessorNumber
  | .names => List Name

/-! ## Writing -/

/-- A signed number in four bytes. -/
def encodeNumber (n : Int32) : Bytes := encodeSigned 4 n.toInt

/-- The three numbers of an identity. -/
def encodeId (id : ProcessorId) : Bytes :=
  encodeNumber id.proc ++ encodeNumber id.parent ++ encodeNumber id.grand

/-- A name: how many code points it has, then each in four bytes. -/
def encodeName (n : Name) : Bytes :=
  bigEndian 2 n.points.length ++ n.points.flatMap fun p => bigEndian 4 p.toNat

/-- A list of names: how many there are, then each. -/
def encodeNames (ns : List Name) : Except Error Bytes :=
  if ns.length ≤ maxStringLength then .ok (bigEndian 2 ns.length ++ ns.flatMap encodeName)
  else .error (.stringTooLong ns.length)

/-- A byte for a flag. -/
def encodeFlag (b : Bool) : Bytes := [if b then 1 else 0]

/-- The bytes of an item. -/
def encode : (item : Item) → item.Value → Except Error Bytes
  | .key, k => .ok (bigEndian 8 k.raw.toNat)
  | .number, n => .ok (encodeNumber n)
  | .word, w => .ok (bigEndian 4 w.toNat)
  | .port, p => .ok (bigEndian 2 p.toNat)
  | .flag, b => .ok (encodeFlag b)
  | .text, s => encodeString (Text.utf8Encode s)
  | .listing, s => encodeString (Text.utf8Encode s)
  | .blob, bs => encodeString bs
  | .id, i => .ok (encodeId i)
  | .name, n => .ok (encodeName n)
  | .control, c => .ok (bigEndian 1 c.toNat)
  | .coupling, c => .ok [c.code]
  | .state, s => .ok [s.code]
  | .events, e => .ok (bigEndian 4 e.bits.toNat)
  | .numbers, ns => encodeString (ns.flatMap encodeNumber)
  | .names, ns => encodeNames ns

/-! ## Reading -/

/-- A byte. -/
def readByte : Reader UInt8 := do return .ofNat (← Reader.unsigned 1)

/-- A key. -/
def readKey : Reader Key := do return ⟨.ofNat (← Reader.unsigned 8)⟩

/-- A word of four bytes. -/
def readWord : Reader UInt32 := do return .ofNat (← Reader.unsigned 4)

/-- A word of two bytes. -/
def readPort : Reader UInt16 := do return .ofNat (← Reader.unsigned 2)

/-- A signed number. -/
def readNumber : Reader Int32 := do return .ofInt (← Reader.signed 4)

/-- An identity. -/
def readId : Reader ProcessorId := do
  let proc ← readNumber
  let parent ← readNumber
  let grand ← readNumber
  return ⟨proc, parent, grand⟩

/-- A text. -/
def readText : Reader String := do return Text.utf8Decode (← Reader.string)

/-- A name; more code points than a name has are refused. -/
def readName : Reader Name := do
  let n ← Reader.unsigned 2
  if n ≤ nameCapacity then return .ofPoints (← Reader.replicate n readWord)
  else Reader.fail (.nameTooLong n)

/-- The numbers that are packed in `bs`. -/
def unpackNumbers (bs : Bytes) : Except Error (List ProcessorNumber) :=
  match Reader.replicate (bs.length / 4) readNumber bs with
  | (.ok ns, []) => .ok ns
  | (.ok _, rest) => .error (.truncated 4 rest.length)
  | (.error e, _) => .error e

/-- A list of processor numbers. -/
def readNumbers : Reader (List ProcessorNumber) := do
  match unpackNumbers (← Reader.string) with
  | .ok ns => return ns
  | .error e => Reader.fail e

/-- Reads an item of the given kind. -/
def read : (item : Item) → Reader item.Value
  | .key => readKey
  | .number => readNumber
  | .word => readWord
  | .port => readPort
  | .flag => do return (← readByte) ≠ 0
  | .text => readText
  | .listing => readText
  | .blob => Reader.string
  | .id => readId
  | .name => readName
  | .control => do return .ofNat (← Reader.unsigned 1)
  | .coupling => do return .ofCode (← readByte)
  | .state => do return .ofCode (← readByte)
  | .events => do return ⟨← readWord⟩
  | .numbers => readNumbers
  | .names => do Reader.replicate (← Reader.unsigned 2) readName

/-! ## Showing -/

/-- Bytes for people: between quotes if all are printable ASCII, and otherwise the first 17 of them
in hexadecimal. -/
def bytesText (bs : Bytes) : String :=
  if bs.all fun b => 0x20 ≤ b && b ≤ 0x7E then
    "\"" ++ String.ofList (bs.map fun b => Char.ofNat b.toNat) ++ "\""
  else
    String.join ((bs.take 17).map fun b => " " ++ Text.hexLower 2 b.toNat) ++
      if bs.length ≤ 17 then "" else " ..."

/-- An item for people. -/
def display : (item : Item) → item.Value → String
  | .key, k => k.text
  | .number, n => toString n.toInt
  | .word, w => toString w.toNat
  | .port, p => toString p.toNat
  | .flag, b => if b then "1" else "0"
  | .text, s => bytesText (Text.utf8Encode s)
  | .listing, s => s!"{s.utf8ByteSize} bytes"
  | .blob, bs => bytesText bs
  | .id, i => s!"{i.proc.toInt}, {i.parent.toInt}, {i.grand.toInt}"
  | .name, n => "\"" ++ n.text ++ "\""
  | .control, c => "0x" ++ Text.hexLower 2 c.toNat
  | .coupling, c => toString c.code.toNat
  | .state, s => "0x" ++ Text.hexLower 2 s.code.toNat
  | .events, e => "0x" ++ Text.hexLower 8 e.bits.toNat
  | .numbers, ns => "[" ++ " ".intercalate (ns.map fun n => toString n.toInt) ++ "]"
  | .names, ns => "[" ++ " ".intercalate (ns.map Name.text) ++ "]"

/-- The values of a list of items. -/
abbrev Values : List Item → Type
  | [] => Unit
  | item :: items => item.Value × Values items

/-- The bytes of several items in order. -/
def encodeAll : (items : List Item) → Values items → Except Error Bytes
  | [], () => .ok []
  | item :: items, (value, values) => do
    let bytes ← item.encode value
    let rest ← encodeAll items values
    return bytes ++ rest

/-- Reads several items in order. -/
def readAll : (items : List Item) → Reader (Values items)
  | [] => Reader.pure ()
  | item :: items => do
    let value ← item.read
    let values ← readAll items
    return (value, values)

/-- Several items for people. -/
def displayAll : (items : List Item) → Values items → List String
  | [], () => []
  | item :: items, (value, values) => item.display value :: displayAll items values

end Item

end SharedVariables.Wire
