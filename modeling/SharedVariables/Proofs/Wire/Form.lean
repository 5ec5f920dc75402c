import SharedVariables.Proofs.Wire.Exact

/-!
# The forms of an item

Several forms of an item can mean the same. The form of an item (`Item.Form`) is what its bytes say, byte
for byte: the code itself for a flag, control bits, a coupling or a state, the bytes of a text whether or
not they are UTF-8, and all code points of a name. Reading an item is reading its form, of which there is
one, and giving it its meaning (`Item.read_eq_ok_iff`, `Item.formBytes_unique`). Writing an item is
writing the plain form of its value (`Item.encode_eq_ok_iff`): so what has been read is written as it was
just if its form was plain (`Item.plainForm_meaning_iff`), and nothing grows but text that had to be mended
(`Item.length_plainForm_le`).
-/

namespace SharedVariables

/-- Whether bytes are the UTF-8 form of a text. -/
def Text.IsUtf8 (bs : Bytes) : Prop := ∃ s, bs = Text.utf8Encode s

theorem Text.utf8Encode_utf8Decode_iff (bs : Bytes) :
    Text.utf8Encode (Text.utf8Decode bs) = bs ↔ Text.IsUtf8 bs := by
  constructor
  · intro same
    exact ⟨_, same.symm⟩
  · rintro ⟨s, rfl⟩
    rw [utf8Decode_utf8Encode]

theorem withoutTrailingZeros_eq_self_iff {points : List UInt32} :
    withoutTrailingZeros points = points ↔ points.getLast? ≠ some 0 := by
  constructor
  · intro same
    rw [← same]
    exact getLast?_withoutTrailingZeros points
  · exact withoutTrailingZeros_eq_self

theorem Name.points_ofPoints_of_le {points : List UInt32} (h : points.length ≤ nameCapacity) :
    (Name.ofPoints points).points = withoutTrailingZeros points := by
  simp only [Name.ofPoints, List.take_of_length_le h]

namespace Wire

namespace Reader

variable {α β : Type} {r : Reader α}

instance : LawfulMonad Reader := LawfulMonad.mk' Reader
  (fun r => by
    funext bs
    show Reader.bind r (fun a => Reader.pure a) bs = r bs
    rw [Reader.bind]
    rcases r bs with ⟨_ | _, rest⟩ <;> rfl)
  (fun a f => rfl)
  (fun r f g => by
    funext bs
    show Reader.bind (Reader.bind r f) g bs = Reader.bind r (fun a => Reader.bind (f a) g) bs
    simp only [Reader.bind]
    rcases r bs with ⟨_ | _, rest⟩ <;> rfl)

/-- A list of what is made of results is made of the list of results. -/
theorem replicate_map (r : Reader α) (g : α → β) (n : Nat) :
    replicate n (do return g (← r)) = do return (← replicate n r).map g := by
  suffices go : ∀ read : List α, replicateAfter (do return g (← r)) n (read.map g) =
      do return (← replicateAfter r n read).map g from go []
  induction n with
  | zero =>
    intro read
    show Reader.pure (read.map g).reverse = Reader.pure (read.reverse.map g)
    rw [List.map_reverse]
  | succ n ih =>
    intro read
    show ((do return g (← r)) >>= fun b => replicateAfter (do return g (← r)) n (b :: read.map g)) =
      (r >>= fun a => replicateAfter r n (a :: read)) >>= fun as => pure (as.map g)
    simp only [bind_assoc, pure_bind]
    congr 1
    funext a
    exact ih (a :: read)

end Reader

namespace Item

open Reader (Exact)

/-! ## Forms -/

/-- What the bytes of an item say. -/
abbrev Form : Item → Type
  | .key => Key
  | .number => Int32
  | .word => UInt32
  | .port => UInt16
  | .flag => UInt8
  | .text => Bytes
  | .listing => Bytes
  | .blob => Bytes
  | .id => ProcessorId
  | .name => List UInt32
  | .control => UInt8
  | .coupling => UInt8
  | .state => UInt8
  | .events => Event
  | .numbers => List ProcessorNumber
  | .names => List (List UInt32)

/-- The item that a form stands for. -/
def meaning : (item : Item) → item.Form → item.Value
  | .key, k => k
  | .number, n => n
  | .word, w => w
  | .port, p => p
  | .flag, b => b ≠ 0
  | .text, bs => Text.utf8Decode bs
  | .listing, bs => Text.utf8Decode bs
  | .blob, bs => bs
  | .id, i => i
  | .name, points => .ofPoints points
  | .control, b => .ofNat b.toNat
  | .coupling, b => .ofCode b
  | .state, b => .ofCode b
  | .events, e => e
  | .numbers, ns => ns
  | .names, lists => lists.map .ofPoints

/-- The form that an item is written in. -/
def plainForm : (item : Item) → item.Value → item.Form
  | .key, k => k
  | .number, n => n
  | .word, w => w
  | .port, p => p
  | .flag, b => if b then 1 else 0
  | .text, s => Text.utf8Encode s
  | .listing, s => Text.utf8Encode s
  | .blob, bs => bs
  | .id, i => i
  | .name, n => n.points
  | .control, c => .ofNat c.toNat
  | .coupling, c => c.code
  | .state, s => s.code
  | .events, e => e
  | .numbers, ns => ns
  | .names, ns => ns.map Name.points

/-- Code points behind their number. -/
def pointBytes (points : List UInt32) : Bytes :=
  bigEndian 2 points.length ++ points.flatMap fun p => bigEndian 4 p.toNat

/-- The bytes of a form. -/
def formBytes : (item : Item) → item.Form → Bytes
  | .key, k => bigEndian 8 k.raw.toNat
  | .number, n => encodeNumber n
  | .word, w => bigEndian 4 w.toNat
  | .port, p => bigEndian 2 p.toNat
  | .flag, b => [b]
  | .text, bs => bigEndian 2 bs.length ++ bs
  | .listing, bs => bigEndian 2 bs.length ++ bs
  | .blob, bs => bigEndian 2 bs.length ++ bs
  | .id, i => encodeId i
  | .name, points => pointBytes points
  | .control, b => [b]
  | .coupling, b => [b]
  | .state, b => [b]
  | .events, e => bigEndian 4 e.bits.toNat
  | .numbers, ns => bigEndian 2 (ns.flatMap encodeNumber).length ++ ns.flatMap encodeNumber
  | .names, lists => bigEndian 2 lists.length ++ lists.flatMap pointBytes

/-- Whether a form has the length that its bytes announce, and a name no more code points than names
have. -/
def Admits : (item : Item) → item.Form → Prop
  | .text, bs => bs.length ≤ 65535
  | .listing, bs => bs.length ≤ 65535
  | .blob, bs => bs.length ≤ 65535
  | .name, points => points.length ≤ nameCapacity
  | .numbers, ns => ns.length ≤ 16383
  | .names, lists => lists.length ≤ 65535 ∧ ∀ points ∈ lists, points.length ≤ nameCapacity
  | _, _ => True

/-- Whether a form is the one that its meaning is written in: text is UTF-8, a flag is 0 or 1, control
bits have nothing above them, a coupling or a state has a code that is known, and no name ends in a
zero. -/
def IsPlain : (item : Item) → item.Form → Prop
  | .flag, b => b = 0 ∨ b = 1
  | .text, bs => Text.IsUtf8 bs
  | .listing, bs => Text.IsUtf8 bs
  | .name, points => points.getLast? ≠ some 0
  | .control, b => b < 16
  | .coupling, b => ∃ c : Coupling, c.code = b
  | .state, b => ∃ s : AccessState, s.code = b
  | .names, lists => ∀ points ∈ lists, points.getLast? ≠ some 0
  | _, _ => True

/-- Whether a form is UTF-8, if it is that of a text. -/
def HasUtf8 : (item : Item) → item.Form → Prop
  | .text, bs => Text.IsUtf8 bs
  | .listing, bs => Text.IsUtf8 bs
  | _, _ => True

/-- Whether a form, if it is that of a text, has room for what it is mended to. -/
def HasRoom : (item : Item) → item.Form → Prop
  | .text, bs => (Text.utf8Decode bs).utf8ByteSize ≤ 65535
  | .listing, bs => (Text.utf8Decode bs).utf8ByteSize ≤ 65535
  | _, _ => True

variable {item : Item}

/-! ## Writing the plain form -/

/-- What is written of an item is its plain form. -/
theorem encode_eq_ok_iff {value : item.Value} {bytes : Bytes} :
    item.encode value = .ok bytes ↔ item.Fits value ∧ bytes = item.formBytes (item.plainForm value) := by
  cases item with
  | text | listing =>
    simp [encode, Fits, encodeString_eq_ok_iff, maxStringLength, formBytes, plainForm]
  | blob => simp [encode, Fits, encodeString_eq_ok_iff, maxStringLength, formBytes, plainForm]
  | numbers =>
    simp only [encode, Fits, encodeString_eq_ok_iff, maxStringLength, formBytes, plainForm,
      length_flatMap_encodeNumber]
    have : 4 * value.length ≤ 65535 ↔ value.length ≤ 16383 := by omega
    rw [this]
  | names =>
    have same : value.flatMap encodeName = (value.map Name.points).flatMap pointBytes := by
      rw [List.flatMap_map]
      rfl
    simp [encode, Fits, encodeNames_eq_ok_iff, maxStringLength, formBytes, plainForm, same]
  | control =>
    have small : value.toNat < 256 := Nat.lt_trans value.toNat_lt (by decide)
    simp [encode, Fits, formBytes, plainForm, bigEndian, eq_comm]
  | flag => cases value <;> simp [encode, Fits, formBytes, plainForm, encodeFlag, eq_comm]
  | _ => simp [encode, Fits, formBytes, plainForm, encodeName, pointBytes, eq_comm]

/-- A form is the one its meaning is written in just if it is plain. -/
theorem plainForm_meaning_iff {form : item.Form} (h : item.Admits form) :
    item.plainForm (item.meaning form) = form ↔ item.IsPlain form := by
  cases item with
  | text | listing => exact Text.utf8Encode_utf8Decode_iff form
  | name =>
    show (Name.ofPoints form).points = form ↔ _
    rw [Name.points_ofPoints_of_le h]
    exact withoutTrailingZeros_eq_self_iff
  | names =>
    have own (points : List UInt32) (hp : points ∈ form) :
        (Name.ofPoints points).points = points ↔ points.getLast? ≠ some 0 := by
      rw [Name.points_ofPoints_of_le (h.2 points hp)]
      exact withoutTrailingZeros_eq_self_iff
    calc (form.map Name.ofPoints).map Name.points = form
      _ ↔ form.map (Name.points ∘ Name.ofPoints) = form.map fun points => points := by
        rw [List.map_map, List.map_id']
      _ ↔ ∀ points ∈ form, (Name.ofPoints points).points = points := List.map_inj_left
      _ ↔ ∀ points ∈ form, points.getLast? ≠ some 0 := forall₂_congr own
  | control =>
    show UInt8.ofNat (Control.ofNat form.toNat).toNat = form ↔ form < 16
    rw [Control.toNat_ofNat, ← UInt8.toNat_inj, UInt8.lt_iff_toNat_lt,
      Text.toNat_ofNat_of_lt (Nat.lt_trans (Nat.mod_lt _ (by decide)) (by decide))]
    exact Nat.mod_eq_iff_lt (by decide)
  | coupling =>
    constructor
    · intro same
      exact ⟨_, same⟩
    · rintro ⟨c, rfl⟩
      exact congrArg Coupling.code (Coupling.ofCode_code c)
  | state =>
    constructor
    · intro same
      exact ⟨_, same⟩
    · rintro ⟨s, rfl⟩
      exact congrArg AccessState.code (AccessState.ofCode_code s)
  | flag =>
    show (if decide (form ≠ 0) then (1 : UInt8) else 0) = form ↔ form = 0 ∨ form = 1
    grind
  | _ => exact iff_of_true rfl trivial

theorem fits_meaning_iff {form : item.Form} (h : item.Admits form) :
    item.Fits (item.meaning form) ↔ item.HasRoom form := by
  cases item with
  | text | listing => exact Iff.rfl
  | blob => exact iff_of_true h trivial
  | numbers => exact iff_of_true h trivial
  | names => exact iff_of_true (by simpa [Fits, meaning] using h.1) trivial
  | _ => exact Iff.rfl

theorem length_pointBytes (points : List UInt32) :
    (pointBytes points).length = 2 + 4 * points.length := by
  simp only [pointBytes, List.length_append, List.length_flatMap, length_bigEndian, List.map_const',
    List.sum_replicate_nat, Nat.mul_comm]

theorem length_pointBytes_le (points : List UInt32) :
    (pointBytes (Name.ofPoints points).points).length ≤ (pointBytes points).length := by
  have short : (Name.ofPoints points).points.length ≤ points.length :=
    Nat.le_trans (length_withoutTrailingZeros_le _) (List.length_take_le' ..)
  rw [length_pointBytes, length_pointBytes]
  omega

theorem length_flatMap_pointBytes_le (lists : List (List UInt32)) :
    (((lists.map Name.ofPoints).map Name.points).flatMap pointBytes).length ≤
      (lists.flatMap pointBytes).length := by
  induction lists with
  | nil => exact Nat.le_refl _
  | cons points lists ih =>
    have := length_pointBytes_le points
    simp only [List.map_cons, List.flatMap_cons, List.length_append]
    omega

/-- The plain form of what has been read is no longer, if no text had to be mended. -/
theorem length_plainForm_le {form : item.Form} (h : item.HasUtf8 form) :
    (item.formBytes (item.plainForm (item.meaning form))).length ≤ (item.formBytes form).length := by
  cases item with
  | text =>
    have same : Item.text.plainForm (Item.text.meaning form) = form :=
      (Text.utf8Encode_utf8Decode_iff form).2 h
    exact Nat.le_of_eq (by rw [same])
  | listing =>
    have same : Item.listing.plainForm (Item.listing.meaning form) = form :=
      (Text.utf8Encode_utf8Decode_iff form).2 h
    exact Nat.le_of_eq (by rw [same])
  | name =>
    show (pointBytes (Name.ofPoints form).points).length ≤ (pointBytes form).length
    exact length_pointBytes_le form
  | names =>
    show (bigEndian 2 _ ++ ((form.map Name.ofPoints).map Name.points).flatMap pointBytes).length ≤
      (bigEndian 2 _ ++ form.flatMap pointBytes).length
    rw [List.length_append, List.length_append, length_bigEndian, length_bigEndian]
    exact Nat.add_le_add_left (length_flatMap_pointBytes_le form) 2
  | _ => exact Nat.le_refl _

/-! ## Reading a form -/

/-- Code points behind their number, of which a name has not too many. -/
def readPoints : Reader (List UInt32) := do
  let n ← Reader.unsigned 2
  if n ≤ nameCapacity then Reader.replicate n readWord else Reader.fail (.nameTooLong n)

/-- Reads a form of the given kind. -/
def readForm : (item : Item) → Reader item.Form
  | .key => readKey
  | .number => readNumber
  | .word => readWord
  | .port => readPort
  | .flag => readByte
  | .text => Reader.string
  | .listing => Reader.string
  | .blob => Reader.string
  | .id => readId
  | .name => readPoints
  | .control => readByte
  | .coupling => readByte
  | .state => readByte
  | .events => do return ⟨← readWord⟩
  | .numbers => readNumbers
  | .names => do Reader.replicate (← Reader.unsigned 2) readPoints

theorem readName_eq : readName = do return Name.ofPoints (← readPoints) := by
  simp only [readName, readPoints, bind_assoc]
  congr 1
  funext n
  split <;> rfl

/-- An item is the meaning of the form that is read. Of a byte, only what control bits have room for
counts. -/
theorem read_eq (item : Item) : item.read = do return item.meaning (← item.readForm) := by
  cases item with
  | text | listing | flag | coupling | state => rfl
  | name => exact readName_eq
  | names =>
    simp only [read, readForm, readName_eq, Reader.replicate_map, bind_assoc]
    rfl
  | control =>
    have low (n : Nat) : Control.ofNat (UInt8.ofNat n).toNat = Control.ofNat n := by
      rw [UInt8.toNat_ofNat', ← Control.ofNat_mod (n % 2 ^ 8), ← Control.ofNat_mod n,
        Nat.mod_mod_of_dvd n (by decide)]
    simp only [read, readForm, readByte, meaning, bind_assoc, pure_bind, low]
  | _ => exact (bind_pure _).symm

/-! ## One form for any bytes -/

theorem exact_points : Exact readPoints (·.length ≤ nameCapacity) pointBytes := by
  have points (n : Nat) :
      Exact (if n ≤ nameCapacity then Reader.replicate n readWord else Reader.fail (.nameTooLong n))
        (fun points => points.length = n ∧ n ≤ nameCapacity)
        (·.flatMap fun p => bigEndian 4 p.toNat) := by
    split
    · rename_i fits
      exact (Exact.replicate exact_word n).congr (by simp [fits]) fun _ _ => rfl
    · rename_i long
      exact Exact.fail _ fun points h => long h.2
  have counted := (Exact.unsigned 2).bind (fun n _ => points n) List.length fun _ _ _ h => h.1
  exact counted.congr (fun points => by simp [nameCapacity]; omega) fun _ _ => rfl

theorem unpackNumbers_eq_ok_iff {bs : Bytes} {ns : List ProcessorNumber} :
    unpackNumbers bs = .ok ns ↔ bs = ns.flatMap encodeNumber := by
  constructor
  · intro h
    rw [unpackNumbers] at h
    split at h
    · rename_i read
      cases h
      obtain ⟨-, rfl⟩ := (Exact.replicate exact_number _ _ _ _).1 read
      exact List.append_nil _
    · cases h
    · cases h
  · rintro rfl
    exact unpackNumbers_encode ns

theorem readNumbers_eq :
    readNumbers = Reader.string >>= fun packed rest => (unpackNumbers packed, rest) := by
  rw [readNumbers]
  congr 1
  funext packed rest
  cases unpackNumbers packed <;> rfl

theorem exact_numbers :
    Exact readNumbers (·.length ≤ 16383)
      fun ns => bigEndian 2 (ns.flatMap encodeNumber).length ++ ns.flatMap encodeNumber := by
  have unpacked (packed : Bytes) : Exact (fun rest => (unpackNumbers packed, rest))
      (fun ns => packed = ns.flatMap encodeNumber) fun _ => [] :=
    (Exact.result (unpackNumbers packed)).congr (fun _ => unpackNumbers_eq_ok_iff) fun _ _ => rfl
  have packed := Exact.string.bind (fun packed _ => unpacked packed) (·.flatMap encodeNumber)
    fun _ _ _ h => h.symm
  rw [readNumbers_eq]
  refine packed.congr (fun ns => ?_) fun ns _ => List.append_nil _
  simp only [length_flatMap_encodeNumber, maxStringLength, and_true]
  omega

/-- The form of an item can be read from its bytes alone. -/
theorem exact_form (item : Item) : Exact item.readForm item.Admits item.formBytes := by
  cases item with
  | key => exact exact_key
  | number => exact exact_number
  | word => exact exact_word
  | port => exact exact_port
  | flag | control | coupling | state => exact exact_byte
  | text | listing | blob => exact Exact.string
  | id => exact exact_id
  | name => exact exact_points
  | events =>
    exact exact_word.map Event.mk Event.bits (fun _ _ => ⟨trivial, rfl⟩) (fun _ _ => ⟨trivial, rfl⟩)
      fun _ _ => rfl
  | numbers => exact exact_numbers
  | names =>
    have lists := (Exact.unsigned 2).bind (fun n _ => Exact.replicate exact_points n) List.length
      fun _ _ _ h => h.1
    exact lists.congr (fun lists => by simp [Admits]; omega) fun _ _ => rfl

/-- An item is read from each of its forms, and from nothing else. -/
theorem read_eq_ok_iff {value : item.Value} {bs rest : Bytes} :
    item.read bs = (.ok value, rest) ↔
      ∃ form, item.Admits form ∧ item.meaning form = value ∧ bs = item.formBytes form ++ rest := by
  rw [read_eq]
  exact (exact_form item).map_eq_ok_iff item.meaning

/-- No bytes begin with two forms. -/
theorem formBytes_unique {form form' : item.Form} (h : item.Admits form) (h' : item.Admits form')
    {rest rest' : Bytes} (same : item.formBytes form ++ rest = item.formBytes form' ++ rest') :
    form = form' ∧ rest = rest' := (exact_form item).unique h h' same

theorem admits_plainForm {value : item.Value} (h : item.Fits value) :
    item.Admits (item.plainForm value) := by
  cases item with
  | text | listing =>
    show (Text.utf8Encode value).length ≤ 65535
    rw [Text.length_utf8Encode]
    exact h
  | name => exact value.length_le
  | names =>
    refine ⟨Nat.le_trans (Nat.le_of_eq (List.length_map ..)) h, fun points hp => ?_⟩
    obtain ⟨n, -, rfl⟩ := List.mem_map.1 hp
    exact n.length_le
  | blob | numbers => exact h
  | _ => trivial

/-- Text that is UTF-8 has room for itself. -/
theorem hasRoom_of_hasUtf8 {form : item.Form} (h : item.Admits form) (utf8 : item.HasUtf8 form) :
    item.HasRoom form := by
  cases item with
  | text | listing =>
    obtain ⟨s, rfl⟩ := utf8
    show (Text.utf8Decode (Text.utf8Encode s)).utf8ByteSize ≤ 65535
    rw [Text.utf8Decode_utf8Encode, ← Text.length_utf8Encode]
    exact h
  | _ => trivial

/-! ## The forms of a message -/

/-- The forms of a list of items. -/
abbrev Forms : List Item → Type
  | [] => Unit
  | item :: items => item.Form × Forms items

/-- What the forms of several items mean. -/
def meanings : (items : List Item) → Forms items → Values items
  | [], () => ()
  | item :: items, (form, forms) => (item.meaning form, meanings items forms)

/-- The forms that several items are written in. -/
def plainForms : (items : List Item) → Values items → Forms items
  | [], () => ()
  | item :: items, (value, values) => (item.plainForm value, plainForms items values)

/-- The bytes of several forms in order. -/
def formsBytes : (items : List Item) → Forms items → Bytes
  | [], () => []
  | item :: items, (form, forms) => item.formBytes form ++ formsBytes items forms

/-- Whether every form of several items has a property. -/
def Every (P : (item : Item) → item.Form → Prop) : (items : List Item) → Forms items → Prop
  | [], () => True
  | item :: items, (form, forms) => P item form ∧ Every P items forms

variable {items : List Item} {forms forms' : Forms items}

/-- Several items are read from their forms in order, and from nothing else. -/
theorem readAll_eq_ok_iff {values : Values items} {bs rest : Bytes} :
    readAll items bs = (.ok values, rest) ↔
      ∃ forms, Every Admits items forms ∧ meanings items forms = values ∧
        bs = formsBytes items forms ++ rest := by
  induction items generalizing bs with
  | nil =>
    show (Except.ok (), bs) = (Except.ok values, rest) ↔ _
    simp [Every, formsBytes]
  | cons item items ih =>
    obtain ⟨value, values⟩ := values
    constructor
    · intro h
      obtain ⟨_, _, first, others⟩ := Reader.exists_of_bind h
      obtain ⟨_, _, last, same⟩ := Reader.exists_of_bind others
      cases same
      obtain ⟨form, admitted, means, rfl⟩ := read_eq_ok_iff.1 first
      obtain ⟨forms, allAdmitted, allMean, rfl⟩ := ih.1 last
      exact ⟨(form, forms), ⟨admitted, allAdmitted⟩, Prod.ext means allMean,
        (List.append_assoc ..).symm⟩
    · rintro ⟨⟨form, forms⟩, ⟨admitted, allAdmitted⟩, means, rfl⟩
      obtain ⟨rfl, rfl⟩ := Prod.mk.inj means
      have first : item.read (item.formBytes form ++ (formsBytes items forms ++ rest)) = _ :=
        read_eq_ok_iff.2 ⟨form, admitted, rfl, rfl⟩
      have last : readAll items (formsBytes items forms ++ rest) = _ :=
        ih.2 ⟨forms, allAdmitted, rfl, rfl⟩
      rw [formsBytes, List.append_assoc]
      exact (Reader.bind_of_ok first).trans (Reader.bind_of_ok last)

theorem formsBytes_unique (h : Every Admits items forms) (h' : Every Admits items forms')
    {rest rest' : Bytes} (same : formsBytes items forms ++ rest = formsBytes items forms' ++ rest') :
    forms = forms' ∧ rest = rest' := by
  induction items with
  | nil => exact ⟨rfl, same⟩
  | cons item items ih =>
    obtain ⟨form, forms⟩ := forms
    obtain ⟨form', forms'⟩ := forms'
    rw [formsBytes, formsBytes, List.append_assoc, List.append_assoc] at same
    obtain ⟨rfl, sameOthers⟩ := formBytes_unique h.1 h'.1 same
    obtain ⟨rfl, sameRest⟩ := ih h.2 h'.2 sameOthers
    exact ⟨rfl, sameRest⟩

/-- What is written of several items are their plain forms. -/
theorem encodeAll_eq_ok_iff {values : Values items} {bytes : Bytes} :
    encodeAll items values = .ok bytes ↔
      AllFit items values ∧ bytes = formsBytes items (plainForms items values) := by
  induction items generalizing bytes with
  | nil => simp [encodeAll, AllFit, formsBytes, eq_comm]
  | cons item items ih =>
    obtain ⟨value, values⟩ := values
    simp only [encodeAll_cons_eq_ok_iff, encode_eq_ok_iff, ih, AllFit, plainForms, formsBytes]
    constructor
    · rintro ⟨_, _, ⟨fits, rfl⟩, ⟨allFit, rfl⟩, rfl⟩
      exact ⟨⟨fits, allFit⟩, rfl⟩
    · rintro ⟨⟨fits, allFit⟩, rfl⟩
      exact ⟨_, _, ⟨fits, rfl⟩, ⟨allFit, rfl⟩, rfl⟩

theorem allFit_meanings_iff (h : Every Admits items forms) :
    AllFit items (meanings items forms) ↔ Every HasRoom items forms := by
  induction items with
  | nil => exact Iff.rfl
  | cons item items ih =>
    obtain ⟨form, forms⟩ := forms
    exact and_congr (fits_meaning_iff h.1) (ih h.2)

theorem admits_plainForms {values : Values items} (h : AllFit items values) :
    Every Admits items (plainForms items values) := by
  induction items with
  | nil => trivial
  | cons item items ih => exact ⟨admits_plainForm h.1, ih h.2⟩

theorem plainForms_meanings_iff (h : Every Admits items forms) :
    plainForms items (meanings items forms) = forms ↔ Every IsPlain items forms := by
  induction items with
  | nil => exact iff_of_true rfl trivial
  | cons item items ih =>
    obtain ⟨form, forms⟩ := forms
    rw [meanings, plainForms, Prod.mk.injEq]
    exact and_congr (plainForm_meaning_iff h.1) (ih h.2)

theorem length_plainForms_le (h : Every HasUtf8 items forms) :
    (formsBytes items (plainForms items (meanings items forms))).length ≤
      (formsBytes items forms).length := by
  induction items with
  | nil => exact Nat.le_refl _
  | cons item items ih =>
    obtain ⟨form, forms⟩ := forms
    have := length_plainForm_le h.1
    have := ih h.2
    simp only [meanings, plainForms, formsBytes, List.length_append]
    omega

theorem hasRoom_of_every_hasUtf8 (h : Every Admits items forms) (utf8 : Every HasUtf8 items forms) :
    Every HasRoom items forms := by
  induction items with
  | nil => trivial
  | cons item items ih => exact ⟨hasRoom_of_hasUtf8 h.1 utf8.1, ih h.2 utf8.2⟩

end Item

end Wire

end SharedVariables
