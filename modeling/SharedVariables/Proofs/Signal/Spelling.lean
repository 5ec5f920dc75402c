import SharedVariables.Proofs.Signal.Codec
import SharedVariables.Proofs.Wire.Form

/-!
# The spellings of a signal

A payload that is accepted spells its signal: the number of a kind, a form for each of its items, and
bytes that nobody reads. There is one spelling for the bytes of a payload (`Signal.Spelling.bytes_inj`),
and it is all that decoding looks at (`Signal.decode_eq_ok_iff`). A signal has one plain spelling, which
is its payload, so encoding what has been decoded makes any spelling plain
(`Signal.decoding_normalises`).
-/

namespace SharedVariables

open Wire

namespace Signal

/-- The bytes of a payload, taken apart. -/
structure Spelling where
  kind : SignalKind
  forms : Item.Forms kind.layout
  admitted : Item.Every Item.Admits kind.layout forms
  trailing : Bytes

namespace Spelling

/-- The payload itself. -/
def bytes (w : Spelling) : Bytes :=
  bigEndian 2 w.kind.code ++ (Item.formsBytes w.kind.layout w.forms ++ w.trailing)

/-- The signal that is spelt. -/
def signal (w : Spelling) : Signal := .ofValues w.kind (Item.meanings w.kind.layout w.forms)

/-- Whether every form in a spelling has a property. -/
def Every (P : (item : Item) → item.Form → Prop) (w : Spelling) : Prop :=
  Item.Every P w.kind.layout w.forms

/-- Whether a spelling is the one that its signal is written in. -/
def IsPlain (w : Spelling) : Prop := w.trailing = [] ∧ w.Every Item.IsPlain

end Spelling

/-- What is accepted begins with the number of a kind, behind which its items are read. -/
theorem exists_items_of_decode {b : Bytes} {s : Signal} (accepted : decode b = .ok s) :
    ∃ kind values rest trailing, b = bigEndian 2 kind.code ++ rest ∧
      Item.readAll kind.layout rest = (.ok values, trailing) ∧ s = .ofValues kind values := by
  rw [decode] at accepted
  split at accepted
  · cases accepted
  rename_i code rest numbered
  obtain ⟨-, rfl⟩ := (Reader.Exact.unsigned 2 _ _ _).1 numbered
  split at accepted
  · cases accepted
  rename_i kind found
  split at accepted
  · rename_i values read
    cases accepted
    exact ⟨kind, values, rest, _, by rw [SignalKind.code_of_ofCode? found], Prod.ext read rfl, rfl⟩
  · cases accepted

/-- A payload is accepted just if it spells a signal. -/
theorem decode_eq_ok_iff {b : Bytes} {s : Signal} :
    decode b = .ok s ↔ ∃ w : Spelling, w.bytes = b ∧ w.signal = s := by
  constructor
  · intro accepted
    obtain ⟨kind, values, rest, trailing, rfl, read, rfl⟩ := exists_items_of_decode accepted
    obtain ⟨forms, admitted, rfl, rfl⟩ := Item.readAll_eq_ok_iff.1 read
    exact ⟨⟨kind, forms, admitted, trailing⟩, rfl, rfl⟩
  · rintro ⟨w, rfl, rfl⟩
    have read : Item.readAll w.kind.layout (Item.formsBytes w.kind.layout w.forms ++ w.trailing) = _ :=
      Item.readAll_eq_ok_iff.2 ⟨w.forms, w.admitted, rfl, rfl⟩
    rw [Spelling.bytes, decode_code, Reader.result, read]
    rfl

/-- No payload has two spellings. -/
theorem Spelling.bytes_inj {w w' : Spelling} (h : w.bytes = w'.bytes) : w = w' := by
  obtain ⟨kind, forms, admitted, trailing⟩ := w
  obtain ⟨kind', forms', admitted', trailing'⟩ := w'
  obtain ⟨sameCode, sameItems⟩ := (Reader.Exact.unsigned 2).unique kind.code_lt kind'.code_lt h
  have sameKind : kind = kind' := by
    have := congrArg SignalKind.ofCode? sameCode
    rw [SignalKind.ofCode?_code, SignalKind.ofCode?_code] at this
    exact Option.some.inj this
  subst sameKind
  obtain ⟨rfl, rfl⟩ := Item.formsBytes_unique admitted admitted' sameItems
  rfl

theorem encode_ofValues_eq_ok_iff {kind : SignalKind} {values : Item.Values kind.layout} {b : Bytes} :
    (ofValues kind values).encode = .ok b ↔
      ∃ items, Item.encodeAll kind.layout values = .ok items ∧ b = bigEndian 2 kind.code ++ items := by
  cases kind <;> exact encode_eq_ok_iff

namespace Spelling

variable {w : Spelling} {b : Bytes}

/-- The signal that is spelt is written as its kind and the plain forms of its items. -/
theorem encode_signal_eq_ok_iff : w.signal.encode = .ok b ↔ w.Every Item.HasRoom ∧
    b = bigEndian 2 w.kind.code ++
      Item.formsBytes w.kind.layout (Item.plainForms _ (Item.meanings _ w.forms)) := by
  rw [signal, encode_ofValues_eq_ok_iff, Every, ← Item.allFit_meanings_iff w.admitted]
  simp only [Item.encodeAll_eq_ok_iff]
  constructor
  · rintro ⟨_, ⟨fits, rfl⟩, rfl⟩
    exact ⟨fits, rfl⟩
  · rintro ⟨fits, rfl⟩
    exact ⟨_, ⟨fits, rfl⟩, rfl⟩

/-- The spelling in which the signal is written. -/
def plain (w : Spelling) (h : w.Every Item.HasRoom) : Spelling where
  kind := w.kind
  forms := Item.plainForms _ (Item.meanings _ w.forms)
  admitted := Item.admits_plainForms ((Item.allFit_meanings_iff w.admitted).2 h)
  trailing := []

theorem bytes_plain (h : w.Every Item.HasRoom) : w.signal.encode = .ok (w.plain h).bytes := by
  rw [encode_signal_eq_ok_iff]
  exact ⟨h, by rw [bytes, plain, List.append_nil]⟩

/-- A spelling is plain just if writing its signal gives it back. -/
theorem plain_eq_iff (h : w.Every Item.HasRoom) : w.plain h = w ↔ w.IsPlain := by
  rw [IsPlain, Every, ← Item.plainForms_meanings_iff w.admitted]
  obtain ⟨kind, forms, admitted, trailing⟩ := w
  rw [plain, mk.injEq, heq_iff_eq, and_iff_right rfl, and_comm]
  exact and_congr_left' eq_comm

theorem length_plain_le (h : w.Every Item.HasRoom) (utf8 : w.Every Item.HasUtf8) :
    (w.plain h).bytes.length ≤ w.bytes.length := by
  have := Item.length_plainForms_le utf8
  simp only [bytes, plain, List.length_append, List.length_nil]
  omega

end Spelling

/-- Decoding normalises. A payload that is accepted has one spelling. Its signal can be written unless a
text was mended to more than 65535 bytes, which no text is that was UTF-8; what is written is read as the
same signal, and written as it is when read again; it is not longer if no text had to be mended; and it is
the payload itself just if the spelling was plain: nothing trailed, text was UTF-8, flags were 0 or 1,
control bits had nothing above them, couplings and states had known codes, and names had no trailing zeros.
-/
theorem decoding_normalises {b : Bytes} {s : Signal} (accepted : decode b = .ok s) :
    ∃ w : Spelling, (w.bytes = b ∧ w.signal = s ∧ ∀ w' : Spelling, w'.bytes = b → w' = w) ∧
      ((∃ b', s.encode = .ok b') ↔ w.Every Item.HasRoom) ∧
      (w.Every Item.HasUtf8 → w.Every Item.HasRoom) ∧
      ∀ b', s.encode = .ok b' →
        decode b' = .ok s ∧ (∀ s', decode b' = .ok s' → s'.encode = .ok b') ∧
        (w.Every Item.HasUtf8 → b'.length ≤ b.length) ∧ (b' = b ↔ w.IsPlain) := by
  obtain ⟨w, rfl, rfl⟩ := decode_eq_ok_iff.1 accepted
  refine ⟨w, ⟨rfl, rfl, fun w' same => Spelling.bytes_inj same⟩, ?_,
    Item.hasRoom_of_every_hasUtf8 w.admitted, fun b' written => ?_⟩
  · constructor
    · rintro ⟨b', written⟩
      exact (Spelling.encode_signal_eq_ok_iff.1 written).1
    · intro room
      exact ⟨_, Spelling.bytes_plain room⟩
  · have room := (Spelling.encode_signal_eq_ok_iff.1 written).1
    obtain rfl : (w.plain room).bytes = b' := Except.ok.inj ((Spelling.bytes_plain room).symm.trans written)
    have back := decode_payload written
    refine ⟨back, fun s' again => ?_, Spelling.length_plain_le room, ?_⟩
    · cases again.symm.trans back
      exact written
    · rw [← Spelling.plain_eq_iff room]
      exact ⟨Spelling.bytes_inj, congrArg Spelling.bytes⟩

/-- A flag that is neither 0 nor 1, a text that is mended to a longer one, and a byte too many. -/
theorem decoding_normalises_of_setState :
    let b : Bytes := [0, 3, 0, 0, 0, 7, 3, 0xE9, 0, 1, 2, 0, 2, 0x41, 0xFF, 9]
    let b' : Bytes := [0, 3, 0, 0, 0, 7, 3, 0xE9, 0, 1, 1, 0, 4, 0x41, 0xEF, 0xBF, 0xBD]
    let s := setState ⟨0x703E90001⟩ true "A\uFFFD"
    decode b = .ok s ∧ s.encode = .ok b' ∧ decode b' = .ok s := by
  intro b b' s
  let w : Spelling :=
    ⟨.setState, (⟨0x703E90001⟩, 2, [0x41, 0xFF], ()), by simp [Item.Every, Item.Admits], [9]⟩
  have accepted : decode b = .ok s := decode_eq_ok_iff.2 ⟨w, by decide, by decide⟩
  have written : s.encode = .ok b' := encode_eq_ok_iff.2 ⟨_, rfl, by decide⟩
  obtain ⟨_, -, -, -, normal⟩ := decoding_normalises accepted
  exact ⟨accepted, written, (normal b' written).1⟩

end Signal

end SharedVariables
