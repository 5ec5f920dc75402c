import SharedVariables.Proofs.Wire.Item
import SharedVariables.Stream.Frame

/-!
# Frames that arrive whole

A payload that is neither empty nor too large has a frame (`frameBytes_ok`), which is not the one
that says good-bye (`frame_ne_closeFrame`). Both readers take a frame that has arrived off the stream,
and nothing behind it, and give the signal in its payload (`readFrame_frame`,
`readFrameServer_frame`).
-/

namespace SharedVariables

open Wire

namespace Source

/-- What is left of a stream whose first arrival has been read up to `rest`. -/
def leaving (rest : Bytes) (more : List Arrival) (ending : Option Fault) : Source :=
  ⟨if rest.isEmpty then more else .bytes rest :: more, ending⟩

theorem leaving_of_ne_nil {rest : Bytes} (h : rest ≠ []) (more : List Arrival)
    (ending : Option Fault) : leaving rest more ending = ⟨.bytes rest :: more, ending⟩ := by
  rw [leaving, if_neg (by simpa using h)]

/-- Bytes that have arrived are read at once. -/
theorem fill_leaving (retried : Fault → Bool) {bs : Bytes} (h : bs ≠ []) (rest : Bytes)
    (more : List Arrival) (ending : Option Fault) :
    (leaving (bs ++ rest) more ending).fill retried bs.length =
      (.complete bs, leaving rest more ending) := by
  have hne : bs ++ rest ≠ [] := List.append_ne_nil_of_left_ne_nil h rest
  rw [leaving_of_ne_nil hne, fill]
  simp only [fillFrom]
  rw [if_neg (by simpa using hne)]
  simp [leaving]

end Source

/-! ## The frame of a payload -/

theorem frameBytes_ok {payload : Bytes} (h : payload.length ≤ maxFrameLength) :
    frameBytes payload = .ok (bigEndian 4 payload.length ++ payload) := by
  rw [frameBytes, frameHeader, if_pos h]
  rfl

theorem ofBigEndian_header {payload : Bytes} (h : payload.length ≤ maxFrameLength) :
    ofBigEndian (bigEndian 4 payload.length) = payload.length := by
  rw [ofBigEndian_bigEndian]
  exact Nat.mod_eq_of_lt (Nat.lt_of_le_of_lt h (by decide))

/-- A frame does not begin with the bytes that say good-bye. -/
theorem frame_ne_closeFrame {payload : Bytes} (hne : payload ≠ [])
    (h : payload.length ≤ maxFrameLength) : bigEndian 4 payload.length ≠ closeFrame := by
  intro heq
  have := congrArg ofBigEndian heq
  rw [ofBigEndian_header h, closeFrame, ofBigEndian_bigEndian] at this
  exact hne (List.length_eq_zero_iff.1 this)

/-! ## Reading it -/

theorem fill_header (retried : Fault → Bool) (payload rest : Bytes) (more : List Arrival)
    (ending : Option Fault) :
    (Source.leaving (bigEndian 4 payload.length ++ payload ++ rest) more ending).fill retried 4 =
      (.complete (bigEndian 4 payload.length), Source.leaving (payload ++ rest) more ending) := by
  have hne : bigEndian 4 payload.length ≠ [] := List.cons_ne_nil _ _
  have := Source.fill_leaving retried hne (payload ++ rest) more ending
  rwa [length_bigEndian, ← List.append_assoc] at this

section Reading

variable {payload : Bytes} (hne : payload ≠ []) (h : payload.length ≤ maxFrameLength)
  (buffer : ReceiveBuffer) (rest : Bytes) (more : List Arrival) (ending : Option Fault)

include hne h

theorem readPayload_leaving (retried ends : Fault → Bool) :
    readPayload retried ends buffer payload.length
        (Source.leaving (payload ++ rest) more ending) =
      ⟨(Signal.decode payload).map some, buffer.overwrite payload,
        Source.leaving rest more ending⟩ := by
  rw [readPayload, if_neg (by simpa using hne), if_neg (by omega)]
  simp only [Source.fill_leaving retried hne]
  rw [Received.ofBuffer, ReceiveBuffer.overwrite, List.take_left']
  rfl

/-- A client's reader. -/
theorem readFrame_frame :
    readFrame buffer
        (Source.leaving (bigEndian 4 payload.length ++ payload ++ rest) more ending) =
      ⟨(Signal.decode payload).map some, buffer.overwrite payload,
        Source.leaving rest more ending⟩ := by
  rw [readFrame]
  simp only [fill_header, ofBigEndian_header h]
  exact readPayload_leaving hne h buffer rest more ending _ _

/-- The server's reader. -/
theorem readFrameServer_frame :
    readFrameServer buffer
        (Source.leaving (bigEndian 4 payload.length ++ payload ++ rest) more ending) =
      ⟨(Signal.decode payload).map some, buffer.overwrite payload,
        Source.leaving rest more ending⟩ := by
  rw [readFrameServer]
  simp only [fill_header, ofBigEndian_header h]
  exact readPayload_leaving hne h buffer rest more ending _ _

end Reading

end SharedVariables
