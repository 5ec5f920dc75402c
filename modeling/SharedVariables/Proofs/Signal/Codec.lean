import SharedVariables.Proofs.Stream.Frame

/-!
# Signals on the wire

A signal has a payload exactly when its fields fit (`Signal.encode_fits`). Then the payload reads as that
signal whatever follows it (`Signal.decode_encode`), none of its beginnings reads as anything
(`Signal.decode_prefix`), and it has a frame, from which both readers get the signal. `Signal.codec` says
all of this at once.
-/

namespace SharedVariables

open Wire

theorem SignalKind.code_lt (k : SignalKind) : k.code < Nat.pow 256 2 := by
  cases k <;> decide

/-- The items of no kind come near the bound on frames; a list of names is the longest. -/
theorem SignalKind.layout_length_le (k : SignalKind) :
    (k.layout.map Item.maxLength).sum + 2 ≤ maxFrameLength := by
  cases k <;> decide

namespace Signal

/-- No field of a signal is too large for the length that is written in front of it: texts and byte
strings have at most 65535 bytes, lists of numbers at most 16383 and lists of names at most 65535
members. -/
def Fits : Signal → Prop
  | setState _ _ loc => loc.utf8ByteSize ≤ 65535
  | valueIs _ _ errorLoc value => errorLoc.utf8ByteSize ≤ 65535 ∧ value.length ≤ 65535
  | assignValue _ value => value.length ≤ 65535
  | svarAssigned _ _ errorLoc => errorLoc.utf8ByteSize ≤ 65535
  | svarRecordIs record => record.length ≤ 65535
  | registerProcessor _ _ progname _ _ => progname.utf8ByteSize ≤ 65535
  | offeringProcsAre procs => procs.length ≤ 16383
  | offeredVarsAre names => names.length ≤ 65535
  | assignWswsVar _ value => value.length ≤ 65535
  | wswsValueIs value => value.length ≤ 65535
  | svarDbPrinted printout => printout.utf8ByteSize ≤ 65535
  | _ => True

/-- Only items of these signals can fail to fit. -/
theorem allFit_iff_fits (s : Signal) : Item.AllFit s.kind.layout s.values ↔ s.Fits := by
  cases s <;> dsimp only [kind, values, Item.AllFit, Item.Fits, Fits] <;> simp

theorem encode_eq_ok_iff {s : Signal} {payload : Bytes} :
    s.encode = .ok payload ↔
      ∃ items, Item.encodeAll s.kind.layout s.values = .ok items ∧
        payload = bigEndian 2 s.kind.code ++ items := by
  rw [encode]
  cases Item.encodeAll s.kind.layout s.values with
  | error e => simp [bind, Except.bind]
  | ok items => simp [bind, Except.bind, pure, Except.pure, eq_comm]

/-- A signal has a payload exactly when its fields fit. -/
theorem encode_fits (s : Signal) : (∃ payload, s.encode = .ok payload) ↔ s.Fits := by
  rw [← allFit_iff_fits, ← Item.encodeAll_fits]
  simp only [encode_eq_ok_iff]
  constructor
  · rintro ⟨_, items, h, -⟩
    exact ⟨items, h⟩
  · rintro ⟨items, h⟩
    exact ⟨_, items, h, rfl⟩

/-! ## Reading a payload -/

/-- Behind the number of a kind, the items of that kind are read. -/
theorem decode_code (k : SignalKind) (bs : Bytes) :
    decode (bigEndian 2 k.code ++ bs) =
      match (Item.readAll k.layout).result bs with
      | .ok values => .ok (.ofValues k values)
      | .error e => .error (.wire e) := by
  have found := SignalKind.ofCode?_code k
  rw [decode, (Reader.Reads.unsigned k.code_lt).whole]
  dsimp only
  generalize SignalKind.ofCode? k.code = kind? at found ⊢
  subst found
  rfl

variable {s : Signal} {payload : Bytes}

theorem decode_encode (h : s.encode = .ok payload) (rest : Bytes) :
    decode (payload ++ rest) = .ok s := by
  obtain ⟨items, hitems, rfl⟩ := encode_eq_ok_iff.1 h
  rw [List.append_assoc, decode_code, (Item.readsAll hitems).result_eq]
  exact congrArg Except.ok (ofValues_values s)

theorem decode_payload (h : s.encode = .ok payload) : decode payload = .ok s := by
  simpa using decode_encode h []

/-- A beginning of a payload ends within the number of the kind or within the items. -/
theorem decode_prefix (h : s.encode = .ok payload) {p : Bytes} (hp : p <+: payload)
    (hne : p ≠ payload) :
    ∃ needed available, decode p = .error (.wire (.truncated needed available)) := by
  obtain ⟨items, hitems, rfl⟩ := encode_eq_ok_iff.1 h
  have code := Reader.Reads.unsigned s.kind.code_lt
  by_cases hcode : bigEndian 2 s.kind.code <+: p
  · obtain ⟨q, rfl⟩ := hcode
    have hq : q <+: items := (List.prefix_append_right_inj _).1 hp
    obtain ⟨needed, available, left, hleft⟩ :=
      (Item.readsAll hitems).cut q hq fun heq => hne (by rw [heq])
    exact ⟨needed, available, by rw [decode_code, Reader.result, hleft]⟩
  · have hp : p <+: bigEndian 2 s.kind.code :=
      (List.prefix_or_prefix_of_prefix hp (List.prefix_append _ items)).resolve_right hcode
    obtain ⟨needed, available, left, hleft⟩ :=
      code.cut p hp fun heq => hcode (heq ▸ List.prefix_rfl)
    exact ⟨needed, available, by rw [decode, hleft]⟩

theorem length_encode (h : s.encode = .ok payload) :
    2 ≤ payload.length ∧ payload.length ≤ maxFrameLength := by
  obtain ⟨items, hitems, rfl⟩ := encode_eq_ok_iff.1 h
  have := Item.length_encodeAll_le hitems
  have := s.kind.layout_length_le
  rw [List.length_append, length_bigEndian]
  omega

/-- A payload goes into a frame. -/
theorem frame_encode (h : s.encode = .ok payload) :
    s.frame = .ok (bigEndian 4 payload.length ++ payload) := by
  rw [frame, h]
  exact frameBytes_ok (length_encode h).2

theorem ne_nil_of_encode (h : s.encode = .ok payload) : payload ≠ [] := by
  have := (length_encode h).1
  rintro rfl
  simp at this

/-- A signal has a frame exactly when its fields fit. -/
theorem frame_fits (s : Signal) : (∃ frame, s.frame = .ok frame) ↔ s.Fits := by
  rw [← encode_fits]
  constructor
  · rintro ⟨frame, h⟩
    cases he : s.encode with
    | ok payload => exact ⟨payload, rfl⟩
    | error e => rw [Signal.frame, he] at h; cases h
  · rintro ⟨payload, h⟩
    exact ⟨_, frame_encode h⟩

theorem exists_encode_of_frame {frame : Bytes} (h : s.frame = .ok frame) :
    ∃ payload, s.encode = .ok payload ∧ frame = bigEndian 4 payload.length ++ payload := by
  obtain ⟨payload, he⟩ := s.encode_fits.2 (s.frame_fits.1 ⟨frame, h⟩)
  exact ⟨payload, he, Except.ok.inj (h.symm.trans (frame_encode he))⟩

theorem ne_nil_of_frame {frame : Bytes} (h : s.frame = .ok frame) : frame ≠ [] := by
  obtain ⟨payload, -, rfl⟩ := exists_encode_of_frame h
  exact List.cons_ne_nil _ _

/-- What arrives with a frame that nothing follows. -/
theorem leaving_of_frame {frame : Bytes} (h : s.frame = .ok frame) (ending : Option Fault) :
    ∃ payload, s.encode = .ok payload ∧ (⟨[.bytes frame], ending⟩ : Source) =
      .leaving (bigEndian 4 payload.length ++ payload ++ []) [] ending := by
  obtain ⟨payload, he, rfl⟩ := exists_encode_of_frame h
  refine ⟨payload, he, ?_⟩
  rw [List.append_nil, Source.leaving_of_ne_nil (ne_nil_of_frame h)]

/-- A frame that is all that has arrived gives its signal, and leaves nothing. -/
theorem readFrame_of_frame {frame : Bytes} (h : s.frame = .ok frame) (buffer : ReceiveBuffer)
    (ending : Option Fault) :
    ∃ buffer', readFrame buffer ⟨[.bytes frame], ending⟩ =
      ⟨.ok (some s), buffer', ⟨[], ending⟩⟩ := by
  obtain ⟨payload, he, arrived⟩ := leaving_of_frame h ending
  rw [arrived, readFrame_frame (ne_nil_of_encode he) (length_encode he).2, decode_payload he]
  exact ⟨_, rfl⟩

theorem readFrameServer_of_frame {frame : Bytes} (h : s.frame = .ok frame) (buffer : ReceiveBuffer)
    (ending : Option Fault) :
    ∃ buffer', readFrameServer buffer ⟨[.bytes frame], ending⟩ =
      ⟨.ok (some s), buffer', ⟨[], ending⟩⟩ := by
  obtain ⟨payload, he, arrived⟩ := leaving_of_frame h ending
  rw [arrived, readFrameServer_frame (ne_nil_of_encode he) (length_encode he).2, decode_payload he]
  exact ⟨_, rfl⟩

/-- The payload of a signal: when there is one, that it is read back and no beginning of it is, and
that the frame around it is read as the signal and not as a good-bye. -/
theorem codec (s : Signal) :
    ((∃ payload, s.encode = .ok payload) ↔ s.Fits) ∧
      ∀ payload, s.encode = .ok payload →
        (∀ rest, decode (payload ++ rest) = .ok s) ∧
        (∀ p, p <+: payload → p ≠ payload →
          ∃ needed available, decode p = .error (.wire (.truncated needed available))) ∧
        2 ≤ payload.length ∧ payload.length ≤ maxFrameLength ∧
        ∃ header, frameBytes payload = .ok (header ++ payload) ∧ header.length = 4 ∧
          header ≠ closeFrame ∧
          ∀ buffer rest more ending,
            let stream : Source := ⟨.bytes (header ++ payload ++ rest) :: more, ending⟩
            (readFrame buffer stream).result = .ok (some s) ∧
              (readFrameServer buffer stream).result = .ok (some s) := by
  refine ⟨encode_fits s, fun payload h => ?_⟩
  have hne := ne_nil_of_encode h
  obtain ⟨hmin, hmax⟩ := length_encode h
  refine ⟨decode_encode h, fun p => decode_prefix h, hmin, hmax, bigEndian 4 payload.length,
    frameBytes_ok hmax, length_bigEndian 4 _, frame_ne_closeFrame hne hmax,
    fun buffer rest more ending => ?_⟩
  have stream : Source.leaving (bigEndian 4 payload.length ++ payload ++ rest) more ending =
      ⟨.bytes (bigEndian 4 payload.length ++ payload ++ rest) :: more, ending⟩ :=
    Source.leaving_of_ne_nil (by simp [hne]) more ending
  dsimp only
  rw [← stream, readFrame_frame hne hmax, readFrameServer_frame hne hmax, decode_payload h]
  exact ⟨rfl, rfl⟩

/-- Two names: one is empty, the other has a zero among its code points and one that is no character.
-/
theorem codec_of_offeredVarsAre :
    let names := [Name.empty, .ofPoints [0x41, 0, 0xD800]]
    let payload : Bytes := [0, 23, 0, 2, 0, 0, 0, 3, 0, 0, 0, 0x41, 0, 0, 0, 0, 0, 0, 0xD8, 0]
    (offeredVarsAre names).encode = .ok payload ∧
      decode (payload ++ [0xFF]) = .ok (offeredVarsAre names) ∧
      ∃ needed available,
        decode (payload.take 19) = .error (.wire (.truncated needed available)) := by
  intro names payload
  have encoded : (offeredVarsAre names).encode = .ok payload :=
    encode_eq_ok_iff.2 ⟨_, rfl, by decide⟩
  obtain ⟨-, h⟩ := codec (offeredVarsAre names)
  obtain ⟨whole, cut, -⟩ := h payload encoded
  exact ⟨encoded, whole [0xFF], cut _ (List.take_prefix 19 payload) (by decide)⟩

end Signal

end SharedVariables
