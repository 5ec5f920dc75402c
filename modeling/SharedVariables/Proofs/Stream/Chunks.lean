import SharedVariables.Proofs.Stream.Frame

/-!
# Frames that arrive in pieces

A stream gives its bytes in chunks of any size, which may end inside a frame or reach from one into the
next, and reads of it may be interrupted at any point. `Delivers` says which bytes a list of arrivals
brings, however they are cut. What is read of them depends on the bytes alone (`fillFrom_complete`,
`fillFrom_ended`), so that a call takes one frame off the stream, whatever the buffer holds
(`readFrame_delivered`), and the call behind the last frame tells a stream that says good-bye or ends
there from one that ends inside a frame (`readFrame_closeFrame`, `readFrame_ended`,
`readFrame_ended_inside`). `frames_in_pieces` puts them together for any number of frames.
-/

namespace SharedVariables

open Wire

/-- The arrivals bring these bytes, in chunks of any size and with interrupted reads anywhere among
them, and then come those in `more`. -/
inductive Delivers (more : List Arrival) : List Arrival → Bytes → Prop
  | nothing : Delivers more more []
  | interrupted {arrivals : List Arrival} {bs : Bytes} (behind : Delivers more arrivals bs) :
    Delivers more (.fault .interrupted :: arrivals) bs
  | chunk {arrivals : List Arrival} {bs : Bytes} (now : Bytes) (nonempty : now ≠ [])
      (behind : Delivers more arrivals bs) : Delivers more (.bytes now :: arrivals) (now ++ bs)

/-- Whether the stream ends where the arrivals in `more` begin: there are none and reads do not fail,
or the next read gets no byte. -/
def EndsAt (more : List Arrival) (ending : Option Fault) : Prop :=
  more = [] ∧ ending = none ∨ ∃ later, more = .bytes [] :: later

namespace Source

variable {more arrivals : List Arrival} {bs : Bytes}

/-- What is left of a chunk goes on being delivered. -/
theorem Delivers.leave (h : Delivers more arrivals bs) (later : Bytes) :
    Delivers more (if later = [] then arrivals else .bytes later :: arrivals) (later ++ bs) := by
  split
  · rename_i he
    rwa [he, List.nil_append]
  · rename_i hne
    exact .chunk later hne h

/-- Reading gets as many bytes as are asked for, if they come, and leaves those behind them. -/
theorem fillFrom_complete (retried : Fault → Bool) (retry : retried .interrupted = true)
    (h : Delivers more arrivals bs) (ending : Option Fault) (needed : Nat) (pos : 0 < needed)
    (enough : needed ≤ bs.length) (got : Bytes) :
    ∃ rest, fillFrom retried ending needed got arrivals =
        (.complete (got.reverse ++ bs.take needed), rest) ∧
      Delivers more rest (bs.drop needed) := by
  induction h generalizing needed got with
  | nothing =>
    rw [List.length_nil] at enough
    omega
  | interrupted _ ih =>
    simp only [fillFrom, retry, ↓reduceIte]
    exact ih needed pos enough got
  | @chunk arrivals bs now hne h ih =>
    rw [List.length_append] at enough
    simp only [fillFrom, List.isEmpty_iff, hne, ↓reduceIte, List.splitAt_eq, List.length_take]
    by_cases short : now.length < needed
    · obtain ⟨rest, hfill, hrest⟩ := ih (needed - now.length) (by omega) (by omega)
        (now.reverse ++ got)
      rw [if_pos (by omega), List.take_of_length_le (by omega), Nat.min_eq_right (by omega), hfill]
      refine ⟨rest, ?_, ?_⟩
      · have taken : (now ++ bs).take needed = now ++ bs.take (needed - now.length) := by
          rw [List.take_append, List.take_of_length_le (l := now) (by omega)]
        rw [taken]
        simp only [List.reverse_append, List.reverse_reverse, List.append_assoc]
      · rwa [List.drop_append, List.drop_of_length_le (l := now) (by omega), List.nil_append]
    · rw [if_neg (by omega)]
      have left := Delivers.leave h (now.drop needed)
      rw [← List.drop_append_of_le_length (by omega)] at left
      refine ⟨_, ?_, left⟩
      rw [List.take_append_of_le_length (by omega)]
      simp only [List.reverse_append, List.reverse_reverse]

/-- If the stream ends before enough bytes have come, reading gets those that have. -/
theorem fillFrom_ended (retried : Fault → Bool) (retry : retried .interrupted = true)
    (h : Delivers more arrivals bs) {ending : Option Fault} (ends : EndsAt more ending)
    (needed : Nat) (short : bs.length < needed) (got : Bytes) :
    ∃ rest, fillFrom retried ending needed got arrivals = (.ended (got.reverse ++ bs), rest) := by
  induction h generalizing needed got with
  | nothing =>
    rw [List.append_nil]
    rcases ends with ⟨rfl, rfl⟩ | ⟨later, rfl⟩
    · exact ⟨[], rfl⟩
    · exact ⟨later, rfl⟩
  | interrupted _ ih =>
    simp only [fillFrom, retry, ↓reduceIte]
    exact ih needed short got
  | @chunk arrivals bs now hne h ih =>
    rw [List.length_append] at short
    obtain ⟨rest, hfill⟩ := ih (needed - now.length) (by omega) (now.reverse ++ got)
    simp only [fillFrom, List.isEmpty_iff, hne, ↓reduceIte, List.splitAt_eq, List.length_take]
    rw [if_pos (by omega), List.take_of_length_le (by omega), Nat.min_eq_right (by omega), hfill]
    refine ⟨rest, ?_⟩
    simp only [List.reverse_append, List.reverse_reverse, List.append_assoc]

end Source

/-! ## One call -/

section Call

variable {more : List Arrival} {s : Source} (buffer : ReceiveBuffer)

/-- A stream that brings `bs` and then `rest` gives `bs` to whoever asks for so many bytes. -/
theorem fill_delivered {bs rest : Bytes} (hne : bs ≠ [])
    (h : Delivers more s.arrivals (bs ++ rest)) :
    ∃ arrivals, s.fill (fun f => f = .interrupted) bs.length =
        (.complete bs, { s with arrivals := arrivals }) ∧ Delivers more arrivals rest := by
  obtain ⟨arrivals, hfill, hrest⟩ := Source.fillFrom_complete (fun f => f = .interrupted) rfl h
    s.ending bs.length (List.length_pos_iff.2 hne) (by simp) []
  rw [List.reverse_nil, List.nil_append, List.take_left' rfl] at hfill
  rw [List.drop_left' rfl] at hrest
  exact ⟨arrivals, by rw [Source.fill, hfill], hrest⟩

theorem fill_header_delivered {length : Nat} {rest : Bytes}
    (h : Delivers more s.arrivals (bigEndian 4 length ++ rest)) :
    ∃ arrivals, s.fill (fun f => f = .interrupted) 4 =
        (.complete (bigEndian 4 length), { s with arrivals := arrivals }) ∧
      Delivers more arrivals rest := by
  have hne : bigEndian 4 length ≠ [] := List.cons_ne_nil _ _
  have := fill_delivered hne h
  rwa [length_bigEndian] at this

/-- The stream is over before enough bytes have come. -/
theorem fill_ended {bs : Bytes} {needed : Nat} (h : Delivers more s.arrivals bs)
    (ends : EndsAt more s.ending) (short : bs.length < needed) :
    ∃ arrivals, s.fill (fun f => f = .interrupted) needed =
      (.ended bs, { s with arrivals := arrivals }) := by
  obtain ⟨arrivals, hfill⟩ := Source.fillFrom_ended (fun f => f = .interrupted) rfl h
    ends needed short []
  exact ⟨arrivals, by rw [Source.fill, hfill]; rfl⟩

/-- A call takes one frame off the stream and gives what is in it. -/
theorem readFrame_delivered {payload rest : Bytes} (hne : payload ≠ [])
    (fits : payload.length ≤ maxFrameLength)
    (h : Delivers more s.arrivals (bigEndian 4 payload.length ++ payload ++ rest)) :
    ∃ arrivals, readFrame buffer s =
        ⟨(Signal.decode payload).map some, buffer.overwrite payload,
          { s with arrivals := arrivals }⟩ ∧
      Delivers more arrivals rest := by
  rw [List.append_assoc] at h
  obtain ⟨behind, hheader, h⟩ := fill_header_delivered h
  obtain ⟨arrivals, hpayload, hrest⟩ := fill_delivered (s := { s with arrivals := behind }) hne h
  refine ⟨arrivals, ?_, hrest⟩
  simp only [readFrame, hheader, ofBigEndian_header fits, readPayload]
  rw [if_neg (by simpa using hne), if_neg (by omega)]
  simp only [hpayload, Received.ofBuffer, ReceiveBuffer.overwrite, List.take_left']

/-- A good-bye is taken off the stream too. -/
theorem readFrame_closeFrame {rest : Bytes} (h : Delivers more s.arrivals (closeFrame ++ rest)) :
    ∃ arrivals, readFrame buffer s = ⟨.ok none, buffer, { s with arrivals := arrivals }⟩ ∧
      Delivers more arrivals rest := by
  obtain ⟨arrivals, hheader, hrest⟩ := fill_header_delivered h
  have zero : ofBigEndian (bigEndian 4 0) = 0 := rfl
  refine ⟨arrivals, ?_, hrest⟩
  simp only [readFrame, hheader, zero, readPayload, ↓reduceIte]

/-- The stream ends before a length is complete: that is in order only if nothing of it has come. -/
theorem readFrame_ended {bs : Bytes} (h : Delivers more s.arrivals bs)
    (ends : EndsAt more s.ending) (short : bs.length < 4) :
    (readFrame buffer s).result = if bs.isEmpty then .ok none else .error .closed := by
  obtain ⟨arrivals, hheader⟩ := fill_ended h ends short
  simp only [readFrame, hheader]

/-- The stream ends before a payload is complete. -/
theorem readFrame_ended_inside {length : Nat} {bs : Bytes}
    (h : Delivers more s.arrivals (bigEndian 4 length ++ bs)) (ends : EndsAt more s.ending)
    (short : bs.length < length) (fits : length ≤ maxFrameLength) :
    (readFrame buffer s).result = .error .closed := by
  obtain ⟨behind, hheader, h⟩ := fill_header_delivered h
  obtain ⟨arrivals, hpayload⟩ := fill_ended (s := { s with arrivals := behind }) h ends short
  have announced : ofBigEndian (bigEndian 4 length) = length := by
    rw [ofBigEndian_bigEndian]
    exact Nat.mod_eq_of_lt (Nat.lt_of_le_of_lt fits (by decide))
  simp only [readFrame, hheader, announced, readPayload]
  rw [if_neg (by omega), if_neg (by omega)]
  simp only [hpayload]

end Call

/-! ## One call after the other -/

/-- What a call gets after `n` others, each with the buffer and the stream that the one before it
leaves. -/
def readNth (buffer : ReceiveBuffer) (s : Source) : Nat → Received
  | 0 => readFrame buffer s
  | n + 1 => readNth (readFrame buffer s).buffer (readFrame buffer s).source n

/-- The payload in a frame is not a signal only for reasons that lie in the payload. -/
theorem Signal.isInFrame_of_decode {payload : Bytes} {e : SignalError}
    (h : decode payload = .error e) : e.isInFrame = true := by
  simp only [decode] at h
  split at h
  · cases h; rfl
  split at h
  · cases h; rfl
  split at h
  · cases h
  · cases h; rfl

section Frames

variable {more : List Arrival} {payloads frames : List Bytes}

theorem exists_frames (h : ∀ p ∈ payloads, p.length ≤ maxFrameLength) :
    ∃ frames : List Bytes, payloads.map frameBytes = frames.map .ok :=
  ⟨payloads.map fun p => bigEndian 4 p.length ++ p, by
    rw [List.map_map]
    exact List.map_congr_left fun p hp => frameBytes_ok (h p hp)⟩

/-- However the frames of some payloads are cut, each call gives what is in the next one and leaves
the others on the stream. -/
theorem readNth_delivered (within : ∀ p ∈ payloads, p ≠ [] ∧ p.length ≤ maxFrameLength)
    (framed : payloads.map frameBytes = frames.map .ok) (tail : Bytes) (buffer : ReceiveBuffer)
    (s : Source) (h : Delivers more s.arrivals (frames.flatten ++ tail)) :
    (∀ (i : Nat) (hi : i < payloads.length),
      (readNth buffer s i).result = (Signal.decode payloads[i]).map some ∧
        (readNth buffer s i).source.ending = s.ending ∧
        Delivers more (readNth buffer s i).source.arrivals
          ((frames.drop (i + 1)).flatten ++ tail)) ∧
      ∃ (buffer' : ReceiveBuffer) (s' : Source),
        readNth buffer s payloads.length = readFrame buffer' s' ∧ s'.ending = s.ending ∧
          Delivers more s'.arrivals tail := by
  induction payloads generalizing frames buffer s with
  | nil =>
    obtain rfl := List.map_eq_nil_iff.1 framed.symm
    exact ⟨fun i hi => absurd hi (Nat.not_lt_zero i), buffer, s, rfl, rfl, h⟩
  | cons p payloads ih =>
    obtain ⟨⟨hne, fits⟩, within⟩ := List.forall_mem_cons.1 within
    cases frames with
    | nil => cases framed
    | cons frame frames =>
      rw [List.map_cons, List.map_cons, frameBytes_ok fits] at framed
      obtain ⟨first, others⟩ := List.cons.inj framed
      obtain rfl := Except.ok.inj first
      rw [List.flatten_cons, List.append_assoc] at h
      obtain ⟨arrivals, hread, hrest⟩ := readFrame_delivered buffer hne fits h
      obtain ⟨later, last⟩ := ih within others (readFrame buffer s).buffer
        (readFrame buffer s).source (by rw [hread]; exact hrest)
      have same : (readFrame buffer s).source.ending = s.ending := by rw [hread]
      rw [same] at later last
      refine ⟨fun i hi => ?_, last⟩
      cases i with
      | zero => exact ⟨by rw [readNth, hread]; rfl, by rw [readNth, same], by
          rw [readNth, hread]; exact hrest⟩
      | succ i => exact later i (Nat.lt_of_succ_lt_succ hi)

end Frames

/-- Reading frames depends neither on the pieces in which they arrive nor on what has been read before.
Payloads that are neither empty nor too large have frames. Let these arrive in any chunks, with any
interruptions, and any bytes behind them; let the buffer hold anything. Then the calls give what is in
the payloads, in order, be it signals or errors of single frames, and each takes its frame off the stream
and nothing else. The next call takes a good-bye; it finds the end of a stream that ends there, and
gives an error if that is inside a length or inside a payload. -/
theorem frames_in_pieces {payloads : List Bytes}
    (within : ∀ p ∈ payloads, p ≠ [] ∧ p.length ≤ maxFrameLength) :
    ∃ frames : List Bytes, payloads.map frameBytes = frames.map .ok ∧
      ∀ (tail : Bytes) (more : List Arrival) (buffer : ReceiveBuffer) (s : Source),
        Delivers more s.arrivals (frames.flatten ++ tail) →
        (∀ (i : Nat) (hi : i < payloads.length),
          (readNth buffer s i).result = (Signal.decode payloads[i]).map some ∧
            (∀ e, (readNth buffer s i).result = .error e → e.isInFrame = true) ∧
            Delivers more (readNth buffer s i).source.arrivals
              ((frames.drop (i + 1)).flatten ++ tail)) ∧
        let next := readNth buffer s payloads.length
        (∀ rest, tail = closeFrame ++ rest →
          next.result = .ok none ∧ Delivers more next.source.arrivals rest) ∧
        (EndsAt more s.ending →
          (tail = [] → next.result = .ok none) ∧
          (tail ≠ [] → tail.length < 4 → next.result = .error .closed) ∧
          ∀ length bs, tail = bigEndian 4 length ++ bs → bs.length < length →
            length ≤ maxFrameLength → next.result = .error .closed) := by
  obtain ⟨frames, framed⟩ := exists_frames fun p hp => (within p hp).2
  refine ⟨frames, framed, fun tail more buffer s h => ?_⟩
  obtain ⟨reads, buffer', s', hnext, same, htail⟩ :=
    readNth_delivered within framed tail buffer s h
  refine ⟨fun i hi => ?_, ?_⟩
  · obtain ⟨result, -, left⟩ := reads i hi
    refine ⟨result, fun e he => ?_, left⟩
    rw [result] at he
    cases hd : Signal.decode payloads[i] with
    | ok signal => rw [hd] at he; cases he
    | error e' =>
      rw [hd] at he
      cases he
      exact Signal.isInFrame_of_decode hd
  intro next
  have hn : next = readFrame buffer' s' := hnext
  rw [hn]
  refine ⟨?_, fun ends => ?_⟩
  · rintro rest rfl
    obtain ⟨arrivals, hread, hrest⟩ := readFrame_closeFrame buffer' htail
    rw [hread]
    exact ⟨rfl, hrest⟩
  rw [← same] at ends
  refine ⟨?_, fun hne short => ?_, ?_⟩
  · rintro rfl
    exact readFrame_ended buffer' htail ends (by decide)
  · rw [readFrame_ended buffer' htail ends short, if_neg (by simpa using hne)]
  · rintro length bs rfl short fits
    exact readFrame_ended_inside buffer' htail ends short fits

/-- A payload of no known kind and a request to print, cut into three chunks that are not the frames,
with two interruptions, and a buffer that still holds the bytes of a longer frame; then the stream
ends inside a length. -/
theorem frames_in_pieces_of_two :
    let payloads : List Bytes := [[0xFF, 0xFF], [0, 33]]
    let buffer : ReceiveBuffer := [0, 33, 7, 7, 7, 7]
    let s : Source :=
      ⟨[.bytes [0, 0, 0], .fault .interrupted, .bytes [2, 0xFF, 0xFF, 0, 0, 0, 2],
        .fault .interrupted, .bytes [0, 33, 0, 0]], none⟩
    (∀ p ∈ payloads, p ≠ [] ∧ p.length ≤ maxFrameLength) ∧
      (readNth buffer s 0).result = .error (.unknownSignal 0xFFFF) ∧
      (readNth buffer s 1).result = .ok (some .printSvarDb) ∧
      (readNth buffer s 2).result = .error .closed := by
  intro payloads buffer s
  have within : ∀ p ∈ payloads, p ≠ [] ∧ p.length ≤ maxFrameLength := by decide
  obtain ⟨frames, framed, h⟩ := frames_in_pieces within
  have hframes : frames = [[0, 0, 0, 2, 0xFF, 0xFF], [0, 0, 0, 2, 0, 33]] := by
    have whole : payloads.map frameBytes =
        [[0, 0, 0, 2, 0xFF, 0xFF], [0, 0, 0, 2, 0, 33]].map .ok := rfl
    exact (List.map_inj_right fun _ _ => Except.ok.inj).1 (framed.symm.trans whole)
  subst hframes
  have delivered : Delivers [] s.arrivals
      ([[0, 0, 0, 2, 0xFF, 0xFF], [0, 0, 0, 2, 0, 33]].flatten ++ [0, 0]) :=
    .chunk [0, 0, 0] (by decide) <| .interrupted <| .chunk [2, 0xFF, 0xFF, 0, 0, 0, 2] (by decide) <|
      .interrupted <| .chunk [0, 33, 0, 0] (by decide) .nothing
  obtain ⟨reads, -, ended⟩ := h [0, 0] [] buffer s delivered
  refine ⟨within, ?_, ?_, (ended (.inl ⟨rfl, rfl⟩)).2.1 (by decide) (by decide)⟩
  · exact (reads 0 (by decide)).1.trans (by cbv)
  · exact (reads 1 (by decide)).1.trans (by cbv)

end SharedVariables
