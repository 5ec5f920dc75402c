import SharedVariables.Stream.Frame

/-!
# What a reader takes off a stream

Of any stream, whatever comes on it and in whatever pieces, a reader takes bytes off the front
(`Source.fillFrom_takes`) and, whether it succeeds or not, no more than one frame
(`readFrame_takes`). A signal that it gives has been read from all of that frame.
-/

namespace SharedVariables

open Wire

/-- The bytes that come. -/
def Arrival.content : Arrival → Bytes
  | .bytes bs => bs
  | .fault _ => []

/-- An attempt to get `needed` bytes more than `got` has come to this, with `taken`. -/
def Filled.Takes (needed : Nat) (got taken : Bytes) : Filled → Prop
  | .complete bs => bs = got ++ taken ∧ taken.length = needed
  | .ended bs => bs = got ++ taken ∧ taken.length ≤ needed
  | .failed bs _ => bs = got ++ taken ∧ taken.length ≤ needed

/-- What was got before belongs to what is got. -/
theorem Filled.Takes.behind {needed : Nat} {got bs taken : Bytes} {filled : Filled}
    (h : Filled.Takes needed (got ++ bs) taken filled) :
    Filled.Takes (bs.length + needed) got (bs ++ taken) filled := by
  cases filled with
  | complete all =>
    obtain ⟨hall, hlen⟩ := h
    exact ⟨by rw [hall, List.append_assoc], by rw [List.length_append, hlen]⟩
  | ended all =>
    obtain ⟨hall, hlen⟩ := h
    refine ⟨by rw [hall, List.append_assoc], ?_⟩
    rw [List.length_append]
    omega
  | failed all f =>
    obtain ⟨hall, hlen⟩ := h
    refine ⟨by rw [hall, List.append_assoc], ?_⟩
    rw [List.length_append]
    omega

namespace Source

/-- All the bytes that are on their way. -/
def content (s : Source) : Bytes := s.arrivals.flatMap Arrival.content

/-- What has been got is taken off the front, and no more than was needed. -/
theorem fillFrom_takes (retried : Fault → Bool) (ending : Option Fault) (needed : Nat) (got : Bytes)
    (arrivals : List Arrival) :
    ∃ taken, arrivals.flatMap Arrival.content =
        taken ++ (fillFrom retried ending needed got arrivals).2.flatMap Arrival.content ∧
      Filled.Takes needed got.reverse taken (fillFrom retried ending needed got arrivals).1 := by
  induction arrivals generalizing needed got with
  | nil =>
    cases ending with
    | none => exact ⟨[], rfl, by simp [fillFrom, Filled.Takes]⟩
    | some f => exact ⟨[], rfl, by simp [fillFrom, Filled.Takes]⟩
  | cons arrival arrivals ih =>
    cases arrival with
    | fault f =>
      rw [fillFrom]
      split
      · exact ih needed got
      · exact ⟨[], rfl, by simp [Filled.Takes]⟩
    | bytes bs =>
      rw [fillFrom]
      split
      · rename_i none
        rw [List.isEmpty_iff.1 none]
        exact ⟨[], rfl, by simp [Filled.Takes]⟩
      rw [List.splitAt_eq]
      dsimp only
      split
      · rename_i short
        have within : bs.length < needed := by
          rw [List.length_take] at short
          omega
        rw [List.take_of_length_le (Nat.le_of_lt within)]
        obtain ⟨taken, bytes, takes⟩ := ih (needed - bs.length) (bs.reverse ++ got)
        refine ⟨bs ++ taken, ?_, ?_⟩
        · rw [List.flatMap_cons, bytes, List.append_assoc]
          rfl
        · rw [List.reverse_append, List.reverse_reverse] at takes
          have all : needed = bs.length + (needed - bs.length) := by omega
          rw [all, Nat.add_sub_cancel_left]
          exact takes.behind
      · rename_i enough
        refine ⟨bs.take needed, ?_, ?_⟩
        · have cut : bs = bs.take needed ++ bs.drop needed := (List.take_append_drop needed bs).symm
          split
          · rename_i none
            rw [List.isEmpty_iff.1 none, List.append_nil] at cut
            rw [← cut]
            rfl
          · rw [List.flatMap_cons, List.flatMap_cons, ← List.append_assoc]
            exact congrArg (· ++ _) cut
        · refine ⟨by rw [List.reverse_append, List.reverse_reverse], ?_⟩
          rw [List.length_take] at enough ⊢
          omega

theorem fill_takes (retried : Fault → Bool) (n : Nat) (s : Source) :
    ∃ taken, s.content = taken ++ (s.fill retried n).2.content ∧
      Filled.Takes n [] taken (s.fill retried n).1 :=
  fillFrom_takes retried s.ending n [] s.arrivals

end Source

/-- A reader has taken bytes off a stream, no more than a frame has: the length in four bytes and that
many bytes behind it. If it gives a signal, it has taken just a frame with the signal in it. -/
structure Received.TakesOneFrame (s : Source) (received : Received) (taken : Bytes) : Prop where
  content : s.content = taken ++ received.source.content
  within : taken.length ≤ 4 + ofBigEndian (taken.take 4)
  signal : ∀ signal, received.result = .ok (some signal) → ∃ header payload,
    taken = header ++ payload ∧ header.length = 4 ∧ payload.length = ofBigEndian header ∧
      Signal.decode payload = .ok signal

theorem ReceiveBuffer.take_overwrite (buffer : ReceiveBuffer) (bs : Bytes) :
    (buffer.overwrite bs).take bs.length = bs := List.take_left' rfl

/-- Behind a length, at most as many bytes are taken. -/
theorem readPayload_takes (retried ends : Fault → Bool) (buffer : ReceiveBuffer) (length : Nat)
    (s : Source) :
    let received := readPayload retried ends buffer length s
    ∃ payload, s.content = payload ++ received.source.content ∧ payload.length ≤ length ∧
      ∀ signal, received.result = .ok (some signal) →
        payload.length = length ∧ Signal.decode payload = .ok signal := by
  intro received
  have nothing (h : received.source = s) (hr : ∀ signal, received.result ≠ .ok (some signal)) :
      ∃ payload, s.content = payload ++ received.source.content ∧ payload.length ≤ length ∧
        ∀ signal, received.result = .ok (some signal) →
          payload.length = length ∧ Signal.decode payload = .ok signal :=
    ⟨[], by rw [h]; rfl, Nat.zero_le _, fun signal h => absurd h (hr signal)⟩
  by_cases empty : length = 0
  · have : received = ⟨.ok none, buffer, s⟩ := if_pos empty
    exact nothing (by rw [this]) (by simp [this])
  by_cases large : maxFrameLength < length
  · have : received = ⟨.error (.frameTooLarge length), buffer, s⟩ :=
      (if_neg empty).trans (if_pos large)
    exact nothing (by rw [this]) (by simp [this])
  obtain ⟨taken, content, takes⟩ := s.fill_takes retried length
  have read : received = readPayload retried ends buffer length s := rfl
  rw [readPayload, if_neg empty, if_neg large] at read
  generalize s.fill retried length = filled at content takes read
  obtain ⟨filled, rest⟩ := filled
  cases filled with
  | complete bs =>
    obtain ⟨hbs, hlen⟩ := takes
    rw [List.nil_append] at hbs
    subst hbs
    rw [read]
    refine ⟨bs, content, Nat.le_of_eq hlen, fun signal hs => ⟨hlen, ?_⟩⟩
    simp only [Received.ofBuffer, ← hlen, ReceiveBuffer.take_overwrite] at hs
    cases hd : Signal.decode bs with
    | error e =>
      rw [hd] at hs
      cases hs
    | ok signal' =>
      rw [hd] at hs
      cases hs
      rfl
  | ended bs =>
    rw [read]
    exact ⟨taken, content, takes.2, fun signal hs => by cases hs⟩
  | failed bs f =>
    rw [read]
    exact ⟨taken, content, takes.2, fun signal hs => by cases hs⟩

/-- A call takes no more than one frame. -/
theorem readFrame_takes (buffer : ReceiveBuffer) (s : Source) :
    ∃ taken, (readFrame buffer s).TakesOneFrame s taken := by
  obtain ⟨header, content, takes⟩ := s.fill_takes (fun f => f = .interrupted) 4
  rw [readFrame]
  generalize s.fill (fun f => f = .interrupted) 4 = filled at content takes ⊢
  obtain ⟨filled, rest⟩ := filled
  cases filled with
  | complete bs =>
    obtain ⟨hbs, hlen⟩ := takes
    rw [List.nil_append] at hbs
    subst hbs
    obtain ⟨payload, behind, within, signal⟩ := readPayload_takes (fun f => decide (f = .interrupted))
      (fun _ => false) buffer (ofBigEndian bs) rest
    have front : (bs ++ payload).take 4 = bs := hlen ▸ List.take_left' rfl
    refine ⟨bs ++ payload, ?_, ?_, fun signal' hs => ?_⟩
    · rw [content, List.append_assoc]
      exact congrArg (bs ++ ·) behind
    · rw [front, List.length_append, hlen]
      exact Nat.add_le_add_left within 4
    · obtain ⟨all, decoded⟩ := signal signal' hs
      exact ⟨bs, payload, rfl, hlen, all, decoded⟩
  | ended bs =>
    refine ⟨header, content, Nat.le_trans takes.2 (Nat.le_add_right ..), fun signal hs => ?_⟩
    dsimp only at hs
    split at hs <;> cases hs
  | failed bs f =>
    refine ⟨header, content, Nat.le_trans takes.2 (Nat.le_add_right ..), fun signal hs => ?_⟩
    cases hs

end SharedVariables
