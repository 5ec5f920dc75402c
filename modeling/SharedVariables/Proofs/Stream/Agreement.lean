import SharedVariables.Proofs.Stream.Taking

/-!
# The two readers of a stream

The reader that retries interrupted reads and the server's reader get the same from the same stream,
however its bytes are cut into chunks for each of them, whatever their buffers hold, and wherever the
stream is malformed, ends or fails. What a stream brings (`Source.items`) are single bytes, failing reads
and ends, and the attempt to read so many bytes depends on these alone (`fillFrom_items`), so that both
readers fill alike (`fill_alike`) and then read a payload alike (`readPayload_alike`). They part only on a
stream that ends inside a length, and go on behind it from the same place. `readers_agree` carries this
over to any number of calls.
-/

namespace SharedVariables

open Wire

/-- What comes next on a stream, whichever chunk it comes in. -/
inductive StreamItem where
  | byte (b : UInt8)
  /-- A read that fails. -/
  | fault (f : Fault)
  /-- A read that gets no byte: the stream ends here. -/
  | stop
deriving DecidableEq, Repr

/-- What an arrival brings. -/
def Arrival.items : Arrival → List StreamItem
  | .bytes bs => if bs.isEmpty then [.stop] else bs.map .byte
  | .fault f => [.fault f]

/-- Reads `needed` more bytes after those in `got` (last first), item by item. -/
def fillItems (ending : Option Fault) : Nat → Bytes → List StreamItem → Filled × List StreamItem
  | 0, got, items => (.complete got.reverse, items)
  | _ + 1, got, [] =>
    match ending with
    | none => (.ended got.reverse, [])
    | some f => (.failed got.reverse f, [])
  | needed + 1, got, .byte b :: items => fillItems ending needed (b :: got) items
  | _ + 1, got, .fault f :: items => (.failed got.reverse f, items)
  | _ + 1, got, .stop :: items => (.ended got.reverse, items)

/-- Bytes that come together are read one after the other. -/
theorem fillItems_bytes (ending : Option Fault) (bs : Bytes) (needed : Nat) (got : Bytes) (items : List StreamItem) :
    fillItems ending (bs.length + needed) got (bs.map .byte ++ items) =
      fillItems ending needed (bs.reverse ++ got) items := by
  induction bs generalizing got with
  | nil => rw [List.length_nil, Nat.zero_add]; rfl
  | cons b bs ih =>
    rw [List.length_cons, Nat.add_right_comm, List.map_cons, List.cons_append, fillItems, ih,
      List.reverse_cons, List.append_assoc, List.singleton_append]

/-- What is left is the end of what was there. -/
theorem fillItems_suffix (ending : Option Fault) (needed : Nat) (got : Bytes) (items : List StreamItem) :
    (fillItems ending needed got items).2 <:+ items := by
  fun_induction fillItems ending needed got items with
  | case1 got items => exact List.suffix_rfl
  | case2 => exact List.suffix_rfl
  | case3 => exact List.suffix_rfl
  | case4 needed got b items ih => exact ih.trans (List.suffix_cons _ items)
  | case5 needed got f items => exact List.suffix_cons _ items
  | case6 needed got items => exact List.suffix_cons _ items

/-- An attempt that fails has met the failure. -/
theorem fault_of_fillItems {ending : Option Fault} (needed : Nat) (got : Bytes)
    (items : List StreamItem) {bs : Bytes} {f : Fault} (h : (fillItems ending needed got items).1 = .failed bs f) :
    .fault f ∈ items ∨ ending = some f := by
  fun_induction fillItems ending needed got items with
  | case1 got items => cases h
  | case2 => cases h
  | case3 n got f' hf => cases h; exact .inr hf
  | case4 needed got b items ih => exact (ih h).imp_left (List.mem_cons_of_mem _)
  | case5 needed got f items => cases h; exact .inl List.mem_cons_self
  | case6 needed got items => cases h

/-- Whether a stream ends after just these bytes: nothing more comes and reads do not fail, or the next
read gets no byte. -/
def EndsAfter (ending : Option Fault) (bs : Bytes) (items : List StreamItem) : Prop :=
  ∃ more, items = bs.map .byte ++ more ∧
    (more = [] ∧ ending = none ∨ ∃ later, more = .stop :: later)

/-- An attempt finds the end of a stream just if the stream ends after too few bytes. -/
theorem fillItems_ended_iff (ending : Option Fault) (needed : Nat) (got : Bytes)
    (items : List StreamItem) (all : Bytes) :
    (fillItems ending needed got items).1 = .ended all ↔
      ∃ bs, EndsAfter ending bs items ∧ bs.length < needed ∧ all = got.reverse ++ bs := by
  constructor
  · intro h
    fun_induction fillItems ending needed got items with
    | case1 got items => cases h
    | case2 needed got hnone =>
      cases h
      exact ⟨[], ⟨[], rfl, .inl ⟨rfl, hnone⟩⟩, Nat.succ_pos _, (List.append_nil _).symm⟩
    | case3 needed got f hf => cases h
    | case4 needed got b items ih =>
      obtain ⟨bs, ⟨more, hitems, ends⟩, short, hall⟩ := ih h
      refine ⟨b :: bs, ⟨more, by rw [hitems]; rfl, ends⟩, Nat.succ_lt_succ short, ?_⟩
      rw [hall, List.reverse_cons, List.append_assoc, List.singleton_append]
    | case5 needed got f items => cases h
    | case6 needed got items =>
      cases h
      exact ⟨[], ⟨_, rfl, .inr ⟨items, rfl⟩⟩, Nat.succ_pos _, (List.append_nil _).symm⟩
  · rintro ⟨bs, ⟨more, rfl, ends⟩, short, rfl⟩
    obtain ⟨missing, rfl⟩ := Nat.exists_eq_add_of_lt short
    rw [Nat.add_assoc, fillItems_bytes]
    rcases ends with ⟨rfl, rfl⟩ | ⟨later, rfl⟩ <;>
      simp only [fillItems, List.reverse_append, List.reverse_reverse]

/-- Whether an attempt has got some bytes and then found the end of the stream. -/
def Filled.isCut : Filled → Bool
  | .ended bs => !bs.isEmpty
  | _ => false

namespace Source

/-- All that a stream brings, in order. -/
def items (s : Source) : List StreamItem := s.arrivals.flatMap Arrival.items

/-- Two streams that bring the same, whichever chunks it comes in. -/
structure SameStream (s s' : Source) : Prop where
  items : s'.items = s.items
  ending : s'.ending = s.ending

/-- Whether no read is interrupted and none fails as if the stream had ended. -/
def Steady (s : Source) : Prop :=
  ∀ f, (.fault f ∈ s.items ∨ s.ending = some f) → f ≠ .interrupted ∧ f ≠ .unexpectedEof

/-- Whether a stream ends inside the four bytes of a length. -/
def EndsInHeader (s : Source) : Prop :=
  ∃ bs, EndsAfter s.ending bs s.items ∧ 0 < bs.length ∧ bs.length < 4

/-- A stream ends inside a length just if the attempt to read the length gets some bytes and then finds
the end. -/
theorem endsInHeader_iff (s : Source) :
    s.EndsInHeader ↔ (fillItems s.ending 4 [] s.items).1.isCut = true := by
  have ended := fillItems_ended_iff s.ending 4 [] s.items
  constructor
  · rintro ⟨bs, ends, some, short⟩
    rw [(ended bs).2 ⟨bs, ends, short, rfl⟩, Filled.isCut, List.isEmpty_eq_false_iff.2
      (List.length_pos_iff.1 some), Bool.not_false]
  · intro h
    cases hfilled : (fillItems s.ending 4 [] s.items).1 with
    | complete bs => rw [hfilled] at h; cases h
    | failed bs f => rw [hfilled] at h; cases h
    | ended bs =>
      rw [hfilled] at h
      obtain ⟨_, ends, short, rfl⟩ := (ended bs).1 hfilled
      cases bs with
      | nil => cases h
      | cons b bs => exact ⟨_, ends, Nat.succ_pos _, short⟩

instance (s : Source) : Decidable s.EndsInHeader := decidable_of_iff _ s.endsInHeader_iff.symm

/-- An attempt to read so many bytes depends on the items alone, if no failure is retried. -/
theorem fillFrom_items (retried : Fault → Bool) (ending : Option Fault) (arrivals : List Arrival)
    (fails : ∀ f, .fault f ∈ arrivals.flatMap Arrival.items → retried f = false) (needed : Nat)
    (pos : 0 < needed) (got : Bytes) :
    fillItems ending needed got (arrivals.flatMap Arrival.items) =
      ((fillFrom retried ending needed got arrivals).1,
        (fillFrom retried ending needed got arrivals).2.flatMap Arrival.items) := by
  induction arrivals generalizing needed got with
  | nil =>
    obtain ⟨missing, rfl⟩ := Nat.exists_eq_succ_of_ne_zero (Nat.ne_of_gt pos)
    cases ending <;> rfl
  | cons arrival arrivals ih =>
    rw [List.flatMap_cons] at fails ⊢
    cases arrival with
    | fault f =>
      obtain ⟨missing, rfl⟩ := Nat.exists_eq_succ_of_ne_zero (Nat.ne_of_gt pos)
      have final : retried f = false := fails f List.mem_cons_self
      rw [fillFrom, if_neg (by rw [final]; exact Bool.false_ne_true)]
      rfl
    | bytes bs =>
      have later : ∀ f, .fault f ∈ arrivals.flatMap Arrival.items → retried f = false :=
        fun f hf => fails f (List.mem_append_right _ hf)
      rw [fillFrom]
      split
      · rename_i none
        obtain ⟨missing, rfl⟩ := Nat.exists_eq_succ_of_ne_zero (Nat.ne_of_gt pos)
        rw [Arrival.items, if_pos none]
        rfl
      · rename_i some
        rw [Arrival.items, if_neg some, List.splitAt_eq]
        dsimp only
        split
        · rename_i short
          have within : bs.length < needed := by
            rw [List.length_take] at short
            omega
          rw [List.take_of_length_le (Nat.le_of_lt within)]
          have all : needed = bs.length + (needed - bs.length) := by omega
          rw [← ih later (needed - bs.length) (by omega) (bs.reverse ++ got), ← fillItems_bytes, ← all]
        · rename_i enough
          have taken : (bs.take needed).length = needed := by
            rw [List.length_take] at enough ⊢
            omega
          have cut : bs.map StreamItem.byte =
              (bs.take needed).map .byte ++ (bs.drop needed).map .byte := by
            rw [← List.map_append, List.take_append_drop]
          have read := fillItems_bytes ending (bs.take needed) 0 got
            ((bs.drop needed).map .byte ++ arrivals.flatMap Arrival.items)
          rw [taken, Nat.add_zero, ← List.append_assoc, ← cut] at read
          rw [read, fillItems]
          split
          · rename_i none
            rw [List.isEmpty_iff.1 none]
            rfl
          · rename_i left
            rw [List.flatMap_cons, Arrival.items, if_neg left]

variable {s s' : Source}

theorem Steady.retried (steady : s.Steady) (f : Fault) (h : .fault f ∈ s.items) :
    decide (f = .interrupted) = false :=
  decide_eq_false (steady f (.inl h)).1

/-- What comes behind is as steady. -/
theorem Steady.behind (steady : s.Steady) (ending : s'.ending = s.ending)
    (behind : s'.items <:+ s.items) : s'.Steady := by
  intro f h
  rw [ending] at h
  exact steady f (h.imp_left fun hf => behind.subset hf)

/-- Both readers get the same bytes, and the same is left of the stream for them. -/
theorem fill_alike (same : s.SameStream s') (steady : s.Steady) {n : Nat} (pos : 0 < n) :
    let filled := s.fill (fun f => f = .interrupted) n
    let filled' := s'.fill (fun _ => false) n
    filled'.1 = filled.1 ∧ filled.2.SameStream filled'.2 ∧ filled.2.Steady ∧
      fillItems s.ending n [] s.items = (filled.1, filled.2.items) := by
  intro filled filled'
  have read : fillItems s.ending n [] s.items = (filled.1, filled.2.items) :=
    fillFrom_items _ s.ending s.arrivals steady.retried n pos []
  have read' : fillItems s'.ending n [] s'.items = (filled'.1, filled'.2.items) :=
    fillFrom_items _ s'.ending s'.arrivals (fun _ _ => rfl) n pos []
  rw [same.items, same.ending, read] at read'
  obtain ⟨first, second⟩ := Prod.mk.inj read'
  refine ⟨first.symm, ⟨second.symm, same.ending⟩, steady.behind rfl ?_, read⟩
  have suffix := fillItems_suffix s.ending n [] s.items
  rwa [read] at suffix

end Source

/-! ## One call -/

section Call

variable {s s' : Source} (same : s.SameStream s') (steady : s.Steady) (buffer buffer' : ReceiveBuffer)

include same steady

/-- The two readers read a payload alike. Their buffers differ, but not in what has been read. -/
theorem readPayload_alike (length : Nat) :
    let read := readPayload (fun f => f = .interrupted) (fun _ => false) buffer length s
    let read' := readPayload (fun _ => false) (fun f => f = .unexpectedEof) buffer' length s'
    read'.result = read.result ∧ read.source.SameStream read'.source ∧ read.source.Steady := by
  rw [readPayload, readPayload]
  by_cases empty : length = 0
  · rw [if_pos empty, if_pos empty]
    exact ⟨rfl, same, steady⟩
  rw [if_neg empty, if_neg empty]
  by_cases large : maxFrameLength < length
  · rw [if_pos large, if_pos large]
    exact ⟨rfl, same, steady⟩
  rw [if_neg large, if_neg large]
  obtain ⟨alike, same', steady', items⟩ := Source.fill_alike same steady (Nat.pos_of_ne_zero empty)
  obtain ⟨taken, -, takes⟩ := s.fill_takes (fun f => f = .interrupted) length
  generalize s.fill (fun f => f = .interrupted) length = filled at *
  generalize s'.fill (fun _ => false) length = filled' at *
  obtain ⟨filled, rest⟩ := filled
  obtain ⟨filled', rest'⟩ := filled'
  obtain rfl : filled' = filled := alike
  cases filled' with
  | complete bs =>
    obtain ⟨rfl, hlength⟩ := takes
    refine ⟨?_, same', steady'⟩
    simp only [Received.ofBuffer, ← hlength, ReceiveBuffer.take_overwrite]
  | ended bs => exact ⟨rfl, same', steady'⟩
  | failed bs f =>
    have met := fault_of_fillItems length [] s.items (congrArg Prod.fst items)
    refine ⟨?_, same', steady'⟩
    simp only [(steady f met).2, decide_false, Bool.false_eq_true, ↓reduceIte]

/-- The two readers get the same, but for a stream that ends inside a length, and they leave the same. -/
theorem readFrame_alike :
    let read := readFrame buffer s
    let read' := readFrameServer buffer' s'
    (¬s.EndsInHeader → read'.result = read.result) ∧
      (s.EndsInHeader → read.result = .error .closed ∧ read'.result = .ok none) ∧
      read.source.SameStream read'.source ∧ read.source.Steady := by
  rw [readFrame, readFrameServer]
  obtain ⟨alike, same', steady', items⟩ := Source.fill_alike same steady (n := 4) (by decide)
  have cut := s.endsInHeader_iff
  generalize s.fill (fun f => f = .interrupted) 4 = filled at *
  generalize s'.fill (fun _ => false) 4 = filled' at *
  obtain ⟨filled, rest⟩ := filled
  obtain ⟨filled', rest'⟩ := filled'
  obtain rfl : filled' = filled := alike
  rw [items] at cut
  cases filled' with
  | complete header =>
    have whole : ¬s.EndsInHeader := fun h => absurd (cut.1 h) Bool.false_ne_true
    obtain ⟨result, source, later⟩ := readPayload_alike same' steady' buffer buffer' (ofBigEndian header)
    exact ⟨fun _ => result, fun h => absurd h whole, source, later⟩
  | ended bs =>
    cases bs with
    | nil =>
      have whole : ¬s.EndsInHeader := fun h => absurd (cut.1 h) Bool.false_ne_true
      exact ⟨fun _ => rfl, fun h => absurd h whole, same', steady'⟩
    | cons b bs => exact ⟨fun h => absurd (cut.2 rfl) h, fun _ => ⟨rfl, rfl⟩, same', steady'⟩
  | failed bs f =>
    have met := fault_of_fillItems 4 [] s.items (congrArg Prod.fst items)
    have whole : ¬s.EndsInHeader := fun h => absurd (cut.1 h) Bool.false_ne_true
    refine ⟨fun _ => ?_, fun h => absurd h whole, same', steady'⟩
    simp only [(steady f met).2, decide_false, Bool.false_eq_true, ↓reduceIte]

end Call

/-! ## One call after the other -/

/-- The buffer and the stream after so many calls of a reader, whatever they got. -/
def afterReads (read : ReceiveBuffer → Source → Received) :
    Nat → ReceiveBuffer × Source → ReceiveBuffer × Source
  | 0, state => state
  | n + 1, state =>
    afterReads read n ((read state.1 state.2).buffer, (read state.1 state.2).source)

/-- The two readers agree. However a stream is cut into chunks for each of them, after any number of calls
they are at the same place of it, and the next call gets the same signal, the same end or the same error
for both, unless the stream ends inside a length there: then it is closed for one of them, and just at its
end for the other. -/
theorem readers_agree {s s' : Source} (same : s.SameStream s') (steady : s.Steady)
    (buffer buffer' : ReceiveBuffer) (n : Nat) :
    let client := afterReads readFrame n (buffer, s)
    let server := afterReads readFrameServer n (buffer', s')
    let got := readFrame client.1 client.2
    let got' := readFrameServer server.1 server.2
    client.2.SameStream server.2 ∧
      (¬client.2.EndsInHeader → got'.result = got.result) ∧
      (client.2.EndsInHeader → got.result = .error .closed ∧ got'.result = .ok none) ∧
      got.source.SameStream got'.source := by
  induction n generalizing buffer buffer' s s' with
  | zero =>
    obtain ⟨agree, part, behind, -⟩ := readFrame_alike same steady buffer buffer'
    exact ⟨same, agree, part, behind⟩
  | succ n ih =>
    obtain ⟨-, -, behind, steady'⟩ := readFrame_alike same steady buffer buffer'
    exact ih behind steady' _ _

/-- A payload of no known kind and a signal, and then a stream that is reset inside a payload and ends
inside a length, in other chunks for the one reader than for the other. -/
theorem readers_agree_of_reset :
    let s : Source :=
      ⟨[.bytes [0, 0, 0, 2, 0xFF, 0xFF, 0, 0], .bytes [0, 2, 0, 33, 0, 0, 0, 9, 1],
        .fault .connectionReset, .bytes [0, 0]], none⟩
    let s' : Source :=
      ⟨[.bytes [0, 0, 0], .bytes [2, 0xFF, 0xFF, 0, 0, 0, 2, 0, 33, 0, 0, 0, 9, 1],
        .fault .connectionReset, .bytes [0], .bytes [0]], none⟩
    s.SameStream s' ∧ s.Steady ∧
      let client (n : Nat) := afterReads readFrame n ([], s)
      let server (n : Nat) := afterReads readFrameServer n ([1, 2, 3], s')
      (readFrameServer (server 0).1 (server 0).2).result = .error (.unknownSignal 0xFFFF) ∧
      (readFrameServer (server 1).1 (server 1).2).result = .ok (some .printSvarDb) ∧
      (readFrameServer (server 2).1 (server 2).2).result = .error (.io .connectionReset) ∧
      (readFrame (client 3).1 (client 3).2).result = .error .closed ∧
      (readFrameServer (server 3).1 (server 3).2).result = .ok none := by
  intro s s'
  have same : s.SameStream s' := ⟨by decide, rfl⟩
  have steady : s.Steady := by
    intro f
    cases f <;> decide
  have agree (n : Nat) := readers_agree same steady [] [1, 2, 3] n
  have first : (readFrame [] s).result = .error (.unknownSignal 0xFFFF) := by cbv
  have second : (readFrame (readFrame [] s).buffer (readFrame [] s).source).result =
      .ok (some .printSvarDb) := by cbv
  refine ⟨same, steady, ?_, ?_, ?_, (agree 3).2.2.1 (by decide +kernel)⟩
  · exact ((agree 0).2.1 (by decide +kernel)).trans first
  · exact ((agree 1).2.1 (by decide +kernel)).trans second
  · exact ((agree 2).2.1 (by decide +kernel)).trans rfl

end SharedVariables
