import Mathlib.Data.List.ReduceOption
import SharedVariables.Local.Listener
import SharedVariables.Proofs.Wire.Exact

/-!
# Notifications as datagrams

Fourteen bytes are a tag, a key and an event field, whatever they are (`Notice.exists_fieldBytes`), and so
a datagram is a notification just if it has that length and a tag that is known. A listener does not see
where a long datagram ends, but sees that it is too long (`Listener.read?_eq`). Its calls share out the
notifications among the datagrams that arrive: none is lost, returned twice or overtaken
(`Listener.Listens.shared_out`).
-/

namespace SharedVariables

open Wire

namespace NoticeKind

theorem ofTag?_tag (k : NoticeKind) : ofTag? k.tag k.event = some k := by cases k <;> rfl

/-- Only a new event carries what the event field says. -/
theorem fields_of_ofTag? {tag : UInt16} {event : Event} {k : NoticeKind} (h : ofTag? tag event = some k) :
    k.tag = tag ∧ k.event = if tag.toNat = 3 then event else .none := by
  rw [ofTag?] at h
  split at h <;> cases h <;> simp [NoticeKind.tag, NoticeKind.event, ← UInt16.toNat_inj, *]

theorem exists_ofTag?_iff (tag : UInt16) (event : Event) :
    (∃ k, ofTag? tag event = some k) ↔ tag.toNat ≤ 4 := by
  constructor
  · rintro ⟨k, h⟩
    rw [← (fields_of_ofTag? h).1]
    cases k <;> simp [NoticeKind.tag]
  · intro small
    have known : tag.toNat = 0 ∨ tag.toNat = 1 ∨ tag.toNat = 2 ∨ tag.toNat = 3 ∨ tag.toNat = 4 := by
      omega
    rcases known with h | h | h | h | h <;> simp only [ofTag?, h] <;> exact ⟨_, rfl⟩

end NoticeKind

namespace Notice

/-- The bytes of a tag, a key and an event field. -/
def fieldBytes (tag : UInt16) (key : Key) (event : Event) : Bytes :=
  bigEndian 2 tag.toNat ++ bigEndian 8 key.raw.toNat ++ bigEndian 4 event.bits.toNat

variable {tag : UInt16} {key : Key} {event : Event} {port : UInt16} {bs : Bytes} {n : Notice}

theorem length_fieldBytes (tag : UInt16) (key : Key) (event : Event) :
    (fieldBytes tag key event).length = size := by
  simp only [fieldBytes, List.length_append, length_bigEndian, size]

theorem reads_fields (tag : UInt16) (key : Key) (event : Event) :
    Reader.Reads readFields (fieldBytes tag key event) (tag, key, event) := by
  have last := (Reader.Reads.unsigned (k := 4) event.bits.toNat_lt).map fun e =>
    (UInt16.ofNat tag.toNat, Key.mk (.ofNat key.raw.toNat), Event.mk (.ofNat e))
  rw [UInt16.ofNat_toNat, UInt64.ofNat_toNat, UInt32.ofNat_toNat] at last
  rw [fieldBytes, List.append_assoc]
  refine (Reader.Reads.unsigned tag.toNat_lt).bind ((Reader.Reads.unsigned key.raw.toNat_lt).bind ?_)
  rwa [UInt16.ofNat_toNat, UInt64.ofNat_toNat]

/-- What is a notification is decided by the tag. -/
theorem decode_fieldBytes (port : UInt16) (tag : UInt16) (key : Key) (event : Event) :
    decode port (fieldBytes tag key event) =
      match NoticeKind.ofTag? tag event with
      | some kind => .ok ⟨port, kind, key⟩
      | none => .error (.unknownTag tag) := by
  have read := (reads_fields tag key event).result_eq []
  rw [List.append_nil] at read
  rw [decode, if_neg (not_not_intro (length_fieldBytes tag key event)), read]
  rfl

theorem exists_append {k m : Nat} (h : bs.length = k + m) :
    ∃ front rest : Bytes, front.length = k ∧ rest.length = m ∧ bs = front ++ rest :=
  ⟨bs.take k, bs.drop k, by rw [List.length_take]; omega, by rw [List.length_drop]; omega,
    (List.take_append_drop k bs).symm⟩

theorem exists_bigEndian {k : Nat} (h : bs.length = k) : ∃ n < Nat.pow 256 k, bs = bigEndian k n := by
  subst h
  exact ⟨ofBigEndian bs, ofBigEndian_lt bs, (bigEndian_ofBigEndian bs).symm⟩

/-- Any bytes of that length are a tag, a key and an event field. -/
theorem exists_fieldBytes (h : bs.length = size) : ∃ tag key event, bs = fieldBytes tag key event := by
  obtain ⟨front, rest, hfront, hrest, rfl⟩ := exists_append (k := 2) (m := 12) h
  obtain ⟨middle, back, hmiddle, hback, rfl⟩ := exists_append (k := 8) (m := 4) hrest
  obtain ⟨tag, htag, rfl⟩ := exists_bigEndian hfront
  obtain ⟨key, hkey, rfl⟩ := exists_bigEndian hmiddle
  obtain ⟨event, hevent, rfl⟩ := exists_bigEndian hback
  refine ⟨.ofNat tag, ⟨.ofNat key⟩, ⟨.ofNat event⟩, ?_⟩
  rw [fieldBytes, UInt16.toNat_ofNat_of_lt' htag, UInt64.toNat_ofNat_of_lt' hkey,
    UInt32.toNat_ofNat_of_lt' hevent, List.append_assoc]

theorem decode_of_length_ne (h : bs.length ≠ size) :
    decode port bs = .error (.badDatagram size bs.length) := if_pos h

/-- What the number in front of a datagram says. -/
theorem ofBigEndian_take_fieldBytes (tag : UInt16) (key : Key) (event : Event) :
    ofBigEndian ((fieldBytes tag key event).take 2) = tag.toNat := by
  have front : (fieldBytes tag key event).take 2 = bigEndian 2 tag.toNat := by
    rw [fieldBytes, List.append_assoc]
    exact List.take_left' (length_bigEndian 2 _)
  rw [front, ofBigEndian_bigEndian]
  exact Nat.mod_eq_of_lt tag.toNat_lt

theorem encode_eq (n : Notice) : n.encode = fieldBytes n.kind.tag n.key n.kind.event := rfl

theorem decode_encode (n : Notice) : decode n.port n.encode = .ok n := by
  rw [encode_eq, decode_fieldBytes, NoticeKind.ofTag?_tag]

/-- A datagram is accepted just if it has the right length and a tag that is known. -/
theorem exists_decode_iff :
    (∃ n, decode port bs = .ok n) ↔ bs.length = size ∧ ofBigEndian (bs.take 2) ≤ 4 := by
  by_cases h : bs.length = size
  · obtain ⟨tag, key, event, rfl⟩ := exists_fieldBytes h
    rw [ofBigEndian_take_fieldBytes, ← NoticeKind.exists_ofTag?_iff tag event, decode_fieldBytes,
      and_iff_right h]
    cases NoticeKind.ofTag? tag event <;> simp
  · rw [decode_of_length_ne h]
    exact iff_of_false (by simp) fun fits => h fits.1

/-- What is accepted is written as it was, but for an event field that means nothing. -/
theorem encode_of_decode (h : decode port bs = .ok n) :
    n.port = port ∧
      n.encode = if ofBigEndian (bs.take 2) = 3 then bs else bs.take 10 ++ [0, 0, 0, 0] := by
  have length := (exists_decode_iff.1 ⟨n, h⟩).1
  obtain ⟨tag, key, event, rfl⟩ := exists_fieldBytes length
  rw [decode_fieldBytes] at h
  rw [ofBigEndian_take_fieldBytes]
  split at h
  · rename_i kind found
    cases h
    obtain ⟨rfl, carried⟩ := NoticeKind.fields_of_ofTag? found
    refine ⟨rfl, ?_⟩
    rw [encode_eq, carried]
    split
    · rfl
    · have front : (fieldBytes kind.tag key event).take 10 =
          bigEndian 2 kind.tag.toNat ++ bigEndian 8 key.raw.toNat :=
        List.take_left' (by rw [List.length_append, length_bigEndian, length_bigEndian])
      rw [front]
      rfl
  · cases h

end Notice

namespace Listener

/-- A listener accepts what is a notification, as it sees enough of what is too long. -/
theorem read?_eq (port : UInt16) (datagram : Bytes) :
    read? port datagram = (Notice.decode port datagram).toOption := by
  by_cases short : datagram.length ≤ windowSize
  · rw [read?, List.take_of_length_le short]
  · have seen : (datagram.take windowSize).length ≠ Notice.size := by
      rw [List.length_take, Nat.min_eq_left (Nat.le_of_not_le short)]
      decide
    have long : datagram.length ≠ Notice.size := by
      rintro same
      rw [same] at short
      exact short (by decide)
    rw [read?, Notice.decode_of_length_ne seen, Notice.decode_of_length_ne long]
    rfl

/-- The notifications among datagrams. -/
def accepted (port : UInt16) (datagrams : List Bytes) : List Notice :=
  datagrams.filterMap fun datagram => (Notice.decode port datagram).toOption

variable {port : UInt16} {queue more arrivals left : List Bytes} {r : Option Notice}
  {returned : List (Option Notice)}

theorem receiveAll_eq (port : UInt16) (datagrams : List Bytes) :
    receiveAll port datagrams = accepted port datagrams :=
  List.filterMap_congr fun datagram _ => read?_eq port datagram

theorem accepted_append (port : UInt16) (front back : List Bytes) :
    accepted port (front ++ back) = accepted port front ++ accepted port back :=
  List.filterMap_append

theorem accepted_cons_of_none {datagram : Bytes} (h : read? port datagram = none) :
    accepted port (datagram :: queue) = accepted port queue :=
  List.filterMap_cons_none (by rw [← read?_eq, h])

theorem accepted_cons_of_some {datagram : Bytes} {n : Notice} (h : read? port datagram = some n) :
    accepted port (datagram :: queue) = n :: accepted port queue :=
  List.filterMap_cons_some (by rw [← read?_eq, h])

/-- A call of a listener that finds the datagrams of a queue: `Receives port queue more r left` says that
those of `more` arrive while the call goes on, that it returns `r`, and that `left` is in the queue then. A
call looks at what has come in first, and its time is up only when there is nothing to look at. -/
inductive Receives (port : UInt16) :
    List Bytes → List Bytes → Option Notice → List Bytes → Prop
  | arrival {queue more left : List Bytes} {r : Option Notice} {datagram : Bytes}
      (goesOn : Receives port (queue ++ [datagram]) more r left) :
      Receives port queue (datagram :: more) r left
  | passedOver {queue more left : List Bytes} {r : Option Notice} {datagram : Bytes}
      (bad : read? port datagram = none) (goesOn : Receives port queue more r left) :
      Receives port (datagram :: queue) more r left
  | found {queue : List Bytes} {datagram : Bytes} {n : Notice} (good : read? port datagram = some n) :
      Receives port (datagram :: queue) [] (some n) queue
  | timeUp : Receives port [] [] none []

/-- Successive calls of a listener: `Listens port queue arrivals returned left` says that the datagrams of
`arrivals` come in before, between, during and after calls that return `returned`. -/
inductive Listens (port : UInt16) :
    List Bytes → List Bytes → List (Option Notice) → List Bytes → Prop
  | done {queue : List Bytes} : Listens port queue [] [] queue
  | arrival {queue arrivals left : List Bytes} {returned : List (Option Notice)} {datagram : Bytes}
      (goesOn : Listens port (queue ++ [datagram]) arrivals returned left) :
      Listens port queue (datagram :: arrivals) returned left
  | call {queue more queue' arrivals left : List Bytes} {r : Option Notice}
      {returned : List (Option Notice)} (now : Receives port queue more r queue')
      (later : Listens port queue' arrivals returned left) :
      Listens port queue (more ++ arrivals) (r :: returned) left

/-- A call returns the first notification, and takes that and what is before it off the queue. -/
theorem Receives.accepted_eq (h : Receives port queue more r left) :
    accepted port (queue ++ more) = r.toList ++ accepted port left := by
  induction h with
  | arrival _ ih =>
    rw [← ih, List.append_assoc]
    rfl
  | passedOver bad _ ih => rw [List.cons_append, accepted_cons_of_none bad, ih]
  | found good =>
    rw [List.append_nil, accepted_cons_of_some good]
    rfl
  | timeUp => rfl

/-- A call that returns nothing has left nothing. -/
theorem Receives.left_eq_nil (h : Receives port queue more r left) (nothing : r = none) : left = [] := by
  induction h with
  | arrival _ ih => exact ih nothing
  | passedOver _ _ ih => exact ih nothing
  | found _ => cases nothing
  | timeUp => rfl

/-- A call does with all that comes in what `receive` does with what is there. -/
theorem Receives.receive_eq (h : Receives port queue more r left) :
    receive port (queue ++ more) = r.map fun n => (n, left) := by
  induction h with
  | arrival _ ih =>
    rw [← ih, List.append_assoc]
    rfl
  | passedOver bad _ ih => rw [List.cons_append, receive, bad, ih]
  | found good => rw [List.append_nil, receive, good]; rfl
  | timeUp => rfl

/-- Every call returns, also when nothing more arrives. -/
theorem exists_receives (port : UInt16) (queue : List Bytes) : ∃ r left, Receives port queue [] r left := by
  induction queue with
  | nil => exact ⟨none, [], .timeUp⟩
  | cons datagram queue ih =>
    cases h : read? port datagram with
    | none =>
      obtain ⟨r, left, goesOn⟩ := ih
      exact ⟨r, left, .passedOver h goesOn⟩
    | some n => exact ⟨some n, queue, .found h⟩

/-- What the calls return, and what is left to return, are the notifications that have arrived, in
order. -/
theorem Listens.shared_out (h : Listens port queue arrivals returned left) :
    returned.reduceOption ++ accepted port left = accepted port (queue ++ arrivals) := by
  induction h with
  | done => rw [List.reduceOption_nil, List.nil_append, List.append_nil]
  | arrival _ ih =>
    rw [ih, List.append_assoc]
    rfl
  | @call _ _ _ _ _ r _ now _ ih =>
    rw [← List.append_assoc, accepted_append, now.accepted_eq, List.append_assoc, ← accepted_append, ← ih]
    cases r with
    | none => rw [List.reduceOption_cons_of_none]; rfl
    | some n => rw [List.reduceOption_cons_of_some]; rfl

/-- When a call has returned nothing, all has been returned. -/
theorem Listens.all_returned (h : Listens port [] arrivals returned queue)
    (nothing : Receives port queue more none left) :
    returned.reduceOption = accepted port (arrivals ++ more) := by
  have last : accepted port queue ++ accepted port more = [] := by
    rw [← accepted_append, nothing.accepted_eq, nothing.left_eq_nil rfl]
    rfl
  have shared := h.shared_out
  rw [List.nil_append] at shared
  rw [accepted_append, ← shared, List.append_assoc, last, List.append_nil]

/-- What so many calls return when the datagrams are there and nothing more arrives: one notification each,
and nothing once there are none left. -/
def due (port : UInt16) (datagrams : List Bytes) (calls : Nat) : List (Option Notice) :=
  ((accepted port datagrams).take calls).map some ++
    List.replicate (calls - (accepted port datagrams).length) none

theorem due_of_nothing {datagrams : List Bytes} (h : accepted port datagrams = []) (calls : Nat) :
    due port datagrams calls = List.replicate calls none := by
  rw [due, h, List.take_nil]
  rfl

theorem exists_listens (port : UInt16) (calls : Nat) (datagrams : List Bytes) :
    ∃ returned left, Listens port datagrams [] returned left ∧ returned.length = calls := by
  induction calls generalizing datagrams with
  | zero => exact ⟨[], datagrams, .done, rfl⟩
  | succ calls ih =>
    obtain ⟨r, rest, now⟩ := exists_receives port datagrams
    obtain ⟨returned, left, later, length⟩ := ih rest
    exact ⟨r :: returned, left, .call now later, congrArg Nat.succ length⟩

theorem Listens.eq_due (h : Listens port queue arrivals returned left) (quiet : arrivals = []) :
    returned = due port queue returned.length := by
  induction h with
  | done => rw [due, List.length_nil, List.take_zero, Nat.zero_sub]; rfl
  | arrival _ _ => cases quiet
  | @call queue more queue' arrivals left r returned now _ ih =>
    obtain ⟨rfl, rfl⟩ := List.append_eq_nil_iff.1 quiet
    have later := ih rfl
    have here := now.accepted_eq
    rw [List.append_nil] at here
    cases r with
    | none =>
      rw [now.left_eq_nil rfl] at here later
      rw [due_of_nothing here, List.length_cons, List.replicate_succ]
      exact congrArg (none :: ·) (later.trans (due_of_nothing rfl _))
    | some n =>
      have here : accepted port queue = n :: accepted port queue' := here
      rw [due, here, List.length_cons, List.length_cons, List.take_succ_cons, Nat.add_sub_add_right]
      exact congrArg (some n :: ·) later

/-- Notifications and datagrams. A notification comes back from its datagram. A datagram is accepted just if
it has 14 bytes and a tag of at most 4, and what is accepted is written as the same bytes, but for the event
field of a tag that carries no event, which is 0 then. Whatever arrives, and whenever, successive calls of
a listener return just what is accepted, in order and each once: what they have returned and what is still
there is all of it, a call that returns nothing leaves nothing behind, and if the datagrams are there
already, each call returns one until there are none. -/
theorem datagrams_are_exact :
    (∀ n : Notice, Notice.decode n.port n.encode = .ok n) ∧
      (∀ port bs, (∃ n, Notice.decode port bs = .ok n) ↔
        bs.length = 14 ∧ ofBigEndian (bs.take 2) ≤ 4) ∧
      (∀ port bs n, Notice.decode port bs = .ok n → n.port = port ∧
        n.encode = if ofBigEndian (bs.take 2) = 3 then bs else bs.take 10 ++ [0, 0, 0, 0]) ∧
      ∀ port,
        (∀ arrivals returned left, Listens port [] arrivals returned left →
          returned.reduceOption ++ accepted port left = accepted port arrivals) ∧
        (∀ arrivals returned queue more left, Listens port [] arrivals returned queue →
          Receives port queue more none left → returned.reduceOption = accepted port (arrivals ++ more)) ∧
        (∀ datagrams calls returned,
          (returned.length = calls ∧ ∃ left, Listens port datagrams [] returned left) ↔
            returned = due port datagrams calls) ∧
        (∀ queue more r left, Receives port queue more r left →
          receive port (queue ++ more) = r.map fun n => (n, left)) ∧
        ∀ datagrams, receiveAll port datagrams = accepted port datagrams := by
  refine ⟨Notice.decode_encode, fun _ _ => Notice.exists_decode_iff, fun _ _ _ => Notice.encode_of_decode,
    fun port => ⟨fun _ _ _ => Listens.shared_out, fun _ _ _ _ _ => Listens.all_returned,
      fun datagrams calls returned => ⟨?_, ?_⟩, fun _ _ _ _ => Receives.receive_eq, receiveAll_eq port⟩⟩
  · rintro ⟨rfl, left, calls⟩
    exact calls.eq_due rfl
  · rintro rfl
    obtain ⟨returned, left, calls, rfl⟩ := exists_listens port calls datagrams
    rw [← calls.eq_due rfl]
    exact ⟨rfl, left, calls⟩

/-- Junk and a datagram that is too long arrive before a call, and a notification while it waits. A tag
without an event is read past what its event field holds. -/
theorem datagrams_are_exact_of_long :
    let n : Notice := ⟨4001, .newEvent .offerMatched, ⟨7⟩⟩
    let long := n.encode ++ List.replicate 56 0
    let stray : Bytes := [0, 4, 0, 0, 0, 0, 0, 0, 0, 7, 1, 2, 3, 4]
    Notice.decode 4001 stray = .ok ⟨4001, .disconnect, ⟨7⟩⟩ ∧
      (⟨4001, .disconnect, ⟨7⟩⟩ : Notice).encode = stray.take 10 ++ [0, 0, 0, 0] ∧
      Listens 4001 [] [[1, 2], long, n.encode] [some n] [] ∧ Receives 4001 [] [] none [] ∧
      [n] = accepted 4001 [[1, 2], long, n.encode] ∧
      (∃ left, Listens 4001 [stray, long, n.encode] []
        [some ⟨4001, .disconnect, ⟨7⟩⟩, some n, none] left) ∧
      receive 4001 [[1, 2], long, n.encode] = some (n, []) := by
  intro n long stray
  obtain ⟨back, -, normal, listener⟩ := datagrams_are_exact
  obtain ⟨-, all, exactly, one, -⟩ := listener 4001
  have decoded : Notice.decode 4001 stray = .ok ⟨4001, .disconnect, ⟨7⟩⟩ := rfl
  have junk : read? 4001 [1, 2] = none := rfl
  have tooLong : read? 4001 long = none := rfl
  have good : read? 4001 n.encode = some n :=
    (read?_eq 4001 n.encode).trans (congrArg Except.toOption (back n))
  have last : read? 4001 stray = some ⟨4001, .disconnect, ⟨7⟩⟩ := rfl
  have both : accepted 4001 [stray, long, n.encode] = [⟨4001, .disconnect, ⟨7⟩⟩, n] := by
    rw [accepted_cons_of_some last, accepted_cons_of_none tooLong, accepted_cons_of_some good]
    rfl
  have call : Receives 4001 [[1, 2], long] [n.encode] (some n) [] :=
    .passedOver junk (.passedOver tooLong (.arrival (.found good)))
  have calls : Listens 4001 [] [[1, 2], long, n.encode] [some n] [] :=
    .arrival (.arrival (.call call .done))
  refine ⟨decoded, (normal _ _ _ decoded).2.trans (if_neg (by decide)), calls, .timeUp, ?_, ?_,
    one _ _ _ _ call⟩
  · have returned := all _ _ _ _ _ calls .timeUp
    rwa [List.append_nil, List.reduceOption_cons_of_some, List.reduceOption_nil] at returned
  · exact ((exactly [stray, long, n.encode] 3 _).2 (by rw [due, both]; rfl)).2

end Listener

end SharedVariables
