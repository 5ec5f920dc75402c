import SharedVariables.Proofs.Registry.Sparing
import SharedVariables.Proofs.Server.LiveServer

/-!
# What a session cannot touch

A session that sends a signal leaves alone what its processor does not share, with a few exceptions
that `Session.Touches` and `Session.TouchesSlot` list, each with the signal that it takes: events are
marked and forgotten for anybody, an offer that is made to the processor is completed, a free row gets
its offer, and a registration is made or made again. There is a lemma for each way in which a signal
is answered, and `LiveServer.session_confined` puts them together. A session that is not bound tells
nobody anything but events.
-/

namespace SharedVariables

/-! ## Tables of values -/

namespace ValueTable

variable {t : ValueTable} {key : Key}

theorem get?_restrict {keep : Key → Bool} (h : t.get? key ≠ none → keep key = true) :
    (t.restrict keep).get? key = t.get? key := by
  simp only [get?, restrict, List.find?_filter]
  by_cases hk : keep key = true
  · congr 2
    funext entry
    by_cases he : entry.1 = key <;> simp [he, hk]
  · have missing : t.get? key = none := by_contra fun hn => hk (h hn)
    have absent := Option.map_eq_none_iff.1 missing
    rw [absent, Option.map_none, Option.map_eq_none_iff, List.find?_eq_none]
    intro entry hmem
    have := List.find?_eq_none.1 absent entry hmem
    simp_all

theorem get?_insert {key' : Key} (h : key ≠ key') (bytes : Bytes) :
    (t.insert key' bytes).get? key = t.get? key := by
  simp only [get?, insert, List.find?_cons, List.find?_filter, h.symm, decide_false]
  congr 2
  funext entry
  by_cases he : entry.1 = key <;> simp [he, h]

theorem exists_mem_of_get? (h : t.get? key ≠ none) : ∃ entry ∈ t.entries, entry.1 = key := by
  obtain ⟨bytes, hb⟩ := Option.ne_none_iff_exists'.1 h
  obtain ⟨entry, he, -⟩ := Option.map_eq_some_iff.1 hb
  exact ⟨entry, List.mem_of_find?_eq_some he, by simpa using List.find?_some he⟩

end ValueTable

namespace Session

/-! ## The exceptions -/

/-- The processor of a session, if the session is bound to one, is no side of a row. -/
def IsStranger (s : Session) (row : Row) : Prop :=
  ∀ me, s.me = some me → row.sideOf me.id = none

/-- What a signal may make of a row that the session is a stranger to. -/
inductive Touches (s : Session) (signal : Signal) (row : Row) : Row → Prop
  | kept : s.Touches signal row row
  | marked (id : ProcessorId) (event : Event) (side : Side)
      (sent : signal = .addEvent row.key id event) (present : row.sideOf id = some side) :
    s.Touches signal row (row.markEvent side)
  | unmarked (id : ProcessorId) (sent : signal = .clearAllEvents id) :
    s.Touches signal row (row.clearEvent id)
  /-- An offer that is made to everybody or to the processor of the session is completed. -/
  | completed (me : Partner) (name : Name) (addressee : ProcessorId) (bound : s.me = some me)
      (sent : signal = .matchOrMake name addressee me.id) (offered : row.coupling = .offered)
      (meant : row.target.IsGeneral ∨ row.target = me.id) (common : Name) (stateCode : UInt8) :
    s.Touches signal row
      { row with
        offering := row.offering.withEvent true
        accepting := me.bare
        name := common
        stateCode }
  | offered (me : Partner) (name : Name) (addressee : ProcessorId) (key : Key) (told : Bool)
      (bound : s.me = some me) (sent : signal = .matchOrMake name addressee me.id)
      (free : row.Free) :
    s.Touches signal row (.pending key name addressee me told)

/-- What a signal may make of a slot that does not hold the processor of the session. -/
inductive TouchesSlot (signal : Signal) (slot : Slot) : Slot → Prop
  | events (events : Event) : TouchesSlot signal slot { slot with events }
  | refreshed (id : ProcessorId) (evconn : Bool) (progname : String) (pid : UInt32) (port : UInt16)
      (sent : signal = .registerProcessor id evconn progname pid port) (holds : slot.Holds id) :
    TouchesSlot signal slot { slot with partner.pid := pid, partner.port := port }
  | enrolled (id : ProcessorId) (evconn : Bool) (progname : String) (pid : UInt32) (port : UInt16)
      (sent : signal = .registerProcessor id evconn progname pid port) (unused : ¬slot.Used) :
    TouchesSlot signal slot ⟨.ofProcess id pid port, .none⟩

/-- What a session does with a signal to things that it does not share. -/
structure Confined (s : Session) (server : Server) (signal : Signal) (server' : Server) : Prop where
  rows : ∀ i : RowIndex, s.IsStranger (server.registry.rows.get i) →
    s.Touches signal (server.registry.rows.get i) (server'.registry.rows.get i)
  slots : ∀ i : SlotIndex, (∀ me, s.me = some me → ¬(server.registry.slots.get i).Holds me.id) →
    TouchesSlot signal (server.registry.slots.get i) (server'.registry.slots.get i)
  values : ∀ key, (∀ i : RowIndex, (server.registry.rows.get i).key = key →
    s.IsStranger (server.registry.rows.get i)) → server'.values.get? key = server.values.get? key
  exchanged : ∀ key, (∀ i : RowIndex, (server.registry.rows.get i).key = key →
    s.IsStranger (server.registry.rows.get i)) →
    server'.exchanged.get? key = server.exchanged.get? key

variable {s : Session} {server : Server} {signal : Signal}

theorem Touches.key {row row' : Row} (h : s.Touches signal row row') (used : ¬row.Free) :
    row'.key = row.key := by
  cases h with
  | kept => rfl
  | marked id event side sent present => exact Row.key_of_bare (Row.bare_markEvent ..)
  | unmarked id sent => exact Row.key_of_bare (Row.bare_clearEvent ..)
  | completed => rfl
  | offered me name addressee key told bound sent free => exact absurd free used

theorem TouchesSlot.of_partner {slot slot' : Slot} (h : slot'.partner = slot.partner) :
    TouchesSlot signal slot slot' := by
  have : slot' = { slot with events := slot'.events } := by rw [← h]
  rw [this]
  exact .events slot'.events

/-! ## The ways in which signals are answered -/

/-- Values go only with their variables, and a variable does not go while the session is a stranger to
it. -/
theorem confined_of_prune (pruned : server.Pruned) {r : Registry} {values exchanged : ValueTable}
    (rows : ∀ i : RowIndex, s.IsStranger (server.registry.rows.get i) →
      s.Touches signal (server.registry.rows.get i) (r.rows.get i))
    (slots : ∀ i : SlotIndex, (∀ me, s.me = some me → ¬(server.registry.slots.get i).Holds me.id) →
      TouchesSlot signal (server.registry.slots.get i) (r.slots.get i))
    (hv : ∀ key, (∀ i : RowIndex, (server.registry.rows.get i).key = key →
      s.IsStranger (server.registry.rows.get i)) → values.get? key = server.values.get? key)
    (he : ∀ key, (∀ i : RowIndex, (server.registry.rows.get i).key = key →
      s.IsStranger (server.registry.rows.get i)) →
      exchanged.get? key = server.exchanged.get? key) :
    s.Confined server signal (Server.prune ⟨r, values, exchanged⟩) := by
  have stays (key : Key) (strange : ∀ i : RowIndex, (server.registry.rows.get i).key = key →
      s.IsStranger (server.registry.rows.get i)) (h : (server.registry.findVar key).isSome) :
      (r.findVar key).isSome := by
    obtain ⟨i, hi⟩ := Option.isSome_iff_exists.1 h
    obtain ⟨used, hkey⟩ := Registry.findVar_eq_some hi
    have hkey' : (r.rows.get i).key = key := ((rows i (strange i hkey)).key used).trans hkey
    rw [← Option.ne_none_iff_isSome, ne_eq, Registry.findVar_eq_none_iff, not_or]
    exact ⟨hkey ▸ used, fun h => h i hkey'⟩
  refine ⟨rows, slots, fun key strange => ?_, fun key strange => ?_⟩
  · rw [← hv key strange]
    refine ValueTable.get?_restrict fun h => stays key strange ?_
    rw [hv key strange] at h
    obtain ⟨entry, hmem, rfl⟩ := ValueTable.exists_mem_of_get? h
    exact pruned.values entry hmem
  · rw [← he key strange]
    refine ValueTable.get?_restrict fun h => stays key strange ?_
    rw [he key strange] at h
    obtain ⟨entry, hmem, rfl⟩ := ValueTable.exists_mem_of_get? h
    exact pruned.exchanged entry hmem

theorem idle_confined (pruned : server.Pruned) (reply : Option Signal) :
    s.Confined server signal (s.idle server reply).server :=
  confined_of_prune pruned (fun _ _ => .kept) (fun _ _ => .of_partner rfl) (fun _ _ => rfl)
    fun _ _ => rfl

theorem operate_confined {α : Type} (pruned : server.Pruned) {s' : Session} {outcome : Outcome α}
    {reply : α → Option Signal}
    (rows : ∀ i : RowIndex, s.IsStranger (server.registry.rows.get i) →
      s.Touches signal (server.registry.rows.get i) (outcome.registry.rows.get i))
    (slots : ∀ i : SlotIndex, (∀ me, s.me = some me → ¬(server.registry.slots.get i).Holds me.id) →
      TouchesSlot signal (server.registry.slots.get i) (outcome.registry.slots.get i)) :
    s.Confined server signal (s'.operate server outcome reply).server :=
  confined_of_prune pruned rows slots (fun _ _ => rfl) fun _ _ => rfl

theorem operateBound_confined {α : Type} (pruned : server.Pruned) {act : Partner → Outcome α}
    {refused : α} {reply : α → Option Signal}
    (h : ∀ me : Partner, server.registry.Spares me.id (act me).registry) :
    s.Confined server signal (s.operateBound server act refused reply).server := by
  simp only [operateBound]
  split
  · rename_i me hme
    refine operate_confined pruned (fun i hi => ?_) fun i _ => .of_partner ((h me).slots i)
    rw [(h me).rows i (hi me hme)]
    exact .kept
  · exact idle_confined pruned _

theorem register_confined (pruned : server.Pruned) (id : ProcessorId) (evconn : Bool)
    (progname : String) (pid : UInt32) (port : UInt16) :
    s.Confined server (.registerProcessor id evconn progname pid port)
      (s.register server id pid port).server := by
  simp only [register]
  split
  · refine operate_confined pruned (fun i _ => ?_) fun i _ => ?_
    · rw [Registry.registerProcessor_rows]
      exact .kept
    · rcases Registry.registerProcessor_slot (r := server.registry) id pid port i with
        same | ⟨holds, same⟩ | ⟨unused, same⟩
      · rw [same]; exact .of_partner rfl
      · rw [same]; exact .refreshed id evconn progname pid port rfl holds
      · rw [same]; exact .enrolled id evconn progname pid port rfl unused
  · exact idle_confined pruned _

theorem unregister_confined (pruned : server.Pruned) (id : ProcessorId) :
    s.Confined server signal (s.unregister server id).server := by
  simp only [unregister]
  split
  · rename_i hme
    obtain ⟨me, hs, hid⟩ := (Option.any_eq_true _ _).1 hme
    obtain rfl := of_decide_eq_true hid
    refine operate_confined pruned (fun i _ => ?_) fun i hi => ?_
    · rw [Registry.unregisterProcessor_rows]
      exact .kept
    · rw [Registry.unregisterProcessor_slot me.id i (hi me hs)]
      exact .of_partner rfl
  · exact idle_confined pruned _

theorem share_confined (pruned : server.Pruned) (name : Name) (addressee offering : ProcessorId) :
    s.Confined server (.matchOrMake name addressee offering)
      (s.share server name addressee offering).server := by
  simp only [share]
  split
  · rename_i me hme
    split
    · rename_i hid
      obtain rfl := hid
      refine operate_confined pruned (fun i _ => ?_) fun i _ =>
        .of_partner (Registry.share_slot name addressee me i)
      rcases Registry.share_row (r := server.registry) name addressee me i with
        same | ⟨offered, meant, same⟩ | ⟨key, told, free, -, same⟩
      · rw [same]; exact .kept
      · rw [same]; exact .completed me name addressee hme rfl offered meant _ _
      · rw [same]; exact .offered me name addressee key told hme rfl free
    · exact idle_confined pruned _
  · exact idle_confined pruned _

theorem forward_confined (pruned : server.Pruned) (key : Key) (kind : NoticeKind) :
    s.Confined server signal (s.forward server key kind).server := by
  simp only [forward]
  split <;> exact idle_confined pruned none

/-- The processor of a session is a side of the variable under which the session keeps a value. -/
theorem ne_of_isSide {key key' : Key} (h : s.isSide server key' = true)
    (strange : ∀ i : RowIndex, (server.registry.rows.get i).key = key →
      s.IsStranger (server.registry.rows.get i)) : key ≠ key' := by
  rintro rfl
  simp only [isSide] at h
  split at h
  · rename_i me hme
    obtain ⟨⟨i, side⟩, hc⟩ := Option.isSome_iff_exists.1 h
    obtain ⟨hi, hside⟩ := Registry.callerRow_eq_some hc
    rw [strange i (Registry.findVar_eq_some hi).2 me hme] at hside
    cases hside
  · cases h

theorem assignValue_confined (pruned : server.Pruned) (key : Key) (bytes : Bytes) :
    s.Confined server signal (s.assignValue server key bytes).server := by
  simp only [assignValue]
  split
  · rename_i side
    exact confined_of_prune pruned (fun _ _ => .kept) (fun _ _ => .of_partner rfl)
      (fun _ strange => ValueTable.get?_insert (ne_of_isSide side strange) bytes) fun _ _ => rfl
  · exact idle_confined pruned _

theorem assignExchanged_confined (pruned : server.Pruned) (key : Key) (bytes : Bytes) :
    s.Confined server signal (s.assignExchanged server key bytes).server := by
  simp only [assignExchanged]
  split
  · rename_i side
    exact confined_of_prune pruned (fun _ _ => .kept) (fun _ _ => .of_partner rfl) (fun _ _ => rfl)
      fun _ strange => ValueTable.get?_insert (ne_of_isSide side strange) bytes
  · exact idle_confined pruned _

theorem dispatch_confined {d : Dispatched} (pruned : server.Pruned)
    (h : s.dispatch server signal = .ok d) : s.Confined server signal d.server := by
  cases signal <;> cases h
  case registerProcessor id evconn progname pid port =>
    exact register_confined pruned id evconn progname pid port
  case unregisterProcessor id => exact unregister_confined pruned id
  case matchOrMake name addressee offering => exact share_confined pruned name addressee offering
  case makeOffer key => exact forward_confined pruned key .makeOffer
  case retractOffer key => exact forward_confined pruned key .retractOffer
  case retractVar key => exact operateBound_confined pruned fun _ => Registry.retract_spares key
  case setState key used _ =>
    exact operateBound_confined pruned fun _ => Registry.setState_spares key used
  case getControl key => exact operateBound_confined pruned fun _ => .refl _
  case setControl key control =>
    exact operateBound_confined pruned fun _ => Registry.setControl_spares key control
  case mayUse key attempt =>
    exact operateBound_confined pruned fun _ => Registry.mayAccess_spares key attempt _ _
  case maySet key attempt =>
    exact operateBound_confined pruned fun _ => Registry.mayAccess_spares key attempt _ _
  case assignValue key bytes => exact assignValue_confined pruned key bytes
  case assignWswsVar key bytes => exact assignExchanged_confined pruned key bytes
  case clearAllEvents id =>
    refine operate_confined pruned (fun i _ => ?_) fun i _ =>
      .of_partner (Registry.clearAllEvents_slot id i)
    rcases Registry.clearAllEvents_row (r := server.registry) id i with same | same
    · rw [same]; exact .kept
    · rw [same]; exact .unmarked id rfl
  case addEvent key id event =>
    split
    · exact idle_confined pruned _
    refine operate_confined pruned (fun i _ => ?_) fun i _ =>
      .of_partner (Registry.addEvent_slot event id key i)
    rcases Registry.addEvent_row (r := server.registry) event id key i with
      same | ⟨side, rfl, present, same⟩
    · rw [same]; exact .kept
    · rw [same]; exact .marked id event side rfl present
  all_goals exact idle_confined pruned _

/-- A session that is not bound announces nothing but events. -/
theorem dispatch_notices {d : Dispatched} (unbound : s.me = none)
    (h : s.dispatch server signal = .ok d) :
    ∀ notice ∈ d.notices, ∃ event, notice.kind = .newEvent event := by
  have nothing (d : Dispatched) (h : d.notices = []) :
      ∀ notice ∈ d.notices, ∃ event, notice.kind = .newEvent event := by simp [h]
  cases signal <;> cases h
  case addEvent key id event =>
    split
    · exact nothing _ rfl
    · exact fun notice hn => ⟨event, Registry.addEvent_notices hn⟩
  case registerProcessor id _ _ pid port =>
    refine nothing _ ?_
    rw [register]
    split
    · exact Registry.registerProcessor_notices id pid port
    · rfl
  all_goals
    refine nothing _ ?_
    simp [forward, operateBound, assignValue, assignExchanged, unregister, share, isSide, unbound,
      idle, operate, Registry.clearAllEvents]

end Session

namespace LiveServer

variable {l : LiveServer} {n : Nat} {s : Session}

/-- In every state that is reached, a session that sends a signal, whatever it is, leaves alone what
its processor does not share, the listed exceptions apart; one that is not bound has none of those
that take a processor, and tells others about events only. -/
theorem session_confined (h : l.Reachable) (hs : l.sessions n = some s) (signal : Signal) :
    s.Confined l.server signal (l.step (.dispatch n signal)).server ∧
      (s.me = none → ∀ d, s.dispatch l.server signal = .ok d →
        ∀ notice ∈ d.notices, ∃ event, notice.kind = .newEvent event) := by
  refine ⟨?_, fun unbound d hd => Session.dispatch_notices unbound hd⟩
  cases hd : s.dispatch l.server signal with
  | ok d =>
    rw [step_dispatch hs hd]
    exact Session.dispatch_confined h.sound.pruned hd
  | error e =>
    rw [step_dispatch_error hs hd]
    exact ⟨fun _ _ => .kept, fun _ _ => .of_partner rfl, fun _ _ => rfl, fun _ _ => rfl⟩

/-- A processor offers a variable to everybody, and another one, which has not accepted it, sends a
retract: the row stays. -/
theorem session_confined_of_retract :
    let owner := ProcessorId.single 1001
    let other := ProcessorId.single 1002
    let l := start.run [.connect 0, .dispatch 0 (.registerProcessor owner false "" 10 0),
      .dispatch 0 (.matchOrMake (.ofText "LEVEL") .general owner), .connect 1,
      .dispatch 1 (.registerProcessor other false "" 20 0)]
    let row := l.server.registry.rows.get 0
    l.Reachable ∧ l.sessions 1 = some ⟨some (.ofProcess other 20 0)⟩ ∧
      row.sideOf owner = some .offering ∧ row.sideOf other = none ∧
      (l.step (.dispatch 1 (.retractVar row.key))).server.registry.rows.get 0 = row := by
  intro owner other l row
  have reachable : l.Reachable := ⟨_, rfl⟩
  have hs : l.sessions 1 = some ⟨some (.ofProcess other 20 0)⟩ := by decide +kernel
  have hside : row.sideOf other = none := by decide +kernel
  have strange : Session.IsStranger ⟨some (.ofProcess other 20 0)⟩ row := by
    rintro me hme
    rwa [← Option.some.inj hme]
  have touched := (session_confined reachable hs (.retractVar row.key)).1.rows 0 strange
  refine ⟨reachable, hs, by decide +kernel, hside, ?_⟩
  generalize (l.step (.dispatch 1 (.retractVar row.key))).server.registry.rows.get 0 = row' at *
  cases touched with
  | kept => rfl
  | marked id event side sent => cases sent
  | unmarked id sent => cases sent
  | completed me name addressee bound sent => cases sent
  | offered me name addressee key told bound sent => cases sent

end LiveServer

end SharedVariables
