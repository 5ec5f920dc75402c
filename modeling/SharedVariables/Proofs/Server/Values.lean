import SharedVariables.Proofs.Registry.Lifecycle
import SharedVariables.Proofs.Run
import SharedVariables.Proofs.Server.Confinement

/-!
# Values follow their variables

A server keeps two tables of values, and each signal does the same to both (`Session.Settles`): what
the signal assigns is put into the table, and then everything goes that is not the value of a variable.
A variable is there from the answer that tells a client of its new offer until its row is free, and no
action takes it away and makes it again (`LiveServer.step_has`, `LiveServer.Creates.not_has`). So what
a client is told of a value was assigned since the variable was made, and nothing was assigned to it
later (`LiveServer.values_follow_variables`), also if the key has been handed out before.
-/

namespace SharedVariables

/-- The values that a server keeps: those that are assigned and read under access control, and those
that workspaces exchange. -/
inductive ValueKind where
  | controlled
  | exchanged
deriving DecidableEq

namespace ValueKind

/-- Where the values are kept. -/
def table : ValueKind → Server → ValueTable
  | controlled => Server.values
  | exchanged => Server.exchanged

/-- The request for the value of a variable. -/
def request : ValueKind → Key → Signal
  | controlled => .getValue
  | exchanged => .readWswsVar

/-- The answer to a request. A variable without a value under access control is an error, and without
an exchanged one it is as if no bytes had been assigned. -/
def reply : ValueKind → Key → Option Bytes → Signal
  | controlled, key, value => Session.valueReply key value
  | exchanged, _, value => .wswsValueIs (value.getD [])

/-- The variable that a signal is to assign a value to, and the value. -/
def assignment? : ValueKind → Signal → Option (Key × Bytes)
  | controlled, .assignValue key bytes => some (key, bytes)
  | exchanged, .assignWswsVar key bytes => some (key, bytes)
  | _, _ => none

end ValueKind

/-! ## Keys -/

/-- Whether an operation may make an offer. -/
def Operation.Offers : Operation → Prop
  | matchOrMake .. | createOffer .. => True
  | _ => False

namespace Registry

variable {r : Registry} {op : Operation} {key : Key}

theorem findVar_isSome_iff :
    (r.findVar key).isSome ↔ ∃ i : RowIndex, ¬(r.rows.get i).Free ∧ (r.rows.get i).key = key := by
  constructor
  · intro h
    obtain ⟨i, hi⟩ := Option.isSome_iff_exists.1 h
    exact ⟨i, findVar_eq_some hi⟩
  · rintro ⟨i, used, rfl⟩
    by_contra absent
    rcases findVar_eq_none_iff.1 (Option.not_isSome_iff_eq_none.1 absent) with hn | hn
    · exact used hn
    · exact hn i rfl

/-- An operation that makes no offer gives no row a new key. -/
theorem perform_key (h : r.WellFormed) (hop : ¬op.Offers) (j : RowIndex) :
    ((r.perform op).registry.rows.get j).key = (r.rows.get j).key ∨
      (r.perform op).registry.rows.get j = .empty := by
  cases hw : op.sweeps? with
  | some which => exact Row.key_of_takesOut (perform_takesOut h hw j)
  | none =>
    obtain ⟨fate, meets⟩ := (perform_changes h hw).meets j
    cases fate with
    | kept =>
      have kept : (r.rows.get j).Kept op _ := meets
      exact .inl (Row.key_of_bare kept.bare)
    | made =>
      have made : (r.rows.get j).Made r op _ := meets
      obtain ⟨name, addressee, p, rfl | rfl, -⟩ := made.offer
      · exact absurd trivial hop
      · exact absurd trivial hop
    | taken =>
      have taken : (r.rows.get j).Taken op _ := meets
      exact .inl taken.key
    | left =>
      have left : (r.rows.get j).Left op _ := meets
      exact .inl left.key
    | withdrawn =>
      have withdrawn : (r.rows.get j).Withdrawn op _ := meets
      exact .inr withdrawn.after

theorem findVar_of_perform (h : r.WellFormed) (op : Operation) (hop : ¬op.Offers)
    (live : ((r.perform op).registry.findVar key).isSome) : (r.findVar key).isSome := by
  obtain ⟨j, used, hkey⟩ := findVar_isSome_iff.1 live
  rcases perform_key h hop j with same | gone
  · exact findVar_isSome_iff.2 ⟨j, by rwa [Row.Free, ← same], same.symm.trans hkey⟩
  · rw [gone] at used
    exact absurd rfl used

/-- Sharing a variable makes an offer under a key that no variable has, and says so, or it gives no row
a new key. -/
theorem matchOrMake_key (name : Name) (addressee : ProcessorId) (p : Partner) :
    (∃ key, r.Untaken key ∧ (r.matchOrMake name addressee p).value = .ok (key, .offered) ∧
      ∀ j : RowIndex, ((r.matchOrMake name addressee p).registry.rows.get j).key = key ∨
        ((r.matchOrMake name addressee p).registry.rows.get j).key = (r.rows.get j).key) ∨
      (∀ key, (r.matchOrMake name addressee p).value ≠ .ok (key, .offered)) ∧
        ∀ j : RowIndex, ((r.matchOrMake name addressee p).registry.rows.get j).key =
          (r.rows.get j).key := by
  by_cases hp : p.Present
  · cases hi : r.findPending name addressee p.id with
    | some i =>
      obtain ⟨hv, hr⟩ := matchOrMake_of_pending hp hi
      refine .inr ⟨fun key hk => ?_, fun j => ?_⟩
      · rw [hv] at hk
        cases hk
      · rw [hr, get_put]
        split
        · rename_i hij
          subst hij
          have marked : (((r.rows.get i).accept name p).markEvent .offering).key =
              ((r.rows.get i).accept name p).key := Row.key_of_bare (Row.bare_markEvent ..)
          exact marked
        · rfl
    | none =>
      cases hf : first? r.rows (fun row => row.Free) with
      | some i =>
        obtain ⟨key, told, untaken, hv, hr⟩ := matchOrMake_of_free hp hi hf
        refine .inl ⟨key, untaken, hv, fun j => ?_⟩
        rw [hr, get_put]
        split
        · exact .inl rfl
        · exact .inr rfl
      | none =>
        refine .inr ⟨fun key hk => ?_, fun j => ?_⟩
        · rw [matchOrMake_of_full hp hi hf] at hk
          cases hk
        · simp only [matchOrMake, hp, ↓reduceIte, matchPendingOffer, hi, Outcome.andThen, unchanged,
            createOffer_of_full name addressee hp hf]
  · refine .inr ⟨fun key hk => ?_, fun j => ?_⟩
    · rw [matchOrMake, if_neg hp] at hk
      cases hk
    · rw [matchOrMake, if_neg hp]
      rfl

theorem share_key (name : Name) (addressee : ProcessorId) (p : Partner) :
    (∃ key, r.Untaken key ∧ (r.share name addressee p).value = (key, .offered) ∧
      ∀ j : RowIndex, ((r.share name addressee p).registry.rows.get j).key = key ∨
        ((r.share name addressee p).registry.rows.get j).key = (r.rows.get j).key) ∨
      (∀ key, (r.share name addressee p).value ≠ (key, .offered)) ∧
        ∀ j : RowIndex, ((r.share name addressee p).registry.rows.get j).key =
          (r.rows.get j).key := by
  rcases r.matchOrMake_key name addressee p with ⟨key, untaken, hv, keys⟩ | ⟨hv, keys⟩
  · refine .inl ⟨key, untaken, ?_, keys⟩
    simp only [share, Outcome.map, hv]
    rfl
  · refine .inr ⟨fun key hk => ?_, keys⟩
    simp only [share, Outcome.map] at hk
    cases hm : (r.matchOrMake name addressee p).value with
    | error e =>
      rw [hm] at hk
      cases hk
    | ok shared =>
      rw [hm] at hk
      exact hv key (hm.trans (congrArg Except.ok hk))

end Registry

/-! ## Tables -/

namespace ValueTable

variable {t : ValueTable} {key : Key}

theorem get?_insert_self (t : ValueTable) (key : Key) (bytes : Bytes) :
    (t.insert key bytes).get? key = some bytes := by
  simp only [get?, insert, List.find?_cons, decide_true, Option.map_some]

/-- The table with an assignment made, if there is one. -/
def assign (t : ValueTable) : Option (Key × Bytes) → ValueTable
  | some (key, bytes) => t.insert key bytes
  | none => t

theorem get?_assign (t : ValueTable) (key : Key) (a : Option (Key × Bytes)) :
    (t.assign a).get? key = ((a.filter (·.1 = key)).map Prod.snd).or (t.get? key) := by
  rcases a with - | ⟨key', bytes⟩
  · rfl
  by_cases hk : key' = key
  · subst hk
    simp only [assign, get?_insert_self, Option.filter_some, decide_true, ↓reduceIte,
      Option.map_some, Option.some_or]
  · simp only [assign, get?_insert (Ne.symm hk), Option.filter_some, hk, decide_false,
      Bool.false_eq_true, ↓reduceIte, Option.map_none, Option.none_or]

/-- The entries for the variables of a registry. -/
def sharedIn (t : ValueTable) (r : Registry) : ValueTable :=
  t.restrict fun key => (r.findVar key).isSome

theorem get?_sharedIn {r : Registry} (h : (r.findVar key).isSome) :
    (t.sharedIn r).get? key = t.get? key := get?_restrict fun _ => h

end ValueTable

/-! ## Signals -/

namespace Session

/-- What a signal assigns: a session whose processor is no side of the variable assigns nothing. -/
def assigned? (kind : ValueKind) (s : Session) (server : Server) (signal : Signal) :
    Option (Key × Bytes) :=
  (kind.assignment? signal).filter fun a => s.isSide server a.1

/-- What a signal does to the values of one kind, and to the variables that they are values of. -/
structure Settles (kind : ValueKind) (s : Session) (server : Server) (signal : Signal)
    (d : Dispatched) : Prop where
  table : kind.table d.server =
    ((kind.table server).assign (s.assigned? kind server signal)).sharedIn d.server.registry
  keys : ∀ key, (d.server.registry.findVar key).isSome → (server.registry.findVar key).isSome ∨
    ∃ name addressee offering, signal = .matchOrMake name addressee offering ∧
      d.reply = some (.matchOrMakeResult key .offered)

variable {kind : ValueKind} {s s' : Session} {server : Server} {signal : Signal}

/-- What a signal assigns to one variable it assigns if the session's processor is a side of it. -/
theorem assigned?_eq {key : Key} (own : ∀ a, kind.assignment? signal = some a → a.1 = key) :
    s.assigned? kind server signal =
      if s.isSide server key then kind.assignment? signal else none := by
  rw [assigned?]
  cases ha : kind.assignment? signal with
  | none => split <;> rfl
  | some a => rw [Option.filter_some, own a ha]

theorem assigned?_of_none (ha : kind.assignment? signal = none) :
    s.assigned? kind server signal = none := by
  rw [assigned?, ha]
  rfl

/-! ### The ways in which signals are answered -/

/-- A signal that leaves the registry alone. -/
theorem settles_of_prune {reply : Option Signal} {notices : List Notice} {server' : Server}
    (hr : server'.registry = server.registry)
    (ht : kind.table server' = (kind.table server).assign (s.assigned? kind server signal)) :
    s.Settles kind server signal ⟨reply, s', server'.prune, notices⟩ where
  table := by
    rw [← ht]
    cases kind <;> rfl
  keys key live := by
    have live : (server'.registry.findVar key).isSome := live
    rw [hr] at live
    exact .inl live

theorem idle_settles (ha : s.assigned? kind server signal = none) (reply : Option Signal) :
    s.Settles kind server signal (s.idle server reply) :=
  settles_of_prune rfl (by rw [ha]; rfl)

theorem forward_settles (ha : kind.assignment? signal = none) (key : Key) (notice : NoticeKind) :
    s.Settles kind server signal (s.forward server key notice) := by
  have none : s.assigned? kind server signal = none := assigned?_of_none ha
  simp only [forward]
  split
  · exact settles_of_prune rfl (by rw [none]; rfl)
  · exact idle_settles none _

/-- A signal that assigns a value to the variable `key`, or would. -/
theorem settles_of_assignment {key : Key} (server' : Server)
    (own : ∀ a, kind.assignment? signal = some a → a.1 = key)
    (hr : server'.registry = server.registry)
    (ht : kind.table server' = (kind.table server).assign (kind.assignment? signal))
    (reply refused : Option Signal) :
    s.Settles kind server signal
      (if s.isSide server key then ⟨reply, s, server'.prune, []⟩ else s.idle server refused) := by
  split
  · rename_i side
    exact settles_of_prune hr (by rw [ht, assigned?_eq own, if_pos side])
  · rename_i stranger
    exact idle_settles ((assigned?_eq own).trans (if_neg stranger)) _

theorem assignValue_settles (key : Key) (bytes : Bytes) :
    s.Settles kind server (.assignValue key bytes) (s.assignValue server key bytes) := by
  refine settles_of_assignment { server with values := server.values.insert key bytes }
    (fun a ha => ?_) ?_ ?_ _ _
  · cases kind <;> cases ha
    rfl
  · rfl
  · cases kind <;> rfl

theorem assignExchanged_settles (key : Key) (bytes : Bytes) :
    s.Settles kind server (.assignWswsVar key bytes) (s.assignExchanged server key bytes) := by
  refine settles_of_assignment { server with exchanged := server.exchanged.insert key bytes }
    (fun a ha => ?_) ?_ ?_ _ _
  · cases kind <;> cases ha
    rfl
  · rfl
  · cases kind <;> rfl

theorem operate_settles {α : Type} (op : Operation) (ha : kind.assignment? signal = none)
    (h : server.registry.WellFormed) (hop : ¬op.Offers) {outcome : Outcome α}
    (hr : outcome.registry = (server.registry.perform op).registry) (reply : α → Option Signal) :
    s.Settles kind server signal (s'.operate server outcome reply) where
  table := by
    rw [assigned?_of_none ha]
    cases kind <;> rfl
  keys key live := by
    have live : (outcome.registry.findVar key).isSome := live
    rw [hr] at live
    exact .inl (Registry.findVar_of_perform h op hop live)

theorem operateBound_settles {α : Type} (op : Partner → Operation)
    (ha : kind.assignment? signal = none) (h : server.registry.WellFormed) (hop : ∀ me, ¬(op me).Offers)
    {act : Partner → Outcome α}
    (hr : ∀ me, (act me).registry = (server.registry.perform (op me)).registry) (refused : α)
    (reply : α → Option Signal) :
    s.Settles kind server signal (s.operateBound server act refused reply) := by
  simp only [operateBound]
  split
  · rename_i me _
    exact operate_settles (op me) ha h (hop me) (hr me) reply
  · exact idle_settles (assigned?_of_none ha) _

theorem register_settles (ha : kind.assignment? signal = none) (h : server.registry.WellFormed)
    (id : ProcessorId) (pid : UInt32) (port : UInt16) :
    s.Settles kind server signal (s.register server id pid port) := by
  simp only [register]
  split
  · refine operate_settles (.registerProcessor id pid port) ha h not_false ?_ _
    rfl
  · exact idle_settles (assigned?_of_none ha) _

theorem unregister_settles (ha : kind.assignment? signal = none) (h : server.registry.WellFormed)
    (id : ProcessorId) : s.Settles kind server signal (s.unregister server id) := by
  simp only [unregister]
  split
  · refine operate_settles (.unregisterProcessor id) ha h not_false ?_ _
    rfl
  · exact idle_settles (assigned?_of_none ha) _

/-- A new variable is one that the client is told of. -/
theorem share_settles (name : Name) (addressee offering : ProcessorId) :
    s.Settles kind server (.matchOrMake name addressee offering)
      (s.share server name addressee offering) := by
  have none : s.assigned? kind server (.matchOrMake name addressee offering) = none :=
    assigned?_of_none (by cases kind <;> rfl)
  simp only [share]
  split
  · rename_i me _
    split
    · constructor
      · rw [none]
        cases kind <;> rfl
      · intro key live
        obtain ⟨j, used, hkey⟩ := Registry.findVar_isSome_iff.1 live
        have old (same : ((server.registry.share name addressee me).registry.rows.get j).key =
            (server.registry.rows.get j).key) : (server.registry.findVar key).isSome :=
          Registry.findVar_isSome_iff.2
            ⟨j, by rwa [Row.Free, ← same], same.symm.trans hkey⟩
        rcases server.registry.share_key name addressee me with ⟨made, -, hv, keys⟩ | ⟨-, keys⟩
        · rcases keys j with new | same
          · obtain rfl : made = key := new.symm.trans hkey
            refine .inr ⟨name, addressee, offering, rfl, ?_⟩
            simp only [operate, hv]
          · exact .inl (old same)
        · exact .inl (old (keys j))
    · exact idle_settles none _
  · exact idle_settles none _

/-- A signal does to the values what it assigns, and forgets those of variables that are gone. A
variable that it makes is one that the client is told of. -/
theorem dispatch_settles (kind : ValueKind) (h : server.registry.WellFormed) {d : Dispatched}
    (hd : s.dispatch server signal = .ok d) : s.Settles kind server signal d := by
  cases signal <;> cases hd
  case assignValue key bytes => exact assignValue_settles key bytes
  case assignWswsVar key bytes => exact assignExchanged_settles key bytes
  case matchOrMake name addressee offering => exact share_settles name addressee offering
  case registerProcessor id _ _ pid port =>
    exact register_settles (by cases kind <;> rfl) h id pid port
  case unregisterProcessor id => exact unregister_settles (by cases kind <;> rfl) h id
  case makeOffer key => exact forward_settles (by cases kind <;> rfl) key .makeOffer
  case retractOffer key => exact forward_settles (by cases kind <;> rfl) key .retractOffer
  case retractVar key =>
    refine operateBound_settles (fun me => .retract key me.id) (by cases kind <;> rfl) h
      (fun _ => not_false) (fun _ => ?_) _ _
    rfl
  case setState key used _ =>
    refine operateBound_settles (fun me => .setState key me.id used) (by cases kind <;> rfl) h
      (fun _ => not_false) (fun _ => ?_) _ _
    rfl
  case getControl key =>
    have none : s.assigned? kind server (.getControl key) = none :=
      assigned?_of_none (by cases kind <;> rfl)
    simp only [operateBound]
    split
    · exact settles_of_prune rfl (by rw [none]; rfl)
    · exact idle_settles none _
  case setControl key control =>
    refine operateBound_settles (fun me => .setControl key me.id control) (by cases kind <;> rfl) h
      (fun _ => not_false) (fun _ => ?_) _ _
    rfl
  case mayUse key attempt =>
    refine operateBound_settles (fun me => .mayUse key me.id attempt) (by cases kind <;> rfl) h
      (fun _ => not_false) (fun _ => ?_) _ _
    rfl
  case maySet key attempt =>
    refine operateBound_settles (fun me => .maySet key me.id attempt) (by cases kind <;> rfl) h
      (fun _ => not_false) (fun _ => ?_) _ _
    rfl
  case clearAllEvents id =>
    refine operate_settles (.clearAllEvents id) (by cases kind <;> rfl) h not_false ?_ _
    rfl
  case addEvent key id event =>
    split
    · exact idle_settles (assigned?_of_none (by cases kind <;> rfl)) _
    · refine operate_settles (.addEvent event id key) (by cases kind <;> rfl) h not_false ?_ _
      rfl
  all_goals exact idle_settles (assigned?_of_none (by cases kind <;> rfl)) _

theorem assignment?_of_error {e : DispatchError} (hd : s.dispatch server signal = .error e) :
    kind.assignment? signal = none := by
  cases signal <;> cases kind <;> first | rfl | cases hd

/-- Every session is told of a value what is in the table. -/
theorem dispatch_request (kind : ValueKind) (key : Key) :
    (s.dispatch server (kind.request key)).map Dispatched.reply =
      .ok (some (kind.reply key ((kind.table server).get? key))) := by
  cases kind <;> rfl

/-! ### Ending -/

theorem finish_keys (h : server.registry.WellFormed) {key : Key}
    (live : ((s.finish server).server.registry.findVar key).isSome) :
    (server.registry.findVar key).isSome := by
  cases hm : s.me with
  | none => rwa [finish_of_unbound hm] at live
  | some me =>
    rw [finish_registry hm, Registry.leave_registry] at live
    have retracted := h.retractAllBy me.id
    have before : ((server.registry.retractAllBy me.id).registry.findVar key).isSome := by
      refine Registry.findVar_of_perform retracted (.unregisterProcessor me.id) not_false ?_
      simpa only [Registry.perform, Outcome.map] using live
    refine Registry.findVar_of_perform h (.retractAllBy me.id) not_false ?_
    simpa only [Registry.perform, Outcome.map] using before

theorem finish_get? {key : Key} (live : ((s.finish server).server.registry.findVar key).isSome) :
    (kind.table (s.finish server).server).get? key = (kind.table server).get? key := by
  cases hm : s.me with
  | none => rw [finish_of_unbound hm]
  | some me =>
    rw [finish_registry hm] at live
    have kept : kind.table (s.finish server).server =
        (kind.table server).sharedIn (server.registry.leave me.id).registry := by
      rw [finish_of_bound hm]
      cases kind <;> rfl
    rw [kept, ValueTable.get?_sharedIn live]

end Session

/-! ## Runs -/

namespace LiveServer

variable {l : LiveServer} {kind : ValueKind} {key : Key} {action : ServerAction}

/-- Whether there is a variable `key`. -/
def Has (l : LiveServer) (key : Key) : Prop := (l.server.registry.findVar key).isSome

/-- Whether an action makes the variable `key`: a session shares a variable and is told that it is
offered under this key. -/
def Creates (l : LiveServer) (key : Key) (action : ServerAction) : Prop :=
  ∃ n s name addressee offering, action = .dispatch n (.matchOrMake name addressee offering) ∧
    l.sessions n = some s ∧
    (s.share l.server name addressee offering).reply = some (.matchOrMakeResult key .offered)

/-- Whether there is a variable `key` before a run and after each action of it. -/
def HasThroughout (l : LiveServer) (key : Key) (actions : List ServerAction) : Prop :=
  Throughout step (·.Has key) l actions

/-- The bytes that an action assigns to the variable `key`. -/
def assigned? (l : LiveServer) (kind : ValueKind) (key : Key) : ServerAction → Option Bytes
  | .dispatch n signal =>
    (l.sessions n).bind fun s =>
      ((s.assigned? kind l.server signal).filter (·.1 = key)).map Prod.snd
  | _ => none

/-- All that is assigned to the variable `key` in a run, first to last. -/
def assignments (kind : ValueKind) (key : Key) : LiveServer → List ServerAction → List Bytes
  | _, [] => []
  | l, action :: actions =>
    (l.assigned? kind key action).toList ++ assignments kind key (l.step action) actions

/-! ### Actions -/

/-- The key of a new variable is one that no variable has. -/
theorem Creates.not_has (h : l.Creates key action) : ¬l.Has key := by
  obtain ⟨n, s, name, addressee, offering, rfl, -, hreply⟩ := h
  simp only [Session.share] at hreply
  split at hreply
  · rename_i me _
    split at hreply
    · have hv : (l.server.registry.share name addressee me).value = (key, .offered) := by
        simp only [Session.operate, Option.some.injEq, Signal.matchOrMakeResult.injEq] at hreply
        exact Prod.ext hreply.1 hreply.2
      rcases l.server.registry.share_key name addressee me with ⟨key', untaken, hv', -⟩ | ⟨none, -⟩
      · rw [hv] at hv'
        cases hv'
        rw [Has, untaken.2]
        exact Bool.false_ne_true
      · exact absurd hv (none key)
    · cases hreply
  · cases hreply

theorem Creates.assigned? (h : l.Creates key action) : l.assigned? kind key action = none := by
  obtain ⟨n, s, name, addressee, offering, rfl, hs, -⟩ := h
  have none : s.assigned? kind l.server (.matchOrMake name addressee offering) = none :=
    Session.assigned?_of_none (by cases kind <;> rfl)
  simp only [LiveServer.assigned?, hs, Option.bind_some, none]
  rfl

/-- What an action can do to a server: nothing, then it assigns nothing either, or what a session does
with a signal, or what a session does that ends. -/
theorem step_cases (l : LiveServer) (action : ServerAction) :
    ((l.step action).server = l.server ∧ ∀ kind key, l.assigned? kind key action = none) ∨
      (∃ n s signal d, action = .dispatch n signal ∧ l.sessions n = some s ∧
        s.dispatch l.server signal = .ok d ∧ (l.step action).server = d.server) ∨
      ∃ n s, action = .finish n ∧ l.sessions n = some s ∧
        (l.step action).server = (s.finish l.server).server := by
  cases action with
  | connect n =>
    refine .inl ⟨?_, fun _ _ => rfl⟩
    simp only [step]
    split <;> rfl
  | dispatch n signal =>
    cases hn : l.sessions n with
    | none => exact .inl ⟨by simp only [step, hn], fun _ _ => by simp only [assigned?, hn]; rfl⟩
    | some s =>
      cases hd : s.dispatch l.server signal with
      | error e =>
        refine .inl ⟨by rw [step_dispatch_error hn hd], fun kind key => ?_⟩
        simp only [assigned?, hn, Option.bind_some,
          Session.assigned?_of_none (Session.assignment?_of_error hd)]
        rfl
      | ok d => exact .inr (.inl ⟨n, s, signal, d, rfl, hn, hd, by rw [step_dispatch hn hd]; rfl⟩)
  | finish n =>
    cases hn : l.sessions n with
    | none => exact .inl ⟨by simp only [step, hn], fun _ _ => rfl⟩
    | some s => exact .inr (.inr ⟨n, s, rfl, hn, by rw [step_finish hn]; rfl⟩)

/-- A variable that is there after an action was there before, or the action has made it. -/
theorem step_has (h : l.Sound) (after : (l.step action).Has key) :
    l.Has key ∨ l.Creates key action := by
  rw [Has] at after
  rcases l.step_cases action with
    ⟨same, -⟩ | ⟨n, s, signal, d, rfl, hn, hd, hserver⟩ | ⟨n, s, rfl, -, hserver⟩
  · rw [same] at after
    exact .inl after
  · rw [hserver] at after
    have settles := Session.dispatch_settles .controlled h.registry hd
    rcases settles.keys key after with before | ⟨name, addressee, offering, rfl, hreply⟩
    · exact .inl before
    · cases hd
      exact .inr ⟨n, s, name, addressee, offering, rfl, hn, hreply⟩
  · rw [hserver] at after
    exact .inl (Session.finish_keys h.registry after)

/-- The value of a variable after an action is what the action assigns to it, or what it was. -/
theorem step_get? (h : l.Sound) (after : (l.step action).Has key) :
    (kind.table (l.step action).server).get? key =
      (l.assigned? kind key action).or ((kind.table l.server).get? key) := by
  rw [Has] at after
  rcases l.step_cases action with
    ⟨same, none⟩ | ⟨n, s, signal, d, rfl, hn, hd, hserver⟩ | ⟨n, s, rfl, -, hserver⟩
  · rw [same, none, Option.none_or]
  · rw [hserver] at after ⊢
    have assigned : l.assigned? kind key (.dispatch n signal) =
        ((s.assigned? kind l.server signal).filter (·.1 = key)).map Prod.snd := by
      simp only [assigned?, hn, Option.bind_some]
    calc (kind.table d.server).get? key
      _ = ((kind.table l.server).assign (s.assigned? kind l.server signal)).get? key := by
        rw [(Session.dispatch_settles kind h.registry hd).table, ValueTable.get?_sharedIn after]
      _ = (((s.assigned? kind l.server signal).filter (·.1 = key)).map Prod.snd).or
          ((kind.table l.server).get? key) := ValueTable.get?_assign ..
      _ = _ := by rw [assigned]
  · rw [hserver] at after ⊢
    exact Session.finish_get? after

/-! ### Whole runs -/

/-- While a variable is there its value is the last one assigned to it. -/
theorem run_get? (h : l.Sound) {actions : List ServerAction}
    (there : l.HasThroughout key actions) :
    (kind.table (l.run actions).server).get? key =
      (l.assignments kind key actions).getLast?.or ((kind.table l.server).get? key) := by
  induction actions generalizing l with
  | nil => rfl
  | cons action actions ih =>
    have since := (throughout_cons.1 there).2
    have last : (l.assignments kind key (action :: actions)).getLast? =
        ((l.step action).assignments kind key actions).getLast?.or (l.assigned? kind key action) := by
      rw [assignments, List.getLast?_append]
      cases l.assigned? kind key action <;> rfl
    calc (kind.table (l.run (action :: actions)).server).get? key
      _ = ((l.step action).assignments kind key actions).getLast?.or
          ((kind.table (l.step action).server).get? key) := ih (step_sound h action) since
      _ = ((l.step action).assignments kind key actions).getLast?.or
          ((l.assigned? kind key action).or ((kind.table l.server).get? key)) := by
        rw [step_get? h since.start]
      _ = _ := by rw [last, Option.or_assoc]

/-- A variable that is there after a run has been there throughout, or an action of the run has made it
and it has been there since. -/
theorem exists_creates (h : l.Sound) (actions : List ServerAction)
    (there : (l.run actions).Has key) :
    l.HasThroughout key actions ∨
      ∃ before action after, actions = before ++ action :: after ∧
        (l.run before).Creates key action ∧
        ((l.run before).step action).HasThroughout key after := by
  rcases Throughout.or_since step (·.Has key) there with
    throughout | ⟨before, action, after, rfl, absent, since⟩
  · exact .inl throughout
  · rcases step_has (run_sound h before) since.start with present | made
    · exact absurd present absent
    · exact .inr ⟨before, action, after, rfl, made, since⟩

theorem Sound.has_of_mem (h : l.Sound) :
    ∀ entry ∈ (kind.table l.server).entries, l.Has entry.1 := by
  cases kind with
  | controlled => exact h.pruned.values
  | exchanged => exact h.pruned.exchanged

theorem Sound.get?_absent (h : l.Sound) (absent : ¬l.Has key) :
    (kind.table l.server).get? key = none := by
  by_contra hn
  obtain ⟨entry, mem, rfl⟩ := ValueTable.exists_mem_of_get? hn
  exact absent (h.has_of_mem entry mem)

theorem not_has_start (key : Key) : ¬start.Has key := by
  intro there
  obtain ⟨i, used, -⟩ := Registry.findVar_isSome_iff.1 there
  exact used (by rw [start, Server.empty, Registry.rows_empty]; rfl)

/-- Values follow their variables. Whatever sessions do, in whatever order, all values kept are those
of variables. If there is a variable `key`, an action of the run has made it, when there was none, and
it has been there since and was not made again; whoever asks for its value is told what was assigned to
it last since then. If there is no variable `key`, or nothing has been assigned to it, there is no
value. -/
theorem values_follow_variables (actions : List ServerAction) (kind : ValueKind) (key : Key) :
    let l := start.run actions
    let told (value : Option Bytes) : Prop := ∀ s : Session,
      (s.dispatch l.server (kind.request key)).map Dispatched.reply =
        .ok (some (kind.reply key value))
    (∀ entry ∈ (kind.table l.server).entries, l.Has entry.1) ∧
      (l.Has key → ∃ before action after, actions = before ++ action :: after ∧
        ¬(start.run before).Has key ∧ (start.run before).Creates key action ∧
        let made := (start.run before).step action
        made.HasThroughout key after ∧
        (∀ between again later, after = between ++ again :: later →
          ¬(made.run between).Creates key again) ∧
        told (made.assignments kind key after).getLast?) ∧
      (¬l.Has key → told none) := by
  intro l told
  have sound : l.Sound := run_sound start_sound actions
  have tells {value : Option Bytes} (hv : (kind.table l.server).get? key = value) : told value :=
    fun s => hv ▸ Session.dispatch_request kind key
  refine ⟨sound.has_of_mem, fun there => ?_, fun gone => tells (sound.get?_absent gone)⟩
  rcases exists_creates start_sound actions there with
    throughout | ⟨before, action, after, rfl, creates, since⟩
  · exact absurd throughout.start (not_has_start key)
  have first : (start.run before).Sound := run_sound start_sound before
  refine ⟨before, action, after, rfl, creates.not_has, creates, since, ?_, tells ?_⟩
  · rintro between again later rfl recreates
    exact recreates.not_has (since.of_prefix (List.prefix_append ..))
  · have fresh : (kind.table ((start.run before).step action).server).get? key = none := by
      rw [step_get? first since.start, creates.assigned?, first.get?_absent creates.not_has]
      rfl
    have run : l = ((start.run before).step action).run after := run_append ..
    rw [run, run_get? (step_sound first action) since, fresh, Option.or_none]

example :
    let id := ProcessorId.single 1001
    let l := start.run [.connect 0, .dispatch 0 (.registerProcessor id false "" 10 0),
      .dispatch 0 (.matchOrMake (.ofText "LEVEL") .general id)]
    let key := (l.server.registry.rows.get 0).key
    let assigned := l.run [.dispatch 0 (.assignValue key [1]), .dispatch 0 (.assignValue key [2])]
    assigned.server.values.get? key = some [2] ∧
      (assigned.step (.dispatch 0 (.retractVar key))).server.values.get? key = none := by
  decide +kernel

end LiveServer

end SharedVariables
