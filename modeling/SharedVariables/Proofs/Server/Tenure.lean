import SharedVariables.Proofs.Run
import SharedVariables.Proofs.Server.Values

/-!
# Since when a side is held

A partner comes to a side of a variable in one way only: a session shares the variable, and what the row
keeps of the partner from then on, its identity, its process and its port, is what the session is bound to
at that moment (`step_holds`). A session in turn is bound to what it has registered last (`step_binds`). A
run that ends with a partner on a side can so be cut at the registration of the session and where the
session has shared the variable; the partner has been on a side of that row, under the same key, ever since
(`exists_tenure`).
-/

namespace SharedVariables

open Relation

/-- Whether a partner, its flags apart, is on a side of a row that holds the variable `key`. -/
def Row.HeldBy (row : Row) (key : Key) (p : Partner) : Prop :=
  row.key = key ∧ ∃ side, (row.partner side).Present ∧ (row.partner side).bare = p.bare

/-- Whether an operation may give somebody a side of a variable. -/
def Operation.Joins : Operation → Prop
  | matchOrMake .. | createOffer .. | matchPendingOffer .. => True
  | _ => False

namespace Row

variable {row row' : Row} {key : Key} {p : Partner} {op : Operation}

theorem not_heldBy_empty : ¬empty.HeldBy key p := fun ⟨_, side, present, _⟩ =>
  not_present_partner_empty side present

theorem HeldBy.of_bare (held : row'.HeldBy key p) (h : row'.bare = row.bare) : row.HeldBy key p := by
  obtain ⟨rfl, side, present, same⟩ := held
  exact ⟨(key_of_bare h).symm, side, (present_of_bare h side).1 present,
    (partner_of_bare h side).symm.trans same⟩

/-- Of two partners the one that remains has been there before. -/
theorem Left.heldBy (left : row.Left op row') (held : row'.HeldBy key p) : row.HeldBy key p := by
  obtain ⟨rfl, side, present, same⟩ := held
  obtain rfl := Sound.side_of_offered left.after present
  obtain ⟨gone, -, -, stays, -⟩ := left.departure
  obtain ⟨offering, accepting⟩ := coupling_eq_coupled_iff.1 left.before
  refine ⟨left.key.symm, gone.other, ?_, stays.symm.trans same⟩
  cases gone
  · exact accepting
  · exact offering

theorem Withdrawn.not_heldBy (withdrawn : row.Withdrawn op row') : ¬row'.HeldBy key p := by
  rw [withdrawn.after]
  exact not_heldBy_empty

theorem TakesOut.heldBy {which : Partner → Bool} (h : row.TakesOut which row')
    (held : row'.HeldBy key p) : row.HeldBy key p := by
  obtain ⟨side, -, -, left | withdrawn⟩ := h
  · exact left.heldBy held
  · exact absurd held withdrawn.not_heldBy

/-- Who accepts an offer joins the partner that has made it. -/
theorem HeldBy.of_accept {name : Name} {me : Partner}
    (held : ((row.accept name me).markEvent .offering).HeldBy key p) :
    row.HeldBy key p ∨ me.bare = p.bare := by
  have accepted : (row.accept name me).HeldBy key p := held.of_bare (bare_markEvent ..)
  obtain ⟨rfl, side, present, same⟩ := accepted
  cases side with
  | offering => exact .inl ⟨rfl, .offering, present, same⟩
  | accepting => exact .inr same

theorem HeldBy.of_pending {offered : Key} {name : Name} {addressee : ProcessorId} {me : Partner}
    {told : Bool} (held : (pending offered name addressee me told).HeldBy key p) :
    me.bare = p.bare := by
  obtain ⟨-, side, present, same⟩ := held
  cases side with
  | offering => exact same
  | accepting => exact absurd rfl present.1

end Row

namespace Registry

variable {r : Registry} {i : RowIndex} {key : Key} {p : Partner}

/-- Most operations give nobody a side. -/
theorem heldBy_of_perform (h : r.WellFormed) (op : Operation) (hop : ¬op.Joins)
    (held : ((r.perform op).registry.rows.get i).HeldBy key p) : (r.rows.get i).HeldBy key p := by
  cases hw : op.sweeps? with
  | some which =>
    have out := perform_takesOut h hw i
    generalize (r.perform op).registry.rows.get i = row' at out held
    induction out with
    | refl => exact held
    | tail _ last ih => exact ih (last.heldBy held)
  | none =>
    obtain ⟨fate, meets⟩ := (perform_changes h hw).meets i
    cases fate with
    | kept =>
      have kept : (r.rows.get i).Kept op _ := meets
      exact held.of_bare kept.bare
    | made =>
      have made : (r.rows.get i).Made r op _ := meets
      obtain ⟨name, addressee, p, rfl | rfl, -⟩ := made.offer <;> exact absurd trivial hop
    | taken =>
      have taken : (r.rows.get i).Taken op _ := meets
      obtain ⟨name, addressee, p, rfl | ⟨_, rfl⟩, -⟩ := taken.acceptance <;> exact absurd trivial hop
    | left =>
      have left : (r.rows.get i).Left op _ := meets
      exact left.heldBy held
    | withdrawn =>
      have withdrawn : (r.rows.get i).Withdrawn op _ := meets
      exact absurd held withdrawn.not_heldBy

/-- Sharing a variable gives nobody a side but the partner on whose behalf it is done. -/
theorem heldBy_of_share {name : Name} {addressee : ProcessorId} {me : Partner}
    (held : ((r.share name addressee me).registry.rows.get i).HeldBy key p) :
    (r.rows.get i).HeldBy key p ∨ me.bare = p.bare := by
  rcases share_row (r := r) name addressee me i with same | ⟨-, -, same⟩ | ⟨key', told, -, -, same⟩
  · rw [same] at held
    exact .inl held
  · rw [same] at held
    exact held.of_accept
  · rw [same] at held
    exact .inr held.of_pending

theorem heldBy_of_leave (h : r.WellFormed) {id : ProcessorId}
    (held : ((r.leave id).registry.rows.get i).HeldBy key p) : (r.rows.get i).HeldBy key p := by
  rw [leave_registry, unregisterProcessor_rows] at held
  refine heldBy_of_perform h (.retractAllBy id) not_false ?_
  simpa only [perform, Outcome.map] using held

end Registry

namespace Session

variable {s : Session} {server : Server} {signal : Signal} {d : Dispatched}

theorem operateBound_heldBy (h : server.registry.WellFormed) {α : Type} {act : Partner → Outcome α}
    {refused : α} {reply : α → Option Signal} {i : RowIndex} {key : Key} {p : Partner}
    (held : ((s.operateBound server act refused reply).server.registry.rows.get i).HeldBy key p)
    (op : Partner → Operation) (hop : ∀ me, ¬(op me).Joins)
    (done : ∀ me, (act me).registry = (server.registry.perform (op me)).registry) :
    (server.registry.rows.get i).HeldBy key p := by
  simp only [operateBound] at held
  split at held
  · rename_i me _
    refine Registry.heldBy_of_perform h (op me) (hop me) ?_
    rw [← done me]
    exact held
  · exact held

/-- A signal gives nobody a side of a variable, unless it shares one on behalf of the partner that the
session is bound to. -/
theorem dispatch_heldBy (h : server.registry.WellFormed) (hd : s.dispatch server signal = .ok d)
    {i : RowIndex} {key : Key} {p : Partner}
    (held : (d.server.registry.rows.get i).HeldBy key p) :
    (server.registry.rows.get i).HeldBy key p ∨
      ∃ me name addressee, s.me = some me ∧ signal = .matchOrMake name addressee me.id ∧
        me.bare = p.bare := by
  cases signal <;> cases hd
  case registerProcessor id evconn progname pid port =>
    simp only [register] at held
    split at held
    · exact .inl (Registry.heldBy_of_perform h (.registerProcessor id pid port) not_false held)
    · exact .inl held
  case unregisterProcessor id =>
    simp only [unregister] at held
    split at held
    · exact .inl (Registry.heldBy_of_perform h (.unregisterProcessor id) not_false held)
    · exact .inl held
  case matchOrMake name addressee offering =>
    simp only [share] at held
    split at held
    · rename_i me hme
      split at held
      · rename_i hid
        subst hid
        exact (Registry.heldBy_of_share held).imp_right fun same => ⟨me, name, addressee, hme, rfl, same⟩
      · exact .inl held
    · exact .inl held
  case makeOffer | retractOffer =>
    simp only [forward] at held
    split at held <;> exact .inl held
  case retractVar key => exact .inl (operateBound_heldBy h held (.retract key ·.id) (fun _ => not_false) fun _ => rfl)
  case setState key used _ =>
    exact .inl (operateBound_heldBy h held (.setState key ·.id used) (fun _ => not_false) fun _ => rfl)
  case getControl key =>
    simp only [operateBound] at held
    split at held <;> exact .inl held
  case setControl key control =>
    exact .inl (operateBound_heldBy h held (.setControl key ·.id control) (fun _ => not_false) fun _ => rfl)
  case mayUse key attempt =>
    exact .inl (operateBound_heldBy h held (.mayUse key ·.id attempt) (fun _ => not_false) fun _ => rfl)
  case maySet key attempt =>
    exact .inl (operateBound_heldBy h held (.maySet key ·.id attempt) (fun _ => not_false) fun _ => rfl)
  case assignValue key bytes =>
    simp only [assignValue] at held
    split at held <;> exact .inl held
  case assignWswsVar key bytes =>
    simp only [assignExchanged] at held
    split at held <;> exact .inl held
  case clearAllEvents id =>
    exact .inl (Registry.heldBy_of_perform h (.clearAllEvents id) not_false held)
  case addEvent key id event =>
    split at held
    · exact .inl held
    · exact .inl (Registry.heldBy_of_perform h (.addEvent event id key) not_false held)
  all_goals exact .inl held

theorem operateBound_session {α : Type} (act : Partner → Outcome α) (refused : α)
    (reply : α → Option Signal) : (s.operateBound server act refused reply).session = s := by
  simp only [operateBound]
  split <;> rfl

theorem forward_session (key : Key) (kind : NoticeKind) :
    (s.forward server key kind).session = s := by
  simp only [forward]
  split <;> rfl

/-- A session stays as it is, unless it registers its processor. -/
theorem dispatch_session (hd : s.dispatch server signal = .ok d) :
    d.session = s ∨ ∃ id evconn progname pid port,
      signal = .registerProcessor id evconn progname pid port ∧
        d.session = ⟨some (.ofProcess id pid port)⟩ := by
  cases signal <;> cases hd
  case registerProcessor id evconn progname pid port =>
    simp only [register]
    split
    · cases (server.registry.registerProcessor id pid port).value with
      | true => exact .inr ⟨id, evconn, progname, pid, port, rfl, rfl⟩
      | false => exact .inl rfl
    · exact .inl rfl
  case matchOrMake name addressee offering =>
    simp only [share]
    split
    · split <;> exact .inl rfl
    · exact .inl rfl
  case unregisterProcessor id =>
    simp only [unregister]
    split <;> exact .inl rfl
  case assignValue key bytes =>
    simp only [assignValue]
    split <;> exact .inl rfl
  case assignWswsVar key bytes =>
    simp only [assignExchanged]
    split <;> exact .inl rfl
  case makeOffer | retractOffer => exact .inl (forward_session ..)
  case retractVar | setState | getControl | setControl | mayUse | maySet =>
    exact .inl (operateBound_session ..)
  case addEvent => split <;> exact .inl rfl
  all_goals exact .inl rfl

end Session

namespace LiveServer

variable {l : LiveServer} {n : Nat} {i : RowIndex} {key : Key} {p : Partner} {action : ServerAction}

/-- Whether a partner is on a side of the variable `key` in the row at `i`. -/
def Holds (l : LiveServer) (i : RowIndex) (key : Key) (p : Partner) : Prop :=
  (l.server.registry.rows.get i).HeldBy key p

/-- Whether a session is alive and bound to a partner. -/
def Binds (l : LiveServer) (n : Nat) (p : Partner) : Prop := l.sessions n = some ⟨some p⟩

/-! ## One step -/

theorem step_holds (h : l.Sound) (after : (l.step action).Holds i key p) :
    l.Holds i key p ∨ ∃ n me name addressee, l.Binds n me ∧
      action = .dispatch n (.matchOrMake name addressee me.id) ∧ me.bare = p.bare := by
  rw [Holds] at after
  rcases l.step_cases action with
    ⟨same, -⟩ | ⟨n, ⟨me⟩, signal, d, rfl, hn, hd, hserver⟩ | ⟨n, s, rfl, -, hserver⟩
  · rw [same] at after
    exact .inl after
  · rw [hserver] at after
    rcases Session.dispatch_heldBy h.registry hd after with before | ⟨me, name, addressee, rfl, rfl, hp⟩
    · exact .inl before
    · exact .inr ⟨n, me, name, addressee, hn, rfl, hp⟩
  · rw [hserver] at after
    cases hm : s.me with
    | none =>
      rw [Session.finish_of_unbound hm] at after
      exact .inl after
    | some me =>
      rw [Session.finish_registry hm] at after
      exact .inl (Registry.heldBy_of_leave h.registry after)

theorem binds_update {m : Nat} {session : Option Session} {server : Server} :
    (l.update m session server).Binds n p ↔
      n = m ∧ session = some ⟨some p⟩ ∨ n ≠ m ∧ l.Binds n p := by
  by_cases hm : n = m
  · subst hm
    simp only [Binds, update, Function.update_self, true_and, ne_eq, not_true_eq_false, false_and,
      or_false]
  · simp only [Binds, update, Function.update_of_ne hm, hm, false_and, ne_eq, not_false_eq_true,
      true_and, false_or]

theorem step_binds (after : (l.step action).Binds n p) :
    l.Binds n p ∨ ∃ evconn progname,
      action = .dispatch n (.registerProcessor p.id evconn progname p.pid p.port) ∧ p.bare = p := by
  cases action with
  | connect m =>
    simp only [step] at after
    split at after
    · rcases binds_update.1 after with ⟨-, new⟩ | ⟨-, before⟩
      · cases new
      · exact .inl before
    · exact .inl after
  | dispatch m signal =>
    cases hs : l.sessions m with
    | none =>
      simp only [step, hs] at after
      exact .inl after
    | some s =>
      cases hd : s.dispatch l.server signal with
      | error e =>
        rw [step_dispatch_error hs hd] at after
        exact .inl after
      | ok d =>
        rw [step_dispatch hs hd] at after
        rcases binds_update.1 after with ⟨rfl, bound⟩ | ⟨-, before⟩
        · have bound : d.session = ⟨some p⟩ := Option.some.inj bound
          rcases Session.dispatch_session hd with same | ⟨id, evconn, progname, pid, port, rfl, new⟩
          · rw [Binds, hs, ← same, bound]
            exact .inl rfl
          · rw [bound] at new
            cases new
            exact .inr ⟨evconn, progname, rfl, rfl⟩
        · exact .inl before
  | finish m =>
    cases hs : l.sessions m with
    | none =>
      simp only [step, hs] at after
      exact .inl after
    | some s =>
      rw [step_finish hs] at after
      rcases binds_update.1 after with ⟨-, gone⟩ | ⟨-, before⟩
      · cases gone
      · exact .inl before

/-! ## A whole run -/

/-- A session that is bound after a run has registered its processor in the run, and has been bound to it
ever since. -/
theorem exists_registration {actions : List ServerAction} (bound : (start.run actions).Binds n p) :
    ∃ before evconn progname after, p.bare = p ∧
      actions =
        before ++ .dispatch n (.registerProcessor p.id evconn progname p.pid p.port) :: after ∧
      Throughout step (·.Binds n p) ((start.run before).step
        (.dispatch n (.registerProcessor p.id evconn progname p.pid p.port))) after := by
  rcases Throughout.or_since step (·.Binds n p) bound with
    throughout | ⟨before, action, after, rfl, unbound, since⟩
  · have bound : (none : Option Session) = some ⟨some p⟩ := throughout.start
    cases bound
  · rcases step_binds since.start with already | ⟨evconn, progname, rfl, hp⟩
    · exact absurd already unbound
    · exact ⟨before, evconn, progname, after, hp, rfl, since⟩

/-- A partner that is on a side after a run has come there when a session that was bound to it shared the
variable, and has been there ever since. -/
theorem exists_share {actions : List ServerAction} (held : (start.run actions).Holds i key p) :
    ∃ before n me name addressee after, (start.run before).Binds n me ∧ me.bare = p.bare ∧
      actions = before ++ .dispatch n (.matchOrMake name addressee me.id) :: after ∧
      Throughout step (·.Holds i key p)
        ((start.run before).step (.dispatch n (.matchOrMake name addressee me.id))) after := by
  rcases Throughout.or_since step (·.Holds i key p) held with
    throughout | ⟨before, action, after, rfl, absent, since⟩
  · have empty : (Registry.empty.rows.get i).HeldBy key p := throughout.start
    rw [Registry.rows_empty] at empty
    exact absurd empty Row.not_heldBy_empty
  · rcases step_holds (run_sound start_sound before) since.start with
      already | ⟨n, me, name, addressee, bound, rfl, hp⟩
    · exact absurd already absent
    · exact ⟨before, n, me, name, addressee, after, bound, hp, rfl, since⟩

/-- The history of a partner on a side of the variable `key` in the row at `i`: a session has registered the
partner's identity with its process and its port; it has not registered anything else until it shared the
variable; and the partner has been on a side of the row since then. -/
def Tenure (actions : List ServerAction) (i : RowIndex) (key : Key) (p : Partner) : Prop :=
  ∃ n evconn progname name addressee registering sharing holding,
    let register : ServerAction :=
      .dispatch n (.registerProcessor p.id evconn progname p.pid p.port)
    let share : ServerAction := .dispatch n (.matchOrMake name addressee p.id)
    actions = (registering ++ register :: sharing) ++ share :: holding ∧
      Throughout step (·.Binds n p.bare) (start.run (registering ++ [register])) sharing ∧
      Throughout step (·.Holds i key p)
        (start.run ((registering ++ register :: sharing) ++ [share])) holding

theorem exists_tenure {actions : List ServerAction} (held : (start.run actions).Holds i key p) :
    Tenure actions i key p := by
  obtain ⟨before, n, me, name, addressee, holding, bound, hp, rfl, since⟩ := exists_share held
  obtain ⟨registering, evconn, progname, sharing, bare, rfl, throughout⟩ := exists_registration bound
  obtain rfl : me = p.bare := bare.symm.trans hp
  refine ⟨n, evconn, progname, name, addressee, registering, sharing, holding, rfl, ?_, ?_⟩
  · rw [run_append]
    exact throughout
  · rw [run_append]
    exact since

/-- The port on a side has been registered for the processor there. -/
theorem Tenure.registered {actions : List ServerAction} (h : Tenure actions i key p) :
    ∃ n evconn progname,
      .dispatch n (.registerProcessor p.id evconn progname p.pid p.port) ∈ actions := by
  obtain ⟨n, evconn, progname, name, addressee, registering, sharing, holding, rfl, -, -⟩ := h
  exact ⟨n, evconn, progname, List.mem_append_left _ (List.mem_append_right _ List.mem_cons_self)⟩

end LiveServer

end SharedVariables
