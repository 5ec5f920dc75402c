import SharedVariables.Proofs.Registry.Announcing
import SharedVariables.Proofs.Registry.Sharing

/-!
# Whom a notification is for

A notification is sent to a port and does not say whose port that is. `WakeUp` says whom a notification is
for, the partner on one side of a row or a processor as such, and `Registry.letter` is what is sent then:
to the port that the side carries or, if it carries none, to the port that its processor has registered.
`Registry.Addresses` says that the notifications of an operation, those about new offers apart, are letters
of wake-ups of a given kind, in the same order and none of them twice. There is one theorem for each
operation that sends any, which says whom it wakes up; for a processor that leaves, the rows are gone
through one after the other (`leave_addresses`).
-/

namespace SharedVariables

/-- Whom a notification is for: the partner on one side of a row, or a processor as such. -/
inductive Recipient where
  | partner (i : RowIndex) (side : Side)
  | processor (id : ProcessorId)
deriving DecidableEq

/-- A notification together with whom it is for. -/
structure WakeUp where
  recipient : Recipient
  kind : NoticeKind
  key : Key
deriving DecidableEq

/-- A side that nobody occupies carries no port. -/
theorem Row.Sound.port_of_absent {row : Row} (h : row.Sound) {side : Side}
    (absent : ¬(row.partner side).Present) : (row.partner side).port = 0 := by
  by_cases free : row.Free
  · rw [h.free free]
    cases side <;> rfl
  · have offerer := h.used free
    cases side with
    | offering => exact absurd offerer absent
    | accepting => exact (h.offered (coupling_eq_offered_iff.2 ⟨offerer, absent⟩)).2.1

namespace Registry

variable {r r' : Registry} {i : RowIndex} {side : Side} {id : ProcessorId} {key : Key}
  {event : Event} {w : WakeUp} {P Q : WakeUp → Prop} {notices notices' : List Notice}

/-- A recipient as the registry knows it. -/
def whom (r : Registry) : Recipient → Partner
  | .partner i side => (r.rows.get i).partner side
  | .processor id => .target id

/-- A wake-up as it is sent: to the port that the recipient carries or, if it carries none, to the port
that it has registered. -/
def letter (r : Registry) (w : WakeUp) : Notice :=
  let p := r.whom w.recipient
  ⟨if p.port = 0 then r.udpPort p.id else p.port, w.kind, w.key⟩

theorem letter_eq (w : WakeUp) :
    r.letter w = ⟨r.noticePort (r.whom w.recipient), w.kind, w.key⟩ := rfl

theorem noticePort_of_bare {p p' : Partner} (h : p'.bare = p.bare) :
    r.noticePort p' = r.noticePort p := by
  have port : p'.port = p.port := (congrArg Partner.port h :)
  have id : p'.id = p.id := (congrArg Partner.id h :)
  simp only [noticePort, port, id]

/-- Whether notifications, those about new offers apart, are the letters of wake-ups that satisfy `P`, in
the same order and none of them twice. -/
def Addresses (r : Registry) (P : WakeUp → Prop) (notices : List Notice) : Prop :=
  ∃ wakeUps : List WakeUp, wakeUps.Nodup ∧ (∀ w ∈ wakeUps, P w) ∧
    notices.filter (·.kind ≠ .makeOffer) = wakeUps.map r.letter

namespace Addresses

theorem of_offers (h : ∀ notice ∈ notices, notice.kind = .makeOffer) : r.Addresses P notices := by
  refine ⟨[], .nil, fun _ hw => absurd hw List.not_mem_nil, ?_⟩
  refine List.filter_eq_nil_iff.2 fun notice hn => ?_
  rw [h notice hn]
  decide

theorem nil : r.Addresses P [] := of_offers fun _ hn => absurd hn List.not_mem_nil

theorem mono (h : r.Addresses P notices) (imp : ∀ w, P w → Q w) : r.Addresses Q notices := by
  obtain ⟨wakeUps, once, all, sent⟩ := h
  exact ⟨wakeUps, once, fun w hw => imp w (all w hw), sent⟩

theorem append (h : r.Addresses P notices) (h' : r.Addresses Q notices') (apart : ∀ w, P w → ¬Q w) :
    r.Addresses (fun w => P w ∨ Q w) (notices ++ notices') := by
  obtain ⟨wakeUps, once, all, sent⟩ := h
  obtain ⟨wakeUps', once', all', sent'⟩ := h'
  refine ⟨wakeUps ++ wakeUps', ?_, fun w hw => ?_, ?_⟩
  · refine once.append once' fun w hw hw' => ?_
    exact apart w (all w hw) (all' w hw')
  · exact (List.mem_append.1 hw).imp (all w) (all' w)
  · rw [List.filter_append, List.map_append, sent, sent']

/-- A letter depends on whom the recipient is, flags apart, and on the registered ports. -/
theorem of_grows (h : r'.Addresses P notices) (grows : r.Grows r')
    (same : ∀ w, P w → (r'.whom w.recipient).bare = (r.whom w.recipient).bare) :
    r.Addresses P notices := by
  obtain ⟨wakeUps, once, all, sent⟩ := h
  refine ⟨wakeUps, once, all, sent.trans (List.map_congr_left fun w hw => ?_)⟩
  rw [letter_eq, letter_eq, grows.noticePort, noticePort_of_bare (same w (all w hw))]

end Addresses

/-- What is sent to some port, if it is sent at all, is a letter if the port is the right one. -/
theorem addresses_notify {port : UInt16} (h : port ≠ 0 → r.noticePort (r.whom w.recipient) = port)
    (about : w.kind ≠ .makeOffer) : r.Addresses (· = w) (notify port w.kind w.key) := by
  rw [notify]
  split
  · exact .nil
  · rename_i some
    refine ⟨[w], List.nodup_singleton w, fun _ hw => List.mem_singleton.1 hw, ?_⟩
    rw [List.filter_cons_of_pos (by simpa using about), List.filter_nil, List.map_singleton, letter_eq,
      h some]

/-- An event is announced to the side that it is fired for. -/
theorem fireEvent_addresses (grows : r.Grows r') (about : w.kind = .newEvent event)
    (key : w.key = (r'.rows.get i).key)
    (whom : (r.whom w.recipient).bare = ((r'.rows.get i).partner side).bare) :
    r.Addresses (· = w) (r'.fireEvent i side event).notices := by
  simp only [fireEvent]
  split
  · rw [← about, ← key]
    refine addresses_notify (fun _ => ?_) (by rw [about]; exact NoticeKind.noConfusion)
    rw [noticePort_of_bare whom, grows.noticePort]
  · exact .nil

/-! ## Accesses -/

/-- Whether a wake-up is for the other partner of the variable `key`, as the processor `id` sees it. -/
def ToPeer (r : Registry) (key : Key) (id : ProcessorId) (kind : NoticeKind) (w : WakeUp) : Prop :=
  ∃ i side, r.callerRow key id = some (i, side) ∧ w = ⟨.partner i side.other, kind, key⟩

/-- An event that is fired for the other partner, after a change to the row that leaves both partners as
they are but for their flags. -/
theorem fireEvent_toPeer (event : Event) (hc : r.callerRow key id = some (i, side)) {f : Row → Row}
    (bare : (f (r.rows.get i)).bare = (r.rows.get i).bare) :
    r.Addresses (r.ToPeer key id (.newEvent event))
      ((r.modifyRow i f).fireEvent i side.other event).notices := by
  have changed : (r.modifyRow i f).rows.get i = f (r.rows.get i) := modifyRow_self ..
  have told : r.Addresses (· = ⟨.partner i side.other, .newEvent event, key⟩)
      ((r.modifyRow i f).fireEvent i side.other event).notices := by
    refine fireEvent_addresses (.of_slots rfl) rfl ?_ ?_
    · rw [changed, Row.key_of_bare bare]
      exact (findVar_eq_some (callerRow_eq_some hc).1).2.symm
    · rw [changed, Row.partner_of_bare bare]
      rfl
  exact told.mono fun w hw => ⟨i, side, hc, hw⟩

theorem setState_addresses (used : Bool) :
    r.Addresses (r.ToPeer key id (.newEvent (if used then .useSuccess else .setSuccess)))
      (r.setState key id used).notices := by
  cases hc : r.callerRow key id with
  | none =>
    simp only [setState, hc]
    exact .nil
  | some at' =>
    obtain ⟨i, side⟩ := at'
    simp only [setState, hc]
    cases used with
    | true =>
      simp only [↓reduceIte]
      split
      · exact .nil
      split
      · exact fireEvent_toPeer _ hc (Row.bare_withState ..)
      · exact .nil
    | false =>
      simp only [Bool.false_eq_true, ↓reduceIte]
      split
      · exact fireEvent_toPeer _ hc (Row.bare_withState ..)
      · exact .nil

theorem mayAccess_addresses (attempt : Int32) (byMe : Control) (failed : Event) :
    r.Addresses (r.ToPeer key id (.newEvent failed))
      (r.mayAccess key id attempt byMe failed).notices := by
  simp only [mayAccess]
  split
  · exact .nil
  rename_i i side hc
  split
  · exact .nil
  split
  · have told := fireEvent_toPeer failed hc (f := fun row => row) rfl
    rwa [modifyRow, put_get] at told
  · exact .nil

theorem setControl_addresses (control : Control) :
    r.Addresses (r.ToPeer key id (.newEvent .accessControlChanged))
      (r.setControl key id control).notices := by
  simp only [setControl]
  split
  · exact .nil
  rename_i i side hc
  simp only [Outcome.andThen, unchanged, List.append_nil]
  split
  · exact fireEvent_toPeer _ hc (Row.bare_withControl ..)
  · exact .nil

/-- Whether a wake-up is the one of an event for the processor `id`: for its side of the variable `key`,
or, if it has none, for the processor as such. -/
def ForEvent (r : Registry) (event : Event) (id : ProcessorId) (key : Key) (w : WakeUp) : Prop :=
  (∃ i side, r.callerRow key id = some (i, side) ∧ w = ⟨.partner i side, .newEvent event, key⟩) ∨
    r.callerRow key id = none ∧ w = ⟨.processor id, .newEvent event, key⟩

theorem addEvent_addresses (event : Event) (id : ProcessorId) (key : Key) :
    r.Addresses (r.ForEvent event id key) (r.addEvent event id key).notices := by
  cases hc : r.callerRow key id with
  | some at' =>
    obtain ⟨i, side⟩ := at'
    rw [addEvent_of_callerRow hc]
    refine (fireEvent_addresses (w := ⟨.partner i side, .newEvent event, key⟩) (.refl r) rfl
      (findVar_eq_some (callerRow_eq_some hc).1).2.symm rfl).mono fun w hw => ?_
    exact .inl ⟨i, side, hc, hw⟩
  | none =>
    rw [addEvent_of_stranger hc]
    refine (addresses_notify (w := ⟨.processor id, .newEvent event, key⟩) (fun _ => rfl)
      NoticeKind.noConfusion).mono fun w hw => ?_
    exact .inr ⟨hc, hw⟩

/-! ## Offers -/

/-- Whether a wake-up tells the partner that made the first offer that suits a request that the offer has
been accepted. -/
def ToOfferer (r : Registry) (name : Name) (addressee requester : ProcessorId) (w : WakeUp) : Prop :=
  ∃ i, IsFirst (fun j => (r.rows.get j).Suits name addressee requester) i ∧
    w.recipient = .partner i .offering ∧ w.key = (r.rows.get i).key ∧
    (w.kind = .newEvent .offerMatched ∨ w.kind = .offerMatched)

theorem matchPendingOffer_addresses (name : Name) (addressee : ProcessorId) {p : Partner}
    (hp : p.Present) :
    r.Addresses (r.ToOfferer name addressee p.id)
      (r.matchPendingOffer name addressee p).notices := by
  simp only [matchPendingOffer]
  split
  · exact .nil
  rename_i i hi
  have suits (j : RowIndex) : (r.rows.get j).isCompletedBy name addressee p.id = true ↔
      (r.rows.get j).Suits name addressee p.id := Row.isCompletedBy_iff_suits fun _ => hp.not_isGeneral
  have first := isFirst_of_first? suits hi
  have changed : (r.modifyRow i (·.accept name p)).rows.get i = (r.rows.get i).accept name p :=
    modifyRow_self ..
  have event : r.Addresses (· = ⟨.partner i .offering, .newEvent .offerMatched, (r.rows.get i).key⟩)
      ((r.modifyRow i (·.accept name p)).fireEvent i .offering .offerMatched).notices := by
    refine fireEvent_addresses (.of_slots rfl) rfl ?_ ?_ <;> rw [changed] <;> rfl
  have offer : r.Addresses (· = ⟨.partner i .offering, .offerMatched, (r.rows.get i).key⟩)
      (notify (r.rows.get i).offering.port .offerMatched (r.rows.get i).key) :=
    addresses_notify (w := ⟨.partner i .offering, .offerMatched, (r.rows.get i).key⟩)
      (fun some => if_neg some) NoticeKind.noConfusion
  refine (event.append offer ?_).mono ?_
  · rintro w rfl hw
    cases hw
  · rintro w (rfl | rfl)
    · exact ⟨i, first, rfl, rfl, .inl rfl⟩
    · exact ⟨i, first, rfl, rfl, .inr rfl⟩

/-- A new offer is announced as such, and in no other way. -/
theorem createOffer_offers (name : Name) (addressee : ProcessorId) (p : Partner) :
    ∀ notice ∈ (r.createOffer name addressee p).notices, notice.kind = .makeOffer := by
  intro notice hn
  obtain ⟨port, key, sent⟩ := mem_notify_of_createOffer hn
  exact kind_of_mem_notify sent

theorem matchOrMake_addresses (name : Name) (addressee : ProcessorId) (p : Partner) :
    r.Addresses (r.ToOfferer name addressee p.id) (r.matchOrMake name addressee p).notices := by
  simp only [matchOrMake]
  split
  · rename_i hp
    have matched := matchPendingOffer_addresses (r := r) name addressee hp
    simp only [Outcome.andThen]
    split
    · simpa only [unchanged, List.append_nil] using matched
    · have none : r.Addresses (fun _ => False) ((r.matchPendingOffer name addressee p).registry.createOffer
          name addressee p).notices := .of_offers (createOffer_offers name addressee p)
      simp only [unchanged, List.append_nil]
      exact (matched.append none fun _ _ => not_false).mono fun w hw => hw.resolve_right not_false
  · exact .nil

/-! ## Retracts -/

/-- Whether a wake-up tells of the retract of the processor `id` from the row at `i`: the other partner is
given an event, and both sides are told of the retract. -/
def TellsOfRetract (r : Registry) (i : RowIndex) (id : ProcessorId) (w : WakeUp) : Prop :=
  ∃ side, (r.rows.get i).sideOf id = some side ∧ w.key = (r.rows.get i).key ∧
    (w.recipient = .partner i side.other ∧ w.kind = .newEvent .offerRetracted ∨
      (∃ side', w.recipient = .partner i side') ∧ w.kind = .retractOffer)

/-- A present partner is told of a retract at its own port, and a mere target at the one it registered. -/
theorem noticePort_of_retractPort {p : Partner} (absent : ¬p.Present → p.port = 0)
    (some : r.retractPort p ≠ 0) : r.noticePort p = r.retractPort p := by
  simp only [retractPort] at some ⊢
  split at some
  · rename_i present
    rw [if_pos present, noticePort, if_neg some]
  · rename_i target
    split at some
    · exact absurd rfl some
    · rename_i specific
      rw [if_neg target, if_neg specific, noticePort, if_pos (absent target)]

theorem retractPort_addresses (h : (r.rows.get i).Sound) (side : Side) (key : Key) :
    r.Addresses (· = ⟨.partner i side, .retractOffer, key⟩)
      (notify (r.retractPort ((r.rows.get i).partner side)) .retractOffer key) :=
  addresses_notify (w := ⟨.partner i side, .retractOffer, key⟩)
    (noticePort_of_retractPort h.port_of_absent) NoticeKind.noConfusion

theorem retractSide_addresses (h : r.WellFormed) (hs : (r.rows.get i).sideOf id = some side) :
    r.Addresses (r.TellsOfRetract i id) (r.retractSide i side).notices := by
  have sound := h.rows.sound i
  have changed : (r.modifyRow i (·.leave side)).rows.get i = (r.rows.get i).leave side :=
    modifyRow_self ..
  let peer : WakeUp := ⟨.partner i side.other, .newEvent .offerRetracted, (r.rows.get i).key⟩
  have event : r.Addresses (· = peer)
      (if ((r.rows.get i).leave side).Free then (r.modifyRow i (·.leave side)).unchanged ()
        else (r.modifyRow i (·.leave side)).fireEvent i .offering .offerRetracted).notices := by
    split
    · exact .nil
    rename_i used
    rcases sound.leave_cases hs with ⟨-, gone⟩ | ⟨-, -, left⟩
    · rw [gone] at used
      exact absurd rfl used
    · refine fireEvent_addresses (.of_slots rfl) rfl ?_ ?_ <;> rw [changed, left]
      rfl
  have offering := retractPort_addresses sound .offering (r.rows.get i).key
  have accepting := retractPort_addresses sound .accepting (r.rows.get i).key
  simp only [retractSide, changed]
  refine (event.append (offering.append accepting ?_) ?_).mono ?_
  · rintro w rfl hw
    cases hw
  · rintro w rfl (hw | hw) <;> exact NoticeKind.noConfusion (congrArg WakeUp.kind hw)
  · rintro w (rfl | rfl | rfl)
    · exact ⟨side, hs, rfl, .inl ⟨rfl, rfl⟩⟩
    · exact ⟨side, hs, rfl, .inr ⟨⟨.offering, rfl⟩, rfl⟩⟩
    · exact ⟨side, hs, rfl, .inr ⟨⟨.accepting, rfl⟩, rfl⟩⟩

theorem retract_addresses (h : r.WellFormed) (key : Key) (id : ProcessorId) :
    r.Addresses (fun w => ∃ i, r.findVar key = some i ∧ r.TellsOfRetract i id w)
      (r.retract key id).notices := by
  simp only [retract]
  split
  · exact .nil
  rename_i i hi
  split
  · exact .nil
  rename_i side hs
  exact (retractSide_addresses h hs).mono fun w hw => ⟨i, hi, hw⟩

theorem unregisterProcessor_notices (id : ProcessorId) :
    (r.unregisterProcessor id).notices = [] := by
  simp only [unregisterProcessor]
  split <;> rfl

/-- A wake-up tells of a retract from one row only. -/
theorem TellsOfRetract.row_unique {j : RowIndex} {id' : ProcessorId} (h : r.TellsOfRetract i id w)
    (h' : r.TellsOfRetract j id' w) : i = j := by
  have row {j : RowIndex} {id' : ProcessorId} (h : r.TellsOfRetract j id' w) :
      ∃ side, w.recipient = .partner j side := by
    obtain ⟨side, -, -, ⟨hw, -⟩ | ⟨told, -⟩⟩ := h
    · exact ⟨side.other, hw⟩
    · exact told
  obtain ⟨side, hw⟩ := row h
  obtain ⟨side', hw'⟩ := row h'
  exact (Recipient.partner.inj (hw.symm.trans hw')).1

/-- A row that is still as it was is left as in a single retract. -/
theorem retractWhile_addresses (h : r'.WellFormed) (grows : r.Grows r')
    (same : r'.rows.get i = r.rows.get i) :
    r.Addresses (r.TellsOfRetract i id)
      (r'.retractWhile (fun row => (row.sideOf id).map fun _ => id) i 1).notices := by
  simp only [retractWhile]
  cases hs : (r'.rows.get i).sideOf id with
  | none => exact .nil
  | some side =>
    have used := (h.rows.sound i).not_free_of_present (Row.sideOf_eq_some hs).1
    have told := retractSide_addresses h hs
    simp only [Option.map_some, Outcome.andThen, Outcome.map, unchanged,
      retract_eq_retractSide (h.findVar_key used) hs, List.append_nil]
    refine (told.of_grows grows ?_).mono ?_
    · rintro w ⟨side, -, -, ⟨hw, -⟩ | ⟨⟨side', hw⟩, -⟩⟩ <;> rw [hw] <;> simp only [whom, same]
    · rintro w ⟨side, hside, hkey, hw⟩
      rw [same] at hside hkey
      exact ⟨side, hside, hkey, hw⟩

/-- Who leaves all its variables tells of each retract as of a single one. On the way, the rows that are
still to come are as they were, and what has been sent is about the others. -/
theorem leave_addresses (h : r.WellFormed) (id : ProcessorId) :
    r.Addresses (fun w => ∃ i, r.TellsOfRetract i id w) (r.leave id).notices := by
  let step (i : RowIndex) : Registry → Outcome Nat :=
    retractWhile (fun row => (row.sideOf id).map fun _ => id) i 1
  let M (rest : List RowIndex) (o : Outcome Nat) : Prop := o.registry.WellFormed ∧ r.Grows o.registry ∧
    (∀ i ∈ rest, o.registry.rows.get i = r.rows.get i) ∧
      r.Addresses (fun w => ∃ i, i ∉ rest ∧ r.TellsOfRetract i id w) o.notices
  have all : M [] (sumRows step r) := by
    refine sumRows_induction ⟨h, .refl r, fun _ _ => rfl, .nil⟩ ?_
    intro i rest o hi ⟨sound, grows, same, sent⟩
    have turn : r.Addresses (r.TellsOfRetract i id) (step i o.registry).notices :=
      retractWhile_addresses sound grows (same i List.mem_cons_self)
    refine ⟨sound.retractWhile _ i 1, ?_, fun j hj => ?_, ?_⟩
    · exact grows.trans (retractWhile_invariant
        (fun r' id h _ => h.trans (retract_grows _ id)) 1 (.refl _))
    · have hij : i ≠ j := fun hij => hi (hij ▸ hj)
      have kept : (step i o.registry).registry.rows.get j = o.registry.rows.get j := by
        rw [retractWhile_rows sound, get_put, if_neg hij]
      exact kept.trans (same j (List.mem_cons_of_mem i hj))
    · refine (sent.append turn ?_).mono ?_
      · rintro w ⟨j, hj, told⟩ told'
        obtain rfl := told.row_unique told'
        exact hj List.mem_cons_self
      · rintro w (⟨j, hj, told⟩ | told)
        · exact ⟨j, fun hj' => hj (List.mem_cons_of_mem i hj'), told⟩
        · exact ⟨i, hi, told⟩
  have sent : (r.leave id).notices = (sumRows step r).notices := by
    simp only [leave, Outcome.andThen, Outcome.map, unregisterProcessor_notices, List.append_nil]
    rfl
  rw [sent]
  refine all.2.2.2.mono ?_
  rintro w ⟨i, -, told⟩
  exact ⟨i, told⟩

end Registry

end SharedVariables
