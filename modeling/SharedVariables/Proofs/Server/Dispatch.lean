import SharedVariables.Proofs.Registry.Operation
import SharedVariables.Server.Session

/-!
# What a signal does

Whatever a client sends, the server acts for the processor of that session alone: it is the only one
that gets or gives up sides and registrations (`dispatch_responds`). A session that is bound stays
bound to its processor, and no value is kept for a variable that does not exist. A session that ends
makes its processor leave (`finish_registry`).
-/

namespace SharedVariables

/-- Whether a session is bound to a processor. -/
def Session.ActsFor (s : Session) (id : ProcessorId) : Prop := ∃ me, s.me = some me ∧ me.id = id

/-- Whether all values that a server keeps are those of variables. -/
structure Server.Pruned (s : Server) : Prop where
  values : ∀ entry ∈ s.values.entries, (s.registry.findVar entry.1).isSome
  exchanged : ∀ entry ∈ s.exchanged.entries, (s.registry.findVar entry.1).isSome

theorem Server.prune_pruned (s : Server) : s.prune.Pruned where
  values _ he := (List.mem_filter.1 he).2
  exchanged _ he := (List.mem_filter.1 he).2

namespace Session

/-- What the answer to a signal keeps. -/
structure Responds (s : Session) (server : Server) (d : Dispatched) : Prop where
  registry : server.registry.Evolves d.session.ActsFor d.session.ActsFor d.server.registry
  bound : ∀ id, s.ActsFor id → d.session.ActsFor id
  pruned : d.server.Pruned

variable {s : Session} {server : Server}

theorem idle_responds (reply : Option Signal) : s.Responds server (s.idle server reply) where
  registry := .refl _
  bound _ h := h
  pruned := server.prune_pruned

theorem operate_responds {α : Type} {outcome : Outcome α} {reply : α → Option Signal}
    (h : server.registry.Evolves s.ActsFor s.ActsFor outcome.registry) :
    s.Responds server (s.operate server outcome reply) where
  registry := h
  bound _ h := h
  pruned := Server.prune_pruned _

theorem ActsFor.of_eq {me : Partner} (h : s.me = some me) : ∀ id, id = me.id → s.ActsFor id :=
  fun _ hid => ⟨me, h, hid.symm⟩

theorem operateBound_responds {α : Type} {act : Partner → Outcome α} {refused : α}
    {reply : α → Option Signal}
    (h : ∀ me : Partner, server.registry.Evolves (· = me.id) (· = me.id) (act me).registry) :
    s.Responds server (s.operateBound server act refused reply) := by
  simp only [operateBound]
  split
  · rename_i me hme
    exact operate_responds ((h me).mono (.of_eq hme) (.of_eq hme))
  · exact idle_responds _

theorem register_responds (id : ProcessorId) (pid : UInt32) (port : UInt16) :
    s.Responds server (s.register server id pid port) := by
  simp only [register]
  split
  · rename_i hme
    cases hv : (server.registry.registerProcessor id pid port).value with
    | false =>
      refine operate_responds ?_
      rw [Registry.registerProcessor_of_refused hv]
      exact .refl _
    | true =>
      refine ⟨?_, ?_, Server.prune_pruned _⟩
      · refine (Registry.registerProcessor_evolves _ id pid port).mono (fun _ h => h) ?_
        exact fun _ hid => ⟨.ofProcess id pid port, rfl, hid.symm⟩
      · rintro id' ⟨me, hs, rfl⟩
        rw [hs] at hme
        exact ⟨.ofProcess id pid port, rfl, (of_decide_eq_true hme).symm⟩
  · exact idle_responds _

theorem forward_responds (key : Key) (kind : NoticeKind) :
    s.Responds server (s.forward server key kind) := by
  simp only [forward]
  split
  · exact ⟨.refl _, fun _ h => h, server.prune_pruned⟩
  · exact idle_responds _

theorem assignValue_responds (key : Key) (bytes : Bytes) :
    s.Responds server (s.assignValue server key bytes) := by
  simp only [assignValue]
  split
  · exact ⟨.refl _, fun _ h => h, Server.prune_pruned _⟩
  · exact idle_responds _

theorem assignExchanged_responds (key : Key) (bytes : Bytes) :
    s.Responds server (s.assignExchanged server key bytes) := by
  simp only [assignExchanged]
  split
  · exact ⟨.refl _, fun _ h => h, Server.prune_pruned _⟩
  · exact idle_responds _

theorem unregister_responds (id : ProcessorId) : s.Responds server (s.unregister server id) := by
  simp only [unregister]
  split
  · rename_i hme
    obtain ⟨me, hs, hid⟩ := (Option.any_eq_true _ _).1 hme
    refine operate_responds ((Registry.unregisterProcessor_evolves _ id).mono (fun _ h => h) ?_)
    rintro _ rfl
    exact ⟨me, hs, of_decide_eq_true hid⟩
  · exact idle_responds _

theorem share_responds (name : Name) (addressee offering : ProcessorId) :
    s.Responds server (s.share server name addressee offering) := by
  simp only [share]
  split
  · rename_i me hme
    split
    · refine operate_responds ?_
      exact (Registry.matchOrMake_evolves _ name addressee me).mono (.of_eq hme) fun _ h => h
    · exact idle_responds _
  · exact idle_responds _

/-- A signal makes the server act for the processor of its session alone. -/
theorem dispatch_responds {signal : Signal} {d : Dispatched}
    (h : s.dispatch server signal = .ok d) : s.Responds server d := by
  cases signal <;> cases h
  case registerProcessor id _ _ pid port => exact register_responds id pid port
  case unregisterProcessor id => exact unregister_responds id
  case matchOrMake name addressee offering => exact share_responds name addressee offering
  case makeOffer key => exact forward_responds key .makeOffer
  case retractOffer key => exact forward_responds key .retractOffer
  case retractVar key => exact operateBound_responds fun me => Registry.retract_evolves _ key me.id
  case setState key used _ =>
    exact operateBound_responds fun me => Registry.setState_evolves _ key me.id used
  case getControl key => exact operateBound_responds fun _ => .refl _
  case setControl key control =>
    exact operateBound_responds fun me => Registry.setControl_evolves _ key me.id control
  case mayUse key attempt =>
    exact operateBound_responds fun me => Registry.mayAccess_evolves _ key me.id attempt _ _
  case maySet key attempt =>
    exact operateBound_responds fun me => Registry.mayAccess_evolves _ key me.id attempt _ _
  case assignValue key bytes => exact assignValue_responds key bytes
  case assignWswsVar key bytes => exact assignExchanged_responds key bytes
  case clearAllEvents id => exact operate_responds (Registry.clearAllEvents_evolves _ id)
  case addEvent key id event =>
    split
    · exact idle_responds _
    · exact operate_responds (Registry.addEvent_evolves _ event id key)
  all_goals exact idle_responds _

/-! ## Ending -/

theorem finish_of_unbound (h : s.me = none) : s.finish server = ⟨none, .unbound, server, []⟩ := by
  simp only [finish, h]

theorem finish_of_bound {me : Partner} (h : s.me = some me) :
    s.finish server = unbound.operate server (server.registry.leave me.id) fun _ => none := by
  simp only [finish, h]

theorem finish_session : (s.finish server).session = .unbound := by
  simp only [finish]
  split <;> rfl

theorem finish_registry {me : Partner} (h : s.me = some me) :
    (s.finish server).server.registry = (server.registry.leave me.id).registry := by
  rw [finish_of_bound h]
  rfl

theorem finish_pruned (h : server.Pruned) : (s.finish server).server.Pruned := by
  simp only [finish]
  split
  · exact Server.prune_pruned _
  · exact h

end Session

end SharedVariables
