import Mathlib.Data.List.Forall2
import Multicast.Proofs.Interface.Seen
import Multicast.Proofs.Relation

/-!
# Channels that are alike

Channels are alike when they differ only in the switch for forwarding and in what it is written to.
Whether a switch could be turned on is logged at most, so alike channels do the same and stay alike,
on any tables on which their family sees the same.
-/

namespace Multicast

open Multicast.Action

variable {F : Family} {τ τ' α : Type}

theorem SimulatedKernel.addInterface_bare (slot : SlotIndex) (iface : Interface) :
    (Kernel.addInterface slot iface.bare : SimulatedKernel F → _) =
      Kernel.addInterface slot iface := by
  cases F <;> rfl

theorem SlotTable.relates_allocate {iface twin : Interface} (hbare : iface.bare = twin.bare) :
    Relates Eq (fun answer answer' => answer.map (Prod.map id Interface.bare) =
        answer'.map (Prod.map id Interface.bare))
      (SlotTable.allocate F iface) (SlotTable.allocate F twin) := by
  have hifindex : iface.ifindex = twin.ifindex := congrArg (fun iface => iface.ifindex) hbare
  have hname : iface.name = twin.name := congrArg (fun iface => iface.name) hbare
  rintro slots _ rfl
  unfold SlotTable.allocate
  rw [hifindex]
  split
  · exact ⟨by simp [Except.map, hbare], rfl⟩
  · split
    · exact ⟨by simp [Except.map, hbare], by rw [hname]⟩
    · exact ⟨by simp [Except.map, hname], rfl⟩

namespace Channel

/-- The channels differ in nothing but switches. -/
structure Alike (one : Channel F (SimulatedKernel F) τ)
    (other : Channel F (SimulatedKernel F) τ') : Prop where
  kernel : one.kernel = other.kernel
  phase : one.phase = other.phase
  holdsSocket : one.holdsSocket = other.holdsSocket
  slots : one.slots = other.slots
  registry : one.registry = other.registry

theorem alike_fresh (faults : KernelFaults) (sysctl : τ) (path : Option String) (sysctl' : τ')
    (path' : Option String) :
    Alike (fresh faults sysctl path : Channel F _ τ)
      (fresh faults sysctl' path' : Channel F _ τ') :=
  ⟨rfl, rfl, rfl, rfl, rfl⟩

section Relates

theorem relates_kernelCall (step : SimulatedKernel F → Except OsError Unit × SimulatedKernel F) :
    Relates Alike Eq (kernelCall step : Action (Channel F _ τ) _)
      (kernelCall step : Action (Channel F _ τ') _) :=
  .on (fun _ _ halike => halike.kernel) (fun _ _ _ halike => { halike with kernel := rfl })
    (relates_self _)

theorem relates_onSlots (action : Action SlotTable α) :
    Relates Alike Eq (onSlots action : Action (Channel F (SimulatedKernel F) τ) α)
      (onSlots action : Action (Channel F (SimulatedKernel F) τ') α) :=
  .on (fun _ _ halike => halike.slots) (fun _ _ _ halike => { halike with slots := rfl })
    (relates_self _)

theorem relates_claim :
    Relates Alike Eq (claim : Action (Channel F (SimulatedKernel F) τ) _)
      (claim : Action (Channel F (SimulatedKernel F) τ') _) := by
  refine .bind_eq (relates_kernelCall _) fun opened => ?_
  cases opened with
  | error cause =>
      dsimp only
      split
      · exact .bind_eq (.log _ _) fun _ => .pure rfl
      · exact .pure rfl
  | ok =>
      refine .bind_eq (relates_kernelCall _) fun claimed => ?_
      cases claimed with
      | ok => exact .pure rfl
      | error cause =>
          refine .bind_eq (.update fun one other halike => ?_) fun _ => ?_
          · exact { halike with kernel := congrArg Kernel.close halike.kernel }
          · split
            · exact .bind_eq (.log _ _) fun _ => .pure rfl
            · exact .bind_eq (.log _ _) fun _ => .pure rfl
            · exact .pure rfl

theorem relates_registerInterface {iface twin : Interface} (hbare : iface.bare = twin.bare) :
    Relates Alike Eq (registerInterface iface : Action (Channel F (SimulatedKernel F) τ) _)
      (registerInterface twin : Action (Channel F (SimulatedKernel F) τ') _) := by
  have hloop : iface.isLoopback = twin.isLoopback :=
    congrArg (fun iface => iface.flags.loopback) hbare
  unfold registerInterface
  rw [hloop]
  split
  · exact .bind_eq (.log _ _) fun _ => .pure rfl
  · refine .bind (.on (fun _ _ halike => halike.slots)
      (fun _ _ _ halike => { halike with slots := rfl }) (SlotTable.relates_allocate hbare)) ?_
    rintro (err | ⟨slot, annotated⟩) (err' | ⟨slot', annotated'⟩) hanswers
    · exact .bind_eq (.log _ _) fun _ => .pure rfl
    · cases hanswers
    · cases hanswers
    · simp only [Except.map, Except.ok.injEq, Prod.map_apply, id_eq, Prod.mk.injEq] at hanswers
      obtain ⟨rfl, hannotated⟩ := hanswers
      dsimp only
      rw [← SimulatedKernel.addInterface_bare slot annotated, hannotated,
        SimulatedKernel.addInterface_bare]
      refine .bind_eq (relates_kernelCall _) fun added => ?_
      cases added with
      | ok => exact .bind_eq (.log _ _) fun _ => .pure rfl
      | error cause =>
          exact .bind_eq (.log _ _) fun _ => .bind_eq (relates_onSlots _) fun _ => .pure rfl

theorem relates_add (route : Route F) :
    Relates Alike Eq (add route : Action (Channel F (SimulatedKernel F) τ) _)
      (add route : Action (Channel F (SimulatedKernel F) τ') _) := by
  refine .bind_eq (.read fun _ _ halike => halike.holdsSocket) fun holds => ?_
  split
  · refine .on (fun _ _ halike => ?_) (fun _ _ _ halike => ?_) (relates_self _)
    · rw [halike.registry, halike.kernel]
    · exact { halike with kernel := rfl, registry := rfl }
  · exact .pure rfl

variable [Sysctl τ] [Sysctl τ']

theorem relates_enableForwarding :
    Relates Alike Eq (enableForwarding : Action (Channel F (SimulatedKernel F) τ) _)
      (enableForwarding : Action (Channel F (SimulatedKernel F) τ') _) := by
  intro one other halike
  rw [state_enableForwarding one, state_enableForwarding other]
  exact ⟨rfl, { halike with }⟩

theorem relates_setUp {table others : InterfaceTable} (hseen : table.seenBy F = others.seenBy F) :
    Relates Alike (fun annotated annotated' => annotated.seenBy F = annotated'.seenBy F)
      (setUp table : Action (Channel F (SimulatedKernel F) τ) _)
      (setUp others : Action (Channel F (SimulatedKernel F) τ') _) := by
  have hbare : List.Forall₂ (fun iface twin => iface.bare = twin.bare) table.entries
      others.entries := by
    have hmap : List.Forall₂ Eq (table.entries.map Interface.bare)
        (others.entries.map Interface.bare) := by
      rw [List.forall₂_eq_eq_eq]
      exact InterfaceTable.map_bare_of_seenBy hseen
    rwa [List.forall₂_map_left_iff, List.forall₂_map_right_iff] at hmap
  refine .bind_eq (relates_onSlots _) fun _ => .bind_eq relates_enableForwarding fun _ => ?_
  refine .bind_eq (.each (hbare.imp fun _ _ => relates_registerInterface)) fun slots => ?_
  refine .bind_eq (.update fun _ _ halike => ?_) fun _ => ?_
  · exact { halike with phase := rfl, holdsSocket := rfl, registry := rfl }
  · refine .bind_eq (.read fun _ _ halike => congrArg SlotTable.size halike.slots) fun size => ?_
    refine .bind_eq (.log _ _) fun _ => .pure ?_
    rw [InterfaceTable.seenBy_annotate, InterfaceTable.seenBy_annotate, hseen]

theorem relates_enable {table others : InterfaceTable} (hseen : table.seenBy F = others.seenBy F) :
    Relates Alike (fun answer answer' => answer.map (InterfaceTable.seenBy F) =
        answer'.map (InterfaceTable.seenBy F))
      (enable table : Action (Channel F (SimulatedKernel F) τ) _)
      (enable others : Action (Channel F (SimulatedKernel F) τ') _) := by
  refine .within _ _ (.bind_eq (.read fun _ _ halike => halike.phase) fun phase => ?_)
  split
  · exact .pure rfl
  · refine .bind_eq (.update fun _ _ halike => { halike with phase := rfl }) fun _ => ?_
    refine .bind_eq relates_claim fun claimed => ?_
    cases claimed with
    | error err =>
        exact .bind_eq (.update fun _ _ halike => { halike with phase := rfl }) fun _ => .pure rfl
    | ok =>
        refine .bind (relates_setUp hseen) fun annotated annotated' hannotated => .pure ?_
        exact congrArg Except.ok hannotated

end Relates

end Channel

end Multicast
