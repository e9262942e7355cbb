import Multicast.Kernel.Simulated
import Multicast.Proofs.Channel.Stages
import Multicast.Proofs.Channel.Transcript

/-!
# What a kernel is told and what it answers

Whether a claim went through does not show in the calls that a kernel keeps. Here every call is kept
with its answer, for any kernel; then it can be said that each claim that went through was given up
and its socket closed, and this is so whenever the kernel is idle.
-/

namespace Multicast

variable {F : Family} {κ : Type}

def KernelCall.isUse : KernelCall F → Bool
  | .addInterface .. | .addRoute _ | .delRoute _ => true
  | .openSocket | .init | .done | .close => false

structure Exchange (F : Family) where
  call : KernelCall F
  succeeds : Bool
  deriving DecidableEq

/-- Every claim that went through was used, given up once, and its socket closed. -/
def Settled (exchanges : List (Exchange F)) : Prop :=
  ∀ before after, exchanges = before ++ ⟨.init, true⟩ :: after →
    ∃ uses answer rest, (∀ use ∈ uses, use.call.isUse = true) ∧
      after = uses ++ ⟨.done, answer⟩ :: ⟨.close, true⟩ :: rest

/-- The last claim that went through is still used, and those before it are settled. -/
def Claimed (exchanges : List (Exchange F)) : Prop :=
  ∃ before uses, Settled before ∧ (∀ use ∈ uses, use.call.isUse = true) ∧
    exchanges = before ++ ⟨.init, true⟩ :: uses

theorem settled_nil : Settled ([] : List (Exchange F)) := by
  intro before after heq
  cases before <;> cases heq

theorem Settled.append {first second : List (Exchange F)} (hfirst : Settled first)
    (hsecond : Settled second) : Settled (first ++ second) := by
  intro before after heq
  -- the claim is one of the second exchanges, or one of the first with all that settles it
  obtain ⟨middle, rfl, hsplit⟩ | ⟨middle, rfl, hsplit⟩ := List.append_eq_append_iff.mp heq
  · exact hsecond middle after hsplit
  · cases middle with
    | nil => exact hsecond [] after hsplit.symm
    | cons head middle =>
        obtain ⟨rfl, rfl⟩ := List.cons_eq_cons.mp hsplit
        obtain ⟨uses, answer, rest, huses, rfl⟩ := hfirst before middle rfl
        exact ⟨uses, answer, rest ++ second, huses, by simp⟩

theorem settled_of_forall_ne {exchanges : List (Exchange F)}
    (hne : ∀ exchange ∈ exchanges, exchange ≠ ⟨.init, true⟩) : Settled exchanges := by
  intro before after heq
  exact absurd rfl (hne ⟨.init, true⟩ (by simp [heq]))

theorem Settled.claimed {exchanges : List (Exchange F)} (hsettled : Settled exchanges) :
    Claimed (exchanges ++ [⟨.init, true⟩]) :=
  ⟨exchanges, [], hsettled, by simp, rfl⟩

theorem Claimed.use {exchanges : List (Exchange F)} (hclaimed : Claimed exchanges)
    {use : Exchange F} (huse : use.call.isUse = true) : Claimed (exchanges ++ [use]) := by
  obtain ⟨before, uses, hbefore, huses, rfl⟩ := hclaimed
  refine ⟨before, uses ++ [use], hbefore, ?_, by simp⟩
  intro other hother
  obtain hother | hother := List.mem_append.mp hother
  · exact huses other hother
  · rwa [List.mem_singleton.mp hother]

theorem Claimed.settled {exchanges : List (Exchange F)} (hclaimed : Claimed exchanges)
    (answer : Bool) : Settled (exchanges ++ [⟨.done, answer⟩, ⟨.close, true⟩]) := by
  obtain ⟨before, uses, hbefore, huses, rfl⟩ := hclaimed
  have hlast : Settled (⟨.init, true⟩ :: (uses ++ [⟨.done, answer⟩, ⟨.close, true⟩])) := by
    intro earlier after heq
    cases earlier with
    | nil => exact ⟨uses, answer, [], huses, (List.cons_eq_cons.mp heq).2.symm⟩
    | cons head earlier =>
        -- a later claim would be a use, or one of the calls that give up
        have hmem : (⟨.init, true⟩ : Exchange F) ∈ uses ++ [⟨.done, answer⟩, ⟨.close, true⟩] := by
          rw [(List.cons_eq_cons.mp heq).2]
          simp
        obtain hmem | hmem := List.mem_append.mp hmem
        · exact absurd (huses _ hmem) (by simp [KernelCall.isUse])
        · simp at hmem
  simpa using hbefore.append hlast

/-! ### Kernels that are listened to -/

/-- A kernel with all that it was told and answered. -/
structure Heard (F : Family) (κ : Type) where
  kernel : κ
  exchanges : List (Exchange F) := []
  deriving DecidableEq

namespace Heard

def hear (call : KernelCall F) (step : κ → Except OsError Unit × κ) (heard : Heard F κ) :
    Except OsError Unit × Heard F κ :=
  ((step heard.kernel).1,
    { kernel := (step heard.kernel).2
      exchanges := heard.exchanges ++ [⟨call, (step heard.kernel).1.isOk⟩] })

instance [Kernel F κ] : Kernel F (Heard F κ) where
  addRoute route := hear (.addRoute route) (RouteSocket.addRoute route)
  delRoute route := hear (.delRoute route) (RouteSocket.delRoute route)
  openSocket := hear .openSocket Kernel.openSocket
  claim := hear .init Kernel.claim
  release := hear .done Kernel.release
  addInterface slot iface :=
    hear (.addInterface slot iface.ifindex iface.name) (Kernel.addInterface slot iface)
  close heard :=
    { kernel := Kernel.close heard.kernel
      exchanges := heard.exchanges ++ [⟨.close, true⟩] }

end Heard

namespace Kernel.Stages

variable [Kernel F κ]

theorem and {idle opened claimed idle' opened' claimed' : κ → Prop}
    (hstages : Kernel.Stages idle opened claimed)
    (hstages' : Kernel.Stages idle' opened' claimed') :
    Kernel.Stages (fun kernel => idle kernel ∧ idle' kernel)
      (fun kernel => opened kernel ∧ opened' kernel)
      (fun kernel => claimed kernel ∧ claimed' kernel) where
  openSocket_ok := fun kernel hidle hok =>
    ⟨hstages.openSocket_ok kernel hidle.1 hok, hstages'.openSocket_ok kernel hidle.2 hok⟩
  openSocket_error := fun kernel cause hidle herr =>
    ⟨hstages.openSocket_error kernel cause hidle.1 herr,
      hstages'.openSocket_error kernel cause hidle.2 herr⟩
  claim_ok := fun kernel hopened hok =>
    ⟨hstages.claim_ok kernel hopened.1 hok, hstages'.claim_ok kernel hopened.2 hok⟩
  claim_error := fun kernel cause hopened herr =>
    ⟨hstages.claim_error kernel cause hopened.1 herr,
      hstages'.claim_error kernel cause hopened.2 herr⟩
  addInterface := fun slot iface kernel hclaimed =>
    ⟨hstages.addInterface slot iface kernel hclaimed.1,
      hstages'.addInterface slot iface kernel hclaimed.2⟩
  apply := fun call kernel hclaimed =>
    ⟨hstages.apply call kernel hclaimed.1, hstages'.apply call kernel hclaimed.2⟩
  giveUp := fun kernel hclaimed =>
    ⟨hstages.giveUp kernel hclaimed.1, hstages'.giveUp kernel hclaimed.2⟩

theorem heard {idle opened claimed : κ → Prop} (hstages : Kernel.Stages idle opened claimed) :
    Kernel.Stages (fun heard : Heard F κ => idle heard.kernel) (fun heard => opened heard.kernel)
      (fun heard => claimed heard.kernel) where
  openSocket_ok := fun heard => hstages.openSocket_ok heard.kernel
  openSocket_error := fun heard => hstages.openSocket_error heard.kernel
  claim_ok := fun heard => hstages.claim_ok heard.kernel
  claim_error := fun heard => hstages.claim_error heard.kernel
  addInterface := fun slot iface heard => hstages.addInterface slot iface heard.kernel
  apply := fun call heard hclaimed => by
    cases call with
    | add route => exact hstages.apply (.add route) heard.kernel hclaimed
    | del route => exact hstages.apply (.del route) heard.kernel hclaimed
  giveUp := fun heard => hstages.giveUp heard.kernel

end Kernel.Stages

theorem stages_settled [Kernel F κ] :
    Kernel.Stages (fun heard : Heard F κ => Settled heard.exchanges)
      (fun heard => Settled heard.exchanges) (fun heard => Claimed heard.exchanges) where
  openSocket_ok := fun heard hsettled _ =>
    hsettled.append (settled_of_forall_ne (by simp))
  openSocket_error := fun heard _ hsettled _ =>
    hsettled.append (settled_of_forall_ne (by simp))
  claim_ok := fun heard hsettled hok => by
    have hclaim : (Kernel.claim heard).2.exchanges = heard.exchanges ++ [⟨.init, true⟩] :=
      congrArg (fun answer => heard.exchanges ++ [⟨.init, Except.isOk answer⟩]) hok
    rw [hclaim]
    exact hsettled.claimed
  claim_error := fun heard cause hsettled herr => by
    have hclose : (Kernel.close (Kernel.claim heard).2).exchanges =
        heard.exchanges ++ [⟨.init, false⟩, ⟨.close, true⟩] := by
      rw [List.append_cons]
      exact congrArg
        (fun answer => heard.exchanges ++ [⟨.init, Except.isOk answer⟩] ++ [⟨.close, true⟩]) herr
    rw [hclose]
    exact hsettled.append (settled_of_forall_ne (by simp))
  addInterface := fun _ _ _ hclaimed => hclaimed.use rfl
  apply := fun call _ hclaimed => by
    cases call with
    | add route => exact hclaimed.use rfl
    | del route => exact hclaimed.use rfl
  giveUp := fun heard hclaimed => by
    have hclose : (Kernel.close (Kernel.release heard).2).exchanges =
        heard.exchanges ++ [⟨.done, (Kernel.release heard).1.isOk⟩, ⟨.close, true⟩] := by
      rw [List.append_cons]
      rfl
    rw [hclose]
    exact hclaimed.settled _

/-! ### Kernels in memory -/

namespace SimulatedKernel

structure Free (kernel : SimulatedKernel F) : Prop where
  openSockets : kernel.openSockets = 0
  cache : kernel.cache = []
  registered : kernel.registered = []

theorem stages_free : Kernel.Stages (F := F) Free (fun kernel => kernel.openSockets = 1)
    (fun kernel => kernel.openSockets = 1) where
  openSocket_ok := fun kernel hfree hok => by
    cases hfault : kernel.faults.openSocket with
    | none =>
        rw [openSocket_of_none hfault]
        exact congrArg (· + 1) hfree.openSockets
    | some errno =>
        rw [openSocket_of_some hfault] at hok
        cases hok
  openSocket_error := fun kernel cause hfree herr => by
    cases hfault : kernel.faults.openSocket with
    | none =>
        rw [openSocket_of_none hfault] at herr
        cases herr
    | some errno =>
        rw [openSocket_of_some hfault]
        exact { hfree with }
  claim_ok := fun kernel hopened _ => by rwa [claim_eq]
  claim_error := fun kernel _ hopened _ => by
    rw [claim_eq, close_eq]
    exact ⟨congrArg (· - 1) hopened, rfl, rfl⟩
  addInterface := fun slot iface kernel hclaimed =>
    (frame_addInterface slot iface kernel).2.1.trans hclaimed
  apply := fun call kernel hclaimed => (frame_apply call kernel).2.1.trans hclaimed
  giveUp := fun kernel hclaimed => by
    rw [close_eq]
    exact ⟨congrArg (· - 1) hclaimed, rfl, rfl⟩

def Faithful (heard : Heard F (SimulatedKernel F)) : Prop :=
  heard.kernel.calls = heard.exchanges.map Exchange.call

theorem Faithful.hear {heard : Heard F (SimulatedKernel F)} (hfaithful : Faithful heard)
    (call : KernelCall F) (step : SimulatedKernel F → Except OsError Unit × SimulatedKernel F)
    (hstep : (step heard.kernel).2.calls = heard.kernel.calls ++ [call]) :
    Faithful (Heard.hear call step heard).2 := by
  rw [Faithful, Heard.hear, hstep, List.map_append, ← hfaithful]
  rfl

theorem Faithful.close {heard : Heard F (SimulatedKernel F)} (hfaithful : Faithful heard) :
    Faithful (Kernel.close heard) := by
  have hcalls : (Kernel.close heard).kernel.calls = heard.kernel.calls ++ [.close] := rfl
  have hexchanges : (Kernel.close heard).exchanges = heard.exchanges ++ [⟨.close, true⟩] := rfl
  rw [Faithful, hcalls, hexchanges, List.map_append, ← hfaithful]
  rfl

theorem calls_openSocket (kernel : SimulatedKernel F) :
    (Kernel.openSocket kernel).2.calls = kernel.calls ++ [.openSocket] := by
  cases hfault : kernel.faults.openSocket with
  | none =>
      rw [openSocket_of_none hfault]
      rfl
  | some errno =>
      rw [openSocket_of_some hfault]
      rfl

theorem stages_faithful : Kernel.Stages (F := F) Faithful Faithful Faithful where
  openSocket_ok := fun _ hfaithful _ => hfaithful.hear _ _ (calls_openSocket _)
  openSocket_error := fun _ _ hfaithful _ => hfaithful.hear _ _ (calls_openSocket _)
  claim_ok := fun _ hfaithful _ => hfaithful.hear .init Kernel.claim rfl
  claim_error := fun _ _ hfaithful _ => (hfaithful.hear .init Kernel.claim rfl).close
  addInterface := fun slot iface _ hfaithful =>
    hfaithful.hear _ _ (calls_addInterface slot iface _)
  apply := fun call _ hfaithful => by
    cases call with
    | add route => exact hfaithful.hear _ _ (calls_apply (.add route) _)
    | del route => exact hfaithful.hear _ _ (calls_apply (.del route) _)
  giveUp := fun _ hfaithful => (hfaithful.hear .done Kernel.release rfl).close

end SimulatedKernel

end Multicast
