import Multicast.Kernel.Control
import Multicast.Proofs.Registry.Transcript
import Multicast.Proofs.Relation

/-!
# Two spellings of any sender

A route for any sender has no sender, or has the unspecified address for one. Two runs are compared
here whose routes differ in that spelling alone, over a socket that answers by what the kernel is
handed. Nothing but the spelling itself tells them apart: a sender is looked at only through the
origin, or as that of an instance, and no instance comes from the routes that are given.
-/

namespace Multicast

open Multicast.Action

variable {F : Family} {σ : Type}

/-! ### Routes and calls -/

/-- The same route, with any sender spelled in this way or in the other. -/
structure Route.Respelled (route other : Route F) : Prop where
  sender : route.sender = other.sender ∨
    (route.sender = none ∧ other.sender = some F.unspecified) ∨
      (route.sender = some F.unspecified ∧ other.sender = none)
  group : route.group = other.group
  inbound : route.inbound = other.inbound
  outbound : route.outbound = other.outbound

inductive RouteCall.Respelled : RouteCall F → RouteCall F → Prop where
  | add {route other : Route F} (hroute : route.Respelled other) :
      Respelled (.add route) (.add other)
  | del {route other : Route F} (hroute : route.Respelled other) :
      Respelled (.del route) (.del other)

/-- What the kernel is handed to add, or to delete by. -/
def RouteCall.encode : RouteCall F → F.RouteControl ⊕ F.RouteControl
  | add route => .inl route.encodeAdd
  | del route => .inr route.encodeDel

namespace Route

variable {route other : Route F}

theorem Respelled.refl (route : Route F) : route.Respelled route := ⟨.inl rfl, rfl, rfl, rfl⟩

theorem origin_eq_iff : route.origin = other.origin ↔
    route.sender = other.sender ∨
      (route.sender = none ∧ other.sender = some F.unspecified) ∨
        (route.sender = some F.unspecified ∧ other.sender = none) := by
  -- the origin forgets which of the spellings it is, and nothing else
  unfold origin
  cases route.sender <;> cases other.sender <;> simp [eq_comm]

theorem respelled_iff : route.Respelled other ↔
    route.origin = other.origin ∧ route.group = other.group ∧ route.inbound = other.inbound ∧
      route.outbound = other.outbound := by
  rw [origin_eq_iff]
  constructor
  · intro hroute
    exact ⟨hroute.sender, hroute.group, hroute.inbound, hroute.outbound⟩
  · rintro ⟨hsender, hgroup, hinbound, houtbound⟩
    exact ⟨hsender, hgroup, hinbound, houtbound⟩

theorem Respelled.origin (hroute : route.Respelled other) : route.origin = other.origin :=
  (respelled_iff.mp hroute).1

theorem Respelled.isWildcard (hroute : route.Respelled other) :
    route.isWildcard = other.isWildcard := by
  rw [Route.isWildcard, Route.isWildcard, hroute.origin]

theorem Respelled.isFor (hroute : route.Respelled other) (group : F.Addr) (inbound : SlotIndex) :
    route.isFor group inbound = other.isFor group inbound := by
  rw [Route.isFor, Route.isFor, hroute.group, hroute.inbound]

theorem Respelled.encodeAdd (hroute : route.Respelled other) :
    route.encodeAdd = other.encodeAdd := by
  have horigin := hroute.origin
  cases F with
  | ipv4 => simp only [Route.encodeAdd, horigin, hroute.group, hroute.inbound, hroute.outbound]
  | ipv6 => simp only [Route.encodeAdd, horigin, hroute.group, hroute.inbound, hroute.outbound]

theorem Respelled.encodeDel (hroute : route.Respelled other) :
    route.encodeDel = other.encodeDel := by
  have horigin := hroute.origin
  cases F with
  | ipv4 => simp only [Route.encodeDel, horigin, hroute.group]
  | ipv6 => simp only [Route.encodeDel, horigin, hroute.group]

end Route

theorem RouteCall.Respelled.encode {call other : RouteCall F} (hcall : call.Respelled other) :
    call.encode = other.encode := by
  cases hcall with
  | add hroute => exact congrArg Sum.inl hroute.encodeAdd
  | del hroute => exact congrArg Sum.inr hroute.encodeDel

/-! ### Sockets -/

section Sockets

variable [RouteSocket F σ]

namespace RouteCall

def answer (socket : σ) : RouteCall F → Except OsError Unit
  | add route => (RouteSocket.addRoute route socket).1
  | del route => (RouteSocket.delRoute route socket).1

def answers (socket : σ) : List (RouteCall F) → List (Except OsError Unit)
  | [] => []
  | call :: rest => call.answer socket :: answers (call.apply socket) rest

end RouteCall

/-- No spelling has a part in what the sockets answer. -/
def Indifferent (one other : σ) : Prop :=
  ∀ calls calls' : List (RouteCall F), List.Forall₂ RouteCall.Respelled calls calls' →
    RouteCall.answers one calls = RouteCall.answers other calls'

variable {one other : σ} {call call' : RouteCall F}

theorem Indifferent.answer (hsockets : Indifferent one other) (hcall : call.Respelled call') :
    call.answer one = call'.answer other := by
  have hanswers := hsockets [call] [call'] (.cons hcall .nil)
  exact (List.cons.inj hanswers).1

theorem Indifferent.apply (hsockets : Indifferent one other) (hcall : call.Respelled call') :
    Indifferent (call.apply one) (call'.apply other) := by
  intro calls calls' hcalls
  have hanswers := hsockets (call :: calls) (call' :: calls') (.cons hcall hcalls)
  exact (List.cons.inj hanswers).2

structure Traced.Respelled (one other : Traced F σ) : Prop where
  calls : List.Forall₂ RouteCall.Respelled one.calls other.calls
  sockets : Indifferent one.socket other.socket

theorem Traced.Respelled.append {one other : Traced F σ} (htraced : one.Respelled other)
    (hcall : call.Respelled call') :
    Traced.Respelled ⟨call.apply one.socket, one.calls ++ [call]⟩
      ⟨call'.apply other.socket, other.calls ++ [call']⟩ where
  calls := List.rel_append htraced.calls (.cons hcall .nil)
  sockets := htraced.sockets.apply hcall

namespace Route

variable {route other : Route F}

theorem Respelled.install (hroute : route.Respelled other) :
    Relates (Traced.Respelled (F := F) (σ := σ)) Eq route.install other.install := by
  refine .bind_eq (.log _ _) fun _ => ?_
  refine .bind_eq (fun one other htraced => ?_) fun result => ?_
  · exact ⟨htraced.sockets.answer (.add hroute), htraced.append (.add hroute)⟩
  · cases result with
    | ok => exact .pure rfl
    | error cause => exact .bind_eq (.log _ _) fun _ => .pure rfl

theorem Respelled.uninstall (hroute : route.Respelled other) :
    Relates (Traced.Respelled (F := F) (σ := σ)) Eq route.uninstall other.uninstall := by
  refine .bind_eq (.log _ _) fun _ => ?_
  refine .bind_eq (fun one other htraced => ?_) fun result => ?_
  · exact ⟨htraced.sockets.answer (.del hroute), htraced.append (.del hroute)⟩
  · cases result with
    | ok => exact .pure rfl
    | error cause => exact .bind_eq (.log _ _) fun _ => .pure rfl

end Route

end Sockets

/-! ### Registries -/

namespace Registry

structure Respelled (one other : Registry F) : Prop where
  templates : List.Forall₂ Route.Respelled one.templates other.templates
  instances : one.instances = other.instances

variable {one other : Registry F}

theorem Respelled.refl (registry : Registry F) : registry.Respelled registry where
  templates := List.forall₂_same.mpr fun route _ => .refl route
  instances := rfl

theorem find?_of_respelled {routes others : List (Route F)}
    (hroutes : List.Forall₂ Route.Respelled routes others) (group : F.Addr)
    (inbound : SlotIndex) :
    (routes.find? (Route.isFor group inbound)).map Route.outbound =
      (others.find? (Route.isFor group inbound)).map Route.outbound := by
  induction hroutes with
  | nil => rfl
  | cons hroute _ ih =>
      rw [List.find?_cons, List.find?_cons, hroute.isFor]
      split
      · exact congrArg some hroute.outbound
      · exact ih

theorem Respelled.template? (hregistry : one.Respelled other) (group : F.Addr)
    (inbound : SlotIndex) :
    (one.template? group inbound).map Route.outbound =
      (other.template? group inbound).map Route.outbound :=
  find?_of_respelled hregistry.templates group inbound

theorem Respelled.addTemplate {route route' : Route F} (hregistry : one.Respelled other)
    (hroute : route.Respelled route') :
    (one.addTemplate route).Respelled (other.addTemplate route') where
  templates := List.rel_append hregistry.templates (.cons hroute .nil)
  instances := hregistry.instances

theorem Respelled.track (hregistry : one.Respelled other) (route : Route F) :
    (one.track route).Respelled (other.track route) := by
  have hknows : one.knows route = other.knows route := by
    rw [Registry.knows, Registry.knows, hregistry.instances]
  unfold Registry.track
  rw [hknows]
  split
  · exact hregistry
  · exact ⟨hregistry.templates, by rw [hregistry.instances]⟩

theorem Respelled.forget (hregistry : one.Respelled other) (group : F.Addr)
    (inbound : SlotIndex) :
    (one.forget group inbound).Respelled (other.forget group inbound) where
  templates := by
    refine List.rel_filter (fun route route' hroute => ?_) hregistry.templates
    simp only [hroute.isFor]
  instances := congrArg (List.filter _) hregistry.instances

inductive Operation.Respelled : Operation F → Operation F → Prop where
  | add {route other : Route F} (hroute : route.Respelled other) :
      Respelled (.add route) (.add other)
  | remove {route other : Route F} (hroute : route.Respelled other) :
      Respelled (.remove route) (.remove other)
  | resolve (flow : Flow F) : Respelled (.resolve flow) (.resolve flow)
  | clear : Respelled .clear .clear

variable [RouteSocket F σ]

def Alike (one other : Registry F × Traced F σ) : Prop :=
  one.1.Respelled other.1 ∧ one.2.Respelled other.2

section Relates

variable {route other : Route F}

theorem relates_add (hroute : route.Respelled other) :
    Relates (Alike (F := F) (σ := σ)) Eq (add route) (add other) := by
  unfold add
  rw [hroute.isWildcard]
  split
  · refine .bind_eq (.log _ _) fun _ => ?_
    refine .bind_eq (.onFst (.update fun _ _ hregistry => ?_)) fun _ => .pure rfl
    exact hregistry.addTemplate hroute
  · exact .onSnd hroute.install

theorem relates_resolve (flow : Flow F) :
    Relates (Alike (F := F) (σ := σ)) Eq (resolve flow) (resolve flow) := by
  have hlookUp : Relates (Alike (F := F) (σ := σ))
      (fun template template' => template.map Route.outbound = template'.map Route.outbound)
      (Action.read fun pair => pair.1.template? flow.group flow.inbound)
      (Action.read fun pair => pair.1.template? flow.group flow.inbound) :=
    fun _ _ halike => ⟨halike.1.template? flow.group flow.inbound, halike⟩
  refine .bind hlookUp ?_
  -- of the template only where it forwards to is used, so the derived routes are the same
  rintro (_ | template) (_ | template') htemplate
  · exact .bind_eq (.log _ _) fun _ => .pure rfl
  · cases htemplate
  · cases htemplate
  · have houtbound : template.outbound = template'.outbound := Option.some.inj htemplate
    dsimp only
    rw [houtbound]
    refine .bind_eq (.onFst (.update fun _ _ hregistry => ?_)) fun _ => ?_
    · exact hregistry.track _
    · exact .onSnd (Route.Respelled.refl _).install

theorem relates_dropTemplates (group : F.Addr) (inbound : SlotIndex) :
    Relates (Alike (F := F) (σ := σ)) Eq (dropTemplates group inbound)
      (dropTemplates group inbound) := by
  have hread : Relates (Alike (F := F) (σ := σ)) Respelled (Action.read Prod.fst)
      (Action.read Prod.fst) := fun _ _ halike => ⟨halike.1, halike⟩
  refine .bind hread fun registry registry' hregistry => ?_
  have hsome : (registry.template? group inbound).isSome =
      (registry'.template? group inbound).isSome := by
    rw [← Option.isSome_map, hregistry.template?, Option.isSome_map]
  have hinstances : registry.instancesFor group inbound =
      registry'.instancesFor group inbound := by
    rw [instancesFor, instancesFor, hregistry.instances]
  have huninstall : ∀ route : Route F,
      Relates (Traced.Respelled (F := F) (σ := σ)) Eq route.uninstall route.uninstall :=
    fun route => (Route.Respelled.refl route).uninstall
  rw [hsome, hinstances]
  split
  · refine .bind_eq (.onSnd (.each (List.forall₂_same.mpr fun route _ => huninstall route))) ?_
    exact fun _ => .onFst (.update fun _ _ hregistry => hregistry.forget group inbound)
  · exact .pure rfl

theorem relates_remove (hroute : route.Respelled other) :
    Relates (Alike (F := F) (σ := σ)) Eq (remove route) (remove other) := by
  have huninstall : Relates (Alike (F := F) (σ := σ)) Eq (Action.onSnd route.uninstall)
      (Action.onSnd other.uninstall) := .onSnd hroute.uninstall
  unfold remove
  rw [hroute.isWildcard, hroute.group, hroute.inbound]
  by_cases hwild : other.isWildcard = true
  · rw [if_pos hwild, if_pos hwild]
    exact .bind_eq (relates_dropTemplates other.group other.inbound) fun _ => huninstall
  · rw [if_neg hwild, if_neg hwild]
    exact huninstall

end Relates

theorem relates_perform {operation operation' : Operation F}
    (hoperation : operation.Respelled operation') :
    Relates (Alike (F := F) (σ := σ)) Eq operation.perform operation'.perform := by
  cases hoperation with
  | add hroute => exact relates_add hroute
  | remove hroute => exact relates_remove hroute
  | resolve flow => exact relates_resolve flow
  | clear => exact .bind_eq (.onFst (.update fun _ _ _ => .refl _)) fun _ => .pure rfl

/-- **The spelling of any sender does not matter:** over a socket to which it is all one, runs that
differ in it give the same answers, hand the kernel the same and keep the same instances. -/
theorem run_respelled {operations operations' : List (Operation F)}
    (hoperations : List.Forall₂ Operation.Respelled operations operations')
    (registry : Registry F) {socket : σ} (hsocket : Indifferent socket socket) :
    let one := run operations (registry, (⟨socket, []⟩ : Traced F σ))
    let other := run operations' (registry, (⟨socket, []⟩ : Traced F σ))
    one.answer = other.answer ∧
      List.Forall₂ RouteCall.Respelled one.state.2.calls other.state.2.calls ∧
      one.state.2.calls.map RouteCall.encode = other.state.2.calls.map RouteCall.encode ∧
      one.state.1.instances = other.state.1.instances ∧
      List.Forall₂ Route.Respelled one.state.1.templates other.state.1.templates := by
  intro one other
  have hrelates : Relates (Alike (F := F) (σ := σ)) Eq (run operations) (run operations') :=
    .each (hoperations.imp fun _ _ => relates_perform)
  have hstart : Alike (registry, (⟨socket, []⟩ : Traced F σ)) (registry, ⟨socket, []⟩) :=
    ⟨.refl registry, .nil, hsocket⟩
  obtain ⟨hanswers, hregistry, htraced⟩ := hrelates _ _ hstart
  have hencoded : one.state.2.calls.map RouteCall.encode =
      other.state.2.calls.map RouteCall.encode := by
    rw [← List.forall₂_eq_eq_eq, List.forall₂_map_left_iff, List.forall₂_map_right_iff]
    exact htraced.calls.imp fun _ _ => RouteCall.Respelled.encode
  exact ⟨hanswers, htraced.calls, hencoded, hregistry.instances, hregistry.templates⟩

theorem indifferent_of_scripts {one other : ScriptedSocket F} (hadds : one.adds = other.adds)
    (hdels : one.dels = other.dels) : Indifferent one other := by
  intro calls calls' hcalls
  induction hcalls generalizing one other with
  | nil => rfl
  | cons hcall _ ih =>
      rw [RouteCall.answers, RouteCall.answers, List.cons.injEq]
      cases hcall with
      | add hroute =>
          have hanswer : one.adds.next.1 = other.adds.next.1 := by rw [hadds]
          have hscript : one.adds.next.2 = other.adds.next.2 := by rw [hadds]
          exact ⟨hanswer, ih hscript hdels⟩
      | del hroute =>
          have hanswer : one.dels.next.1 = other.dels.next.1 := by rw [hdels]
          have hscript : one.dels.next.2 = other.dels.next.2 := by rw [hdels]
          exact ⟨hanswer, ih hadds hscript⟩

def unnamed : Route .ipv4 := .wildcard ⟨239, 1, 1, 1⟩ 0 (Family.Outbound.set .empty 1 1)

def unspecified : Route .ipv4 :=
  .concrete IPv4.unspecified ⟨239, 1, 1, 1⟩ 0 (Family.Outbound.set .empty 1 1)

/-- The template is added in one spelling and removed in the other, while the socket refuses the
first addition and every deletion. -/
theorem unnamed_respelled :
    let socket : ScriptedSocket .ipv4 := { adds := { queue := [some 105] }, dels := ⟨[], some 2⟩ }
    let flow : Flow .ipv4 := ⟨⟨10, 0, 0, 9⟩, ⟨239, 1, 1, 1⟩, 0⟩
    let one := run [.add unnamed, .resolve flow, .remove unspecified]
      (empty, (⟨socket, []⟩ : Traced .ipv4 _))
    let other := run [.add unspecified, .resolve flow, .remove unnamed]
      (empty, (⟨socket, []⟩ : Traced .ipv4 _))
    Indifferent socket socket ∧
      List.Forall₂ Operation.Respelled [.add unnamed, .resolve flow, .remove unspecified]
        [.add unspecified, .resolve flow, .remove unnamed] ∧
      one.state.2.calls ≠ other.state.2.calls ∧
      one.answer = other.answer ∧
      List.Forall₂ RouteCall.Respelled one.state.2.calls other.state.2.calls ∧
      one.state.2.calls.map RouteCall.encode = other.state.2.calls.map RouteCall.encode ∧
      one.state.1.instances = other.state.1.instances ∧
      List.Forall₂ Route.Respelled one.state.1.templates other.state.1.templates := by
  intro socket flow one other
  have hsocket : Indifferent socket socket := indifferent_of_scripts rfl rfl
  have hone : unnamed.Respelled unspecified := ⟨.inr (.inl ⟨rfl, rfl⟩), rfl, rfl, rfl⟩
  have hother : unspecified.Respelled unnamed := ⟨.inr (.inr ⟨rfl, rfl⟩), rfl, rfl, rfl⟩
  have hoperations : List.Forall₂ Operation.Respelled
      [.add unnamed, .resolve flow, .remove unspecified]
      [.add unspecified, .resolve flow, .remove unnamed] :=
    .cons (.add hone) (.cons (.resolve flow) (.cons (.remove hother) .nil))
  exact ⟨hsocket, hoperations, by decide +kernel, run_respelled hoperations empty hsocket⟩

end Registry

end Multicast
