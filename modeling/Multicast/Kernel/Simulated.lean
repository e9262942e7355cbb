import Multicast.Kernel.Control
import Multicast.Kernel.Socket

/-!
A kernel in memory. It keeps every call made to it and the forwarding cache those calls leave, and
can be told to fail them.
-/

namespace Multicast

inductive KernelCall (F : Family) where
  | openSocket
  | init
  | done
  | close
  | addInterface (slot : SlotIndex) (ifindex : UInt32) (name : String)
  | addRoute (route : Route F)
  | delRoute (route : Route F)
  deriving DecidableEq

structure KernelFaults where
  openSocket : Option Errno := none
  init : Option Errno := none
  done : Option Errno := none
  addRoute : Option Errno := none
  /-- By the name of the interface; the first that matches counts. -/
  addInterface : List (String × Errno) := []
  deriving DecidableEq

structure SimulatedKernel (F : Family) where
  calls : List (KernelCall F) := []
  /-- The forwarding cache, one route for each origin and group. -/
  cache : List (Route F) := []
  registered : List (SlotIndex × UInt32) := []
  openSockets : Nat := 0
  faults : KernelFaults := {}
  deriving DecidableEq

namespace SimulatedKernel

variable {F : Family}

def succeedUnless : Option Errno → Except OsError Unit
  | some errno => .error (.errno errno)
  | none => .ok ()

def record (call : KernelCall F) (kernel : SimulatedKernel F) : SimulatedKernel F :=
  { kernel with calls := kernel.calls ++ [call] }

/-- Two routes compete for one entry of the cache. -/
def sameEntry (route other : Route F) : Bool :=
  other.origin = route.origin && other.group = route.group

/-- Puts a route over the one for its entry, or at the end. -/
def store (route : Route F) : List (Route F) → List (Route F)
  | [] => [route]
  | head :: rest =>
    if sameEntry route head then route :: rest else head :: store route rest

def register (slot : SlotIndex) (ifindex : UInt32) :
    List (SlotIndex × UInt32) → List (SlotIndex × UInt32)
  | [] => [(slot, ifindex)]
  | head :: rest =>
    if slot < head.1 then (slot, ifindex) :: head :: rest
    else if slot = head.1 then (slot, ifindex) :: rest
    else head :: register slot ifindex rest

def openSocket (kernel : SimulatedKernel F) : Except OsError Unit × SimulatedKernel F :=
  let kernel := kernel.record .openSocket
  match kernel.faults.openSocket with
  | some errno => (.error (.errno errno), kernel)
  | none => (.ok (), { kernel with openSockets := kernel.openSockets + 1 })

def claim (kernel : SimulatedKernel F) : Except OsError Unit × SimulatedKernel F :=
  (succeedUnless kernel.faults.init, kernel.record .init)

def release (kernel : SimulatedKernel F) : Except OsError Unit × SimulatedKernel F :=
  (succeedUnless kernel.faults.done, kernel.record .done)

def addInterface (slot : SlotIndex) (iface : Interface) (kernel : SimulatedKernel F) :
    Except OsError Unit × SimulatedKernel F :=
  let kernel := kernel.record (.addInterface slot iface.ifindex iface.name)
  match iface.encode slot F with
  | .error cause => (.error cause, kernel)
  | .ok _ =>
    match kernel.faults.addInterface.lookup iface.name with
    | some errno => (.error (.errno errno), kernel)
    | none => (.ok (), { kernel with registered := register slot iface.ifindex kernel.registered })

def addRoute (route : Route F) (kernel : SimulatedKernel F) :
    Except OsError Unit × SimulatedKernel F :=
  let kernel := kernel.record (.addRoute route)
  match kernel.faults.addRoute with
  | some errno => (.error (.errno errno), kernel)
  | none => (.ok (), { kernel with cache := store route kernel.cache })

def delRoute (route : Route F) (kernel : SimulatedKernel F) :
    Except OsError Unit × SimulatedKernel F :=
  let kernel := kernel.record (.delRoute route)
  if kernel.cache.any (sameEntry route) then
    (.ok (), { kernel with cache := kernel.cache.filter fun other => !sameEntry route other })
  else (.error (.errno Errno.noEntry), kernel)

def close (kernel : SimulatedKernel F) : SimulatedKernel F :=
  { kernel.record .close with openSockets := kernel.openSockets - 1, cache := [], registered := [] }

instance : Kernel F (SimulatedKernel F) where
  addRoute := addRoute
  delRoute := delRoute
  openSocket := openSocket
  claim := claim
  release := release
  addInterface := addInterface
  close := close

def failInterface (name : String) (errno : Errno) (faults : KernelFaults) : KernelFaults :=
  { faults with addInterface := (name, errno) :: faults.addInterface }

def addedRoutes (calls : List (KernelCall F)) : List (Route F) :=
  calls.filterMap fun
    | .addRoute route => some route
    | _ => none

def deletedRoutes (calls : List (KernelCall F)) : List (Route F) :=
  calls.filterMap fun
    | .delRoute route => some route
    | _ => none

end SimulatedKernel

end Multicast
