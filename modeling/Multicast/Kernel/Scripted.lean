import Multicast.Kernel.Socket

/-!
A route socket whose answers are written down beforehand, and which keeps the calls made to it.
-/

namespace Multicast

inductive RouteCall (F : Family) where
  | add (route : Route F)
  | del (route : Route F)
  deriving DecidableEq

/-- The next answers to calls of one kind, and the answer when they have run out; none is
success. -/
structure Script where
  queue : List (Option Errno) := []
  fallback : Option Errno := none
  deriving DecidableEq

namespace Script

def toResult : Option Errno → Except OsError Unit
  | some errno => .error (.errno errno)
  | none => .ok ()

def next (script : Script) : Except OsError Unit × Script :=
  match script.queue with
  | answer :: queue => (toResult answer, { script with queue })
  | [] => (toResult script.fallback, script)

end Script

structure ScriptedSocket (F : Family) where
  calls : List (RouteCall F) := []
  adds : Script := {}
  dels : Script := {}
  deriving DecidableEq

instance {F : Family} : RouteSocket F (ScriptedSocket F) where
  addRoute route socket :=
    let answered := socket.adds.next
    (answered.1, { socket with calls := socket.calls ++ [.add route], adds := answered.2 })
  delRoute route socket :=
    let answered := socket.dels.next
    (answered.1, { socket with calls := socket.calls ++ [.del route], dels := answered.2 })

end Multicast
