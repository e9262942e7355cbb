import Multicast.Address.Source

/-!
Network interfaces as multicast routing sees them, and slots: the small numbers by which the kernel
knows the interfaces registered for a family.
-/

namespace Multicast

/-- A slot number as the kernel writes it. Only those below `slotCount` exist. -/
abbrev SlotIndex := UInt16

def slotCount : Nat := 32

def slotIndices : List SlotIndex := (List.range slotCount).map UInt16.ofNat

structure InterfaceFlags where
  up : Bool
  loopback : Bool
  multicast : Bool
  deriving DecidableEq

namespace InterfaceFlags

def upBit : UInt32 := 0x1

def loopbackBit : UInt32 := 0x8

def multicastBit : UInt32 := 0x1000

def ofKernel (bits : UInt32) : InterfaceFlags where
  up := bits &&& upBit != 0
  loopback := bits &&& loopbackBit != 0
  multicast := bits &&& multicastBit != 0

/-- The kernel's bits, of which only the three kept here are set. -/
def toKernel (flags : InterfaceFlags) : UInt32 :=
  (if flags.up then upBit else 0) ||| (if flags.loopback then loopbackBit else 0) |||
    (if flags.multicast then multicastBit else 0)

end InterfaceFlags

structure Interface where
  ifindex : UInt32
  name : String
  flags : InterfaceFlags
  inaddr : Option IPv4 := none
  vif : Option SlotIndex := none
  mif : Option SlotIndex := none
  deriving DecidableEq

namespace Interface

def maxNameBytes : Nat := 15

def isValidName (name : String) : Bool :=
  !name.isEmpty && name.utf8ByteSize ≤ maxNameBytes && !name.toList.contains '/'

def create (ifindex : UInt32) (name : String) (flags : InterfaceFlags) :
    Except InputError Interface :=
  if isValidName name then .ok { ifindex, name, flags } else .error (.invalidInterfaceName name)

def isLoopback (iface : Interface) : Bool := iface.flags.loopback

end Interface

end Multicast
