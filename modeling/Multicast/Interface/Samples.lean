import Multicast.Interface.Table

/-!
Interface tables to try things out on.
-/

namespace Multicast

namespace Interface

/-- Up, broadcast, running and multicast. -/
def ethernetBits : UInt32 := 0x1043

/-- Up, loopback and running. -/
def loopbackBits : UInt32 := 0x49

def ethernet (ifindex : UInt32) (name : String) : Interface :=
  { ifindex, name, flags := .ofKernel ethernetBits }

def ethernetWithAddress (ifindex : UInt32) (name : String) (addr : IPv4) : Interface :=
  { ethernet ifindex name with inaddr := some addr }

def loopback (ifindex : UInt32) : Interface :=
  { ifindex, name := "lo", flags := .ofKernel loopbackBits, inaddr := some IPv4.localhost }

end Interface

namespace InterfaceTable

def basic : InterfaceTable :=
  ofList
    [.ethernetWithAddress 0 "eth0" ⟨10, 0, 0, 1⟩, .loopback 1,
      .ethernetWithAddress 2 "eth1" ⟨10, 0, 1, 1⟩]

def many (count : Nat) : InterfaceTable :=
  ofList ((List.range count).map fun i => .ethernet (UInt32.ofNat (i + 1)) ("eth" ++ toString i))

def manyWithAddresses (count : Nat) : InterfaceTable :=
  ofList ((List.range count).map fun i =>
    .ethernetWithAddress (UInt32.ofNat i) ("e" ++ toString i) ⟨10, 1, UInt8.ofNat i, 1⟩)

end InterfaceTable

end Multicast
