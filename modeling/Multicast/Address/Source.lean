import Multicast.Address
import Multicast.Text.Quoted

/-!
The groups that routes are for and the sources that they admit, read from text; and what can be
wrong with a text or value that names an address, a group or an interface. The source of a route is
one host, or any sender, which is written `*` or as the unspecified address of either family.
-/

namespace Multicast

inductive InputError where
  | invalidAddress (text : String)
  | notMulticast (addr : Address)
  | familyMismatch (source group : Address)
  | invalidInterfaceName (name : String)
  deriving DecidableEq

def InputError.message : InputError → String
  | .invalidAddress text => "invalid IP address format: " ++ text
  | .notMulticast addr => "not a multicast group address: " ++ addr.text
  | .familyMismatch source group =>
    "source " ++ source.text ++ " and group " ++ group.text ++
      " belong to different address families"
  | .invalidInterfaceName name => "invalid interface name: " ++ Quoted.write name

structure Group where
  address : Address
  isMulticast : address.isMulticast = true
  deriving DecidableEq

namespace Group

def ofAddress (addr : Address) : Except InputError Group :=
  if h : addr.isMulticast = true then .ok ⟨addr, h⟩ else .error (.notMulticast addr)

def ofText (text : String) : Except InputError Group :=
  match Address.ofText? text with
  | some addr => ofAddress addr
  | none => .error (.invalidAddress text)

def text (group : Group) : String := group.address.text

def isIPv4 (group : Group) : Bool := group.address.isIPv4

def sortDistinct (groups : List Group) : List Group :=
  (groups.mergeSort fun x y => x.address.le y.address).eraseReps

end Group

inductive Source where
  | any
  | host (addr : Address)
  deriving DecidableEq

namespace Source

def ofAddress (addr : Address) : Source :=
  if addr.isUnspecified then any else host addr

def ofText (text : String) : Except InputError Source :=
  if text = "*" then .ok any
  else
    match Address.ofText? text with
    | some addr => .ok (ofAddress addr)
    | none => .error (.invalidAddress text)

def text : Source → String
  | any => "*"
  | host addr => addr.text

def isAny : Source → Bool
  | any => true
  | host _ => false

def host? : Source → Option Address
  | any => none
  | host addr => some addr

/-- A host must be of the group's family; any sender goes with either. -/
def checkFamily (source : Source) (group : Group) : Except InputError Unit :=
  match source with
  | any => .ok ()
  | host addr =>
    if addr.isIPv4 = group.isIPv4 then .ok () else .error (.familyMismatch addr group.address)

end Source

end Multicast
