import Multicast.Action
import Multicast.Address.Source
import Multicast.DaemonError

/-!
The configuration: which families to run, and the static routes. Routes name interfaces; which slots
these have is known only once a family is enabled. A configuration is kept in a file; how the text
in it is read is left open here.
-/

namespace Multicast

structure DaemonConfig where
  ipv4 : Bool := true
  ipv6 : Bool := true
  /-- The switch for IPv6 forwarding that is turned on with IPv6; an empty path stands for none. -/
  forwardingSwitch : Option String := some "/proc/sys/net/ipv6/conf/all/mc_forwarding"
  defaultTtl : UInt8 := 1
  deriving DecidableEq

structure RouteEntry where
  source : Source := .any
  group : Group
  inbound : String
  outbound : List String
  ttl : Option UInt8 := none
  deriving DecidableEq

structure Config where
  daemon : DaemonConfig := {}
  routes : List RouteEntry := []
  deriving DecidableEq

namespace RouteEntry

def text (entry : RouteEntry) : String :=
  "(" ++ entry.source.text ++ ", " ++ entry.group.text ++ ") from " ++ entry.inbound

def ttlOr (entry : RouteEntry) (default : UInt8) : UInt8 := entry.ttl.getD default

def refuse (entry : RouteEntry) (reason : String) : Except DaemonError Unit :=
  .error (.configuration (entry.text ++ ": " ++ reason))

def validate (entry : RouteEntry) : Except DaemonError Unit :=
  match entry.source.checkFamily entry.group with
  | .error err => .error (.input err)
  | .ok () =>
    if entry.inbound.isEmpty then entry.refuse "inbound interface missing"
    else if entry.outbound.isEmpty then entry.refuse "no outbound interfaces"
    else if entry.outbound.contains entry.inbound then
      entry.refuse ("inbound interface " ++ entry.inbound ++ " also listed as outbound")
    else if entry.ttl = some 0 then entry.refuse "ttl must be > 0"
    else .ok ()

end RouteEntry

namespace Config

/-- The first thing that is wrong, the default TTL before the routes. -/
def validate (config : Config) : Except DaemonError Unit :=
  if config.daemon.defaultTtl = 0 then .error (.configuration "default_ttl must be > 0")
  else config.routes.forM RouteEntry.validate

def wants (config : Config) : Family → Bool
  | .ipv4 => config.daemon.ipv4
  | .ipv6 => config.daemon.ipv6

end Config

/-- Where the configuration is kept, and how a text is read as one. -/
structure ConfigFile where
  path : String
  read : String → Except DocumentError Config

namespace Config

def notFound (path : String) : Event where
  level := .warn
  target := Target.config
  message := "Config file not found, using defaults"
  fields := [("path", .text path)]

def notText : OsError := .described .other "stream did not contain valid UTF-8"

/-- The configuration in a file of some content, the default one if there is no file. -/
def ofFile {σ : Type} (file : ConfigFile) (content : Except OsError ByteArray) :
    Action σ (Except DaemonError Config) :=
  match content with
  | .error err =>
    if err.errorClass = .noEntry then do
      Action.log (notFound file.path)
      pure (.ok {})
    else pure (.error (.system err))
  | .ok bytes =>
    match String.fromUTF8? bytes with
    | none => pure (.error (.system notText))
    | some text => pure ((file.read text).mapError (.unreadable file.path))

end Config

end Multicast
