import Multicast.Config
import Multicast.Config.Reader
import Multicast.Toml.Document

/-!
Configurations read from TOML documents.
-/

namespace Multicast

open Toml (Value)

open Reader (Field Shape)

namespace DaemonConfig

def shape : Shape DaemonConfig where
  name := "DaemonConfig"
  fields :=
    [{ key := "ipv4"
       record := fun value config => do return { config with ipv4 := ← Reader.boolean value } },
     { key := "ipv6"
       record := fun value config => do return { config with ipv6 := ← Reader.boolean value } },
     { key := "mc_forwarding_sysctl"
       record := fun value config => do
         return { config with forwardingSwitch := some (← Reader.path value) } },
     { key := "default_ttl"
       record := fun value config => do return { config with defaultTtl := ← Reader.byte value } }]

end DaemonConfig

namespace RouteEntry

structure Draft where
  source : Source := .any
  group : Option Group := none
  inbound : String := ""
  outbound : List String := []
  ttl : Option UInt8 := none

def shape : Shape Draft where
  name := "RouteConfig"
  fields :=
    [{ key := "source"
       record := fun value draft => do
         return { draft with source := ← Reader.parsed Source.ofText value } },
     { key := "group"
       required := true
       record := fun value draft => do
         return { draft with group := some (← Reader.parsed Group.ofText value) } },
     { key := "inbound"
       required := true
       record := fun value draft => do return { draft with inbound := ← Reader.text value } },
     { key := "outbound"
       required := true
       record := fun value draft => do
         return { draft with outbound := ← Reader.list Reader.text value } },
     { key := "ttl"
       record := fun value draft => do return { draft with ttl := some (← Reader.byte value) } }]

def read : Reader RouteEntry := fun value => do
  let draft ← shape.read {} value
  match draft.group with
  | some group =>
    return {
      source := draft.source
      group
      inbound := draft.inbound
      outbound := draft.outbound
      ttl := draft.ttl }
  | none => .error (.missingField "group")

end RouteEntry

namespace Config

def shape : Shape Config where
  name := "Config"
  fields :=
    [{ key := "daemon"
       record := fun value config => do
         return { config with daemon := ← DaemonConfig.shape.read {} value } },
     { key := "mroute"
       record := fun value config => do
         return { config with routes := ← Reader.list RouteEntry.read value } }]

def ofText (text : String) : Except DocumentError Config :=
  match Toml.Table.ofDocument? text with
  | none => .error .malformed
  | some table => (shape.read {} table.toValue).mapError .schema

end Config

def ConfigFile.toml (path : String) : ConfigFile := ⟨path, Config.ofText⟩

/-- A path stands for the document there. -/
instance : Coe String ConfigFile := ⟨.toml⟩

end Multicast
