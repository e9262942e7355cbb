import Multicast.Config
import Multicast.Manager

/-!
The daemon: it starts a manager with the configuration and the interfaces that it finds, starts it
again when it is told to, and ends when it is told to or when it cannot go on. What the daemon finds
and what it is told are given to it; a configuration that is no good is left aside.
-/

namespace Multicast

/-- What is found where the daemon looks. -/
structure Findings where
  content : Except OsError ByteArray
  interfaces : Except DaemonError InterfaceTable

inductive Signal where
  | hangup (findings : Findings)
  | terminate
  | interrupt

inductive Status where
  | running
  | stopped
  | failed (failure : Failure)
  deriving DecidableEq

namespace Daemon

variable {σ κ₄ κ₆ τ : Type}

def event (level : Level) (message : String) (fields : List (String × FieldValue)) : Event :=
  { level, target := Target.program, message, fields }

def pathField (path : String) : String × FieldValue := ("path", .text path)

def info (message : String) : Event := event .info message []

def starting : Event := info "--- Starting mroutemgrd ---"

def checked (config : Config) : Event :=
  event .info "Configuration OK" [("routes", .number config.routes.length)]

def refused (failure : Failure) : Event := event .error failure.message []

def reloading (path : String) : Event := event .info "Received SIGHUP, reloading" [pathField path]

def notReloaded (failure : Failure) : Event :=
  event .warn ("Keeping current configuration: " ++ failure.message) []

def discovered (table : InterfaceTable) : Event :=
  event .info "Discovered interfaces" [("count", .number table.size)]

def exiting (failure : Failure) : Event :=
  event .error ("mroutemgrd exiting with error: " ++ failure.message) []

def loadConfig (file : ConfigFile) (content : Except OsError ByteArray) :
    Action σ (Except Failure Config) := do
  match ← Config.ofFile file content with
  | .error cause => pure (.error { cause })
  | .ok config =>
    match config.validate with
    | .error cause =>
      pure (.error { contexts := ["Invalid configuration in " ++ file.path], cause })
    | .ok () => pure (.ok config)

def check (file : ConfigFile) (content : Except OsError ByteArray) : Action σ Bool := do
  match ← loadConfig file content with
  | .ok config =>
    Action.log (checked config)
    pure true
  | .error failure =>
    Action.log (refused failure)
    pure false

variable [Kernel .ipv4 κ₄] [Kernel .ipv6 κ₆] [Sysctl τ]

def startWith (interfaces : Except DaemonError InterfaceTable) (doing : String)
    (start : InterfaceTable → Action (Manager κ₄ κ₆ τ) (Except DaemonError Summary)) :
    Action (Manager κ₄ κ₆ τ) Status := do
  match interfaces with
  | .error cause => pure (.failed { cause })
  | .ok table =>
    Action.log (discovered table)
    match ← start table with
    | .ok _ => pure .running
    | .error cause => pure (.failed { contexts := [doing], cause })

def launch (file : ConfigFile) (findings : Findings) : Action (Manager κ₄ κ₆ τ) Status := do
  match ← loadConfig file findings.content with
  | .error failure => pure (.failed failure)
  | .ok config =>
    Action.update fun manager =>
      .ofConfig config manager.ipv4.kernel manager.ipv6.kernel manager.ipv6.sysctl
    startWith findings.interfaces "Failed initializing multicast routing" Manager.start

/-- Goes on with what is found now. If the configuration is no good, the one at hand is kept. -/
def reload (file : ConfigFile) (findings : Findings) : Action (Manager κ₄ κ₆ τ) Status := do
  Action.log (reloading file.path)
  match ← loadConfig file findings.content with
  | .error failure =>
    Action.log (notReloaded failure)
    pure .running
  | .ok config =>
    startWith findings.interfaces "Failed re-initializing multicast routing"
      (Manager.reload config)

def shutDown (signal : String) : Action (Manager κ₄ κ₆ τ) Status := do
  Action.log (info ("Received " ++ signal))
  Manager.stop
  Action.log (info "Multicast routing released")
  pure .stopped

def handle (file : ConfigFile) : Signal → Action (Manager κ₄ κ₆ τ) Status
  | .hangup findings => reload file findings
  | .terminate => shutDown "SIGTERM"
  | .interrupt => shutDown "SIGINT"

def serve (file : ConfigFile) : List Signal → Action (Manager κ₄ κ₆ τ) Status
  | [] => pure .running
  | signal :: rest => do
    match ← handle file signal with
    | .running => serve file rest
    | ended => pure ended

def run (file : ConfigFile) (findings : Findings) (signals : List Signal) :
    Action (Manager κ₄ κ₆ τ) Status := do
  match ← launch file findings with
  | .running => serve file signals
  | ended => pure ended

def finish (status : Status) : Action (Manager κ₄ κ₆ τ) (Option UInt8) := do
  match status with
  | .running => pure none
  | .stopped =>
    Manager.drop
    Action.log (info "mroutemgrd exiting normally")
    pure (some 0)
  | .failed failure =>
    Manager.drop
    Action.log (exiting failure)
    pure (some 1)

/-- The whole of the daemon, with its exit code if the signals end it. -/
def program (file : ConfigFile) (findings : Findings) (signals : List Signal) :
    Action (Manager κ₄ κ₆ τ) (Option UInt8) := do
  Action.log starting
  finish (← run file findings signals)

end Daemon

end Multicast
