import Multicast.Interface.Discovery
import Multicast.Program

/-!
The command line program. It routes on kernels in memory, finds the interfaces of the host, and is
told by lines of its standard input what signals would tell it: `hup`, `int` or `term`.
-/

namespace Multicast.Main

abbrev DryManager := Manager (SimulatedKernel .ipv4) (SimulatedKernel .ipv6) RecordingSysctl

def osError : IO.Error → OsError
  | .noFileOrDirectory .. => .errno Errno.noEntry
  | .permissionDenied .. => .errno Errno.access
  | .inappropriateType .. => .errno Errno.isDirectory
  | err => .described .other (toString err)

def readFile (path : String) : IO (Except OsError ByteArray) := do
  try return .ok (← IO.FS.readBinFile path)
  catch err => return .error (osError err)

def deviceFile (name item : String) : String := "/sys/class/net/" ++ name ++ "/" ++ item

/-- The interfaces of the host; one that cannot be looked at is left out. -/
def discover : IO (Except DaemonError InterfaceTable) := do
  try
    let devices ← IO.FS.readFile "/proc/net/dev"
    let found ← (Discovery.names devices).mapM fun name => do
      try
        let index ← IO.FS.readFile (deviceFile name "ifindex")
        let flags ← IO.FS.readFile (deviceFile name "flags")
        return Discovery.interface? name index flags
      catch _ => return none
    return .ok (.ofList (found.filterMap id))
  catch err => return .error (.discovery (toString err))

def look (options : Options) : IO Findings :=
  return { content := ← readFile options.config, interfaces := ← discover }

def printLines (lines : List String) : IO Unit := do
  for line in lines do IO.println line
  (← IO.getStdout).flush

def act {α : Type} (filter : Filter) (manager : DryManager) (action : Action DryManager α) :
    IO (α × DryManager) := do
  let out := action manager
  printLines (filter.lines out.events)
  return (out.answer, out.state)

/-- Waits for a line that names a signal; the end of the input terminates. -/
partial def await (options : Options) : IO Signal := do
  let line ← (← IO.getStdin).getLine
  if line.isEmpty then return .terminate
  match line.trimAscii.toString with
  | "hup" => return .hangup (← look options)
  | "int" => return .interrupt
  | "term" => return .terminate
  | _ => await options

partial def serve (options : Options) (filter : Filter) (status : Status) (manager : DryManager) :
    IO UInt32 := do
  let (exit, manager) ← act filter manager (Daemon.finish status)
  match exit with
  | some code => return code.toUInt32
  | none =>
    let (status, manager) ← act filter manager (Daemon.handle options.config (← await options))
    serve options filter status manager

def runDaemon (options : Options) (filter : Filter) : IO UInt32 := do
  printLines (filter.lines [Daemon.starting])
  let (status, manager) ← act filter Program.idleManager
    (Daemon.launch options.config (← look options))
  serve options filter status manager

def answer (reply : Reply) : IO UInt32 := do
  printLines reply.lines
  return reply.exit.toUInt32

end Multicast.Main

open Multicast in
def main (args : List String) : IO UInt32 := do
  match CommandLine.read args with
  | .serve options =>
    match Filter.ofText? options.logLevel with
    | some filter => Main.runDaemon options filter
    | none => Main.answer Program.abandoned
  | .check options => Main.answer (Program.check options (← Main.readFile options.config))
  | .version => Main.answer ⟨0, [Program.version]⟩
  | .help => Main.answer ⟨0, Program.usage⟩
  | .refused =>
    for line in Program.usage do IO.eprintln line
    return 2
