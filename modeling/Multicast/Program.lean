import Multicast.CommandLine
import Multicast.Config.Document
import Multicast.Daemon
import Multicast.Kernel.Simulated
import Multicast.Log.Filter

/-!
The program as a whole, as far as it does not depend on when signals come.
-/

namespace Multicast

structure Reply where
  exit : UInt8
  lines : List String
  deriving DecidableEq

namespace Program

def version : String := "mroutemgrd 0.1.0"

def usage : List String :=
  ["Static multicast routing daemon",
   "",
   "Usage: mroutemgrd [OPTIONS]",
   "",
   "Options:",
   "  -c, --config <CONFIG>        Configuration file",
   "  -l, --log-level <LOG_LEVEL>  Log filter",
   "      --check                  Validate the configuration and exit",
   "  -h, --help                   Print help",
   "  -V, --version                Print version"]

/-- The program gives up without a word on its output. -/
def abandoned : Reply := ⟨101, []⟩

def check (options : Options) (content : Except OsError ByteArray) : Reply :=
  match Filter.ofText? options.logLevel with
  | none => abandoned
  | some filter =>
    let out := Daemon.check options.config content ()
    ⟨if out.answer then 0 else 1, filter.lines out.events⟩

def idleManager :
    Manager (SimulatedKernel .ipv4) (SimulatedKernel .ipv6) RecordingSysctl :=
  .ofConfig {} {} {} {}

end Program

end Multicast
