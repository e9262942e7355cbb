import Multicast.OsError

/-!
Switches of the kernel, written by path.
-/

namespace Multicast

class Sysctl (τ : Type) where
  setBool : String → Bool → τ → Except OsError Unit × τ

/-- Keeps every write that was tried, and fails all of them if it is told to. -/
structure RecordingSysctl where
  writes : List (String × Bool) := []
  failure : Option Errno := none
  deriving DecidableEq

instance : Sysctl RecordingSysctl where
  setBool path value sysctl :=
    let sysctl := { sysctl with writes := sysctl.writes ++ [(path, value)] }
    match sysctl.failure with
    | some errno => (.error (.errno errno), sysctl)
    | none => (.ok (), sysctl)

inductive SwitchFile where
  | file (content : String)
  | directory
  /-- Neither the file nor the directory for it is there. -/
  | missing
  deriving DecidableEq

namespace SwitchFile

/-- Writes one digit in place of the content. -/
def write (value : Bool) : SwitchFile → Except OsError Unit × SwitchFile
  | file _ => (.ok (), file (if value then "1" else "0"))
  | directory => (.error (.errno Errno.isDirectory), directory)
  | missing => (.error (.errno Errno.noEntry), missing)

def content? : SwitchFile → Option String
  | file content => some content
  | _ => none

end SwitchFile

instance : Sysctl SwitchFile where
  setBool _ value file := file.write value

end Multicast
