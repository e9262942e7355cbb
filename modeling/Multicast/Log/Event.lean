import Multicast.Text.Quoted

/-!
Log events, and the line that shows one.
-/

namespace Multicast

inductive Level where
  | trace
  | debug
  | info
  | warn
  | error
  deriving DecidableEq

namespace Level

def rank : Level → Nat
  | trace => 1
  | debug => 2
  | info => 3
  | warn => 4
  | error => 5

def name : Level → String
  | trace => "TRACE"
  | debug => "DEBUG"
  | info => "INFO"
  | warn => "WARN"
  | error => "ERROR"

end Level

inductive FieldValue where
  | text (value : String)
  | quoted (value : String)
  | number (value : Nat)
  deriving DecidableEq

def FieldValue.written : FieldValue → String
  | text value => value
  | quoted value => Quoted.write value
  | number value => toString value

structure Scope where
  name : String
  target : String
  fields : List (String × FieldValue) := []
  deriving DecidableEq

def fieldsWritten (fields : List (String × FieldValue)) : List String :=
  fields.map fun field => field.1 ++ "=" ++ field.2.written

def Scope.label (scope : Scope) : String :=
  match scope.fields with
  | [] => scope.name
  | fields => scope.name ++ "\x7b" ++ " ".intercalate (fieldsWritten fields) ++ "\x7d"

structure Event where
  level : Level
  target : String
  message : String
  fields : List (String × FieldValue) := []
  scopes : List Scope := []
  deriving DecidableEq

namespace Event

def inside (scope : Scope) (event : Event) : Event :=
  { event with scopes := scope :: event.scopes }

def fieldNames (event : Event) : List String := "message" :: event.fields.map Prod.fst

/-- Level, scopes, target, message and fields. The message is kept from driving a terminal. -/
def line (event : Event) : String :=
  let scopes :=
    match event.scopes with
    | [] => ""
    | scopes => ":".intercalate (scopes.map Scope.label) ++ ": "
  event.level.name ++ " " ++ scopes ++ event.target ++ ": " ++
    " ".intercalate (Guarded.write event.message :: fieldsWritten event.fields)

end Event

/-! The parts of the program that log. -/
namespace Target

def slots : String := "sonic_mroute::vif"

def installer : String := "sonic_mroute::installer"

def registry : String := "sonic_mroute::registry"

def channel : String := "sonic_mroute::channel"

def config : String := "sonic_mroutemgrd::config"

def manager : String := "sonic_mroutemgrd::mgr"

def program : String := "mroutemgrd"

end Target

end Multicast
