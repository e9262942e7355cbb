import Multicast.RoutingError

/-!
What can go wrong in the daemon, from reading its configuration to driving the kernel.
-/

namespace Multicast

inductive SchemaError where
  | invalidType (found wanted : String)
  | invalidValue (found wanted : String)
  /-- A list that stands for a record ends before a field that has no default. -/
  | invalidLength (length : Nat) (wanted : String)
  | missingField (name : String)
  /-- What is written makes no integer that 128 bits can hold. -/
  | integerOverflow
  | floatOverflow
  | input (err : InputError)
  deriving DecidableEq

namespace SchemaError

def message : SchemaError → String
  | invalidType found wanted => "invalid type: " ++ found ++ ", expected " ++ wanted
  | invalidValue found wanted => "invalid value: " ++ found ++ ", expected " ++ wanted
  | invalidLength length wanted =>
    "invalid length " ++ toString length ++ ", expected " ++ wanted
  | missingField name => "missing field `" ++ name ++ "`"
  | integerOverflow => "integer number overflowed"
  | floatOverflow => "floating-point number overflowed"
  | input err => err.message

end SchemaError

inductive DocumentError where
  | malformed
  | schema (err : SchemaError)
  deriving DecidableEq

inductive DaemonError where
  | unreadable (path : String) (cause : DocumentError)
  | configuration (text : String)
  | input (err : InputError)
  | unknownInterface (name : String)
  | noSlot (iface slotKind : String)
  | discovery (text : String)
  | routing (err : RoutingError)
  | system (err : OsError)
  deriving DecidableEq

namespace DaemonError

/-- The message, without what an unreadable document is like. -/
def message : DaemonError → String
  | unreadable path _ => "Failed to parse config file " ++ path
  | configuration text => "Configuration error: " ++ text
  | input err => "Invalid value: " ++ err.message
  | unknownInterface name => "Unknown interface " ++ name
  | noSlot iface slotKind => "Interface " ++ iface ++ " has no " ++ slotKind
  | discovery text => "Interface discovery failed: " ++ text
  | routing err => err.message
  | system err => "IO error: " ++ err.message

/-- The messages of an error and of what caused it, which the error's own message may repeat. -/
def chain (err : DaemonError) : List String :=
  match err with
  | input cause => [err.message, cause.message]
  | routing cause => err.message :: (cause.cause?.map OsError.message).toList
  | system cause => [err.message, cause.message]
  | _ => [err.message]

end DaemonError

/-- An error with what was being done, the outermost first. -/
structure Failure where
  contexts : List String := []
  cause : DaemonError
  deriving DecidableEq

def Failure.message (failure : Failure) : String :=
  ": ".intercalate (failure.contexts ++ failure.cause.chain)

end Multicast
