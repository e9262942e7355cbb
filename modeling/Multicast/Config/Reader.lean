import Multicast.DaemonError
import Multicast.Toml.Value

/-!
Reading values of a document as what a configuration wants in their place. Before anything else a
number must be one that can be held, also where nobody asks for it.
-/

namespace Multicast

open Toml (Value)

abbrev Reader (α : Type) := Value → Except SchemaError α

namespace Reader

def fits64 (n : Int) : Bool := -0x8000000000000000 ≤ n && n ≤ 0xffffffffffffffff

/-- How an integer is named in an error; one that does not fit into 64 bits is marked by the kind
of 128 bits that hold it. -/
def integerShown (n : Int) : String :=
  let shown := "integer `" ++ toString n ++ "`"
  if fits64 n then shown
  else if n ≤ 0x7fffffffffffffffffffffffffffffff then shown ++ " as i128"
  else shown ++ " as u128"

def shown : Value → String
  | .string text => "string " ++ Quoted.write text
  | .integer (some n) => integerShown n
  | .integer none => "integer"
  | .float (some x) => "floating point `" ++ x.text ++ "`"
  | .float none => "floating point"
  | .boolean true => "boolean `true`"
  | .boolean false => "boolean `false`"
  | .array _ | .tables _ => "sequence"
  | .moment | .table _ _ => "map"

def overflow? : Value → Option SchemaError
  | .integer none => some .integerOverflow
  | .float none => some .floatOverflow
  | _ => none

/-- Refuses a value, for its size if that is at fault, and else for its type. -/
def unexpected {α : Type} (wanted : String) (value : Value) : Except SchemaError α :=
  .error ((overflow? value).getD (.invalidType (shown value) wanted))

def text : Reader String
  | .string text => .ok text
  | value => unexpected "a string" value

def path : Reader String
  | .string text => .ok text
  | value => unexpected "path string" value

def boolean : Reader Bool
  | .boolean b => .ok b
  | value => unexpected "a boolean" value

def byte : Reader UInt8
  | .integer (some n) =>
    if 0 ≤ n && n < 256 then .ok (UInt8.ofNat n.toNat)
    else if fits64 n then
      .error (.invalidValue (integerShown n) "u8")
    else unexpected "u8" (.integer (some n))
  | value => unexpected "u8" value

def elements? : Value → Option (List Value)
  | .array items => some items
  | .tables items => some (items.map (.table .header))
  | _ => none

/-- The entries of a table. A date or a time counts as a table whose keys nobody knows. -/
def entries? : Value → Option (List (String × Value))
  | .table _ entries => some entries
  | .moment => some []
  | _ => none

def list {α : Type} (reader : Reader α) : Reader (List α) := fun value =>
  match elements? value with
  | some items => items.mapM reader
  | none => unexpected "a sequence" value

def parsed {α : Type} (parse : String → Except InputError α) : Reader α := fun value =>
  match text value with
  | .ok text => (parse text).mapError .input
  | .error err => .error err

mutual

def ignored : Reader Unit
  | .array items => ignoredAll items
  | .tables items => ignoredTables items
  | .table _ entries => ignoredEntries entries
  | value =>
    match overflow? value with
    | some err => .error err
    | none => .ok ()

def ignoredAll : List Value → Except SchemaError Unit
  | [] => .ok ()
  | value :: rest => do
    ignored value
    ignoredAll rest

def ignoredEntries : List (String × Value) → Except SchemaError Unit
  | [] => .ok ()
  | (_, value) :: rest => do
    ignored value
    ignoredEntries rest

def ignoredTables : List (List (String × Value)) → Except SchemaError Unit
  | [] => .ok ()
  | entries :: rest => do
    ignoredEntries entries
    ignoredTables rest

end

/-- A field of a record `ρ`: its key, and how its value is recorded. -/
structure Field (ρ : Type) where
  key : String
  required : Bool := false
  record : Value → ρ → Except SchemaError ρ

structure Shape (ρ : Type) where
  name : String
  fields : List (Field ρ)

namespace Shape

variable {ρ : Type}

/-- Records the fields that a table gives, in the order of its keys, and passes over other keys. -/
def recordEntries (shape : Shape ρ) : List (String × Value) → ρ → Except SchemaError ρ
  | [], record => .ok record
  | (key, value) :: rest, record =>
    match shape.fields.find? fun field => field.key = key with
    | some field => do shape.recordEntries rest (← field.record value record)
    | none => do
      ignored value
      shape.recordEntries rest record

/-- Records fields by their position; what stands beyond the last field is not read. -/
def recordItems (shape : Shape ρ) : List (Field ρ) → List Value → ρ → Except SchemaError ρ
  | field :: fields, value :: rest, record => do
    shape.recordItems fields rest (← field.record value record)
  | _, _, record => .ok record

def missingAt? (shape : Shape ρ) (position : Nat) : Option Nat :=
  ((shape.fields.drop position).findIdx? Field.required).map (position + ·)

def wantedLength (shape : Shape ρ) : String :=
  "struct " ++ shape.name ++ " with " ++ toString shape.fields.length ++ " elements"

/-- Reads a record from a table, or from an array of its fields in order, over defaults. -/
def read (shape : Shape ρ) (defaults : ρ) : Reader ρ := fun value =>
  match entries? value, elements? value with
  | some entries, _ => do
    let record ← shape.recordEntries entries defaults
    match shape.fields.find? fun field =>
        field.required && (entries.lookup field.key).isNone with
    | some field => .error (.missingField field.key)
    | none => .ok record
  | none, some items => do
    let record ← shape.recordItems shape.fields items defaults
    match shape.missingAt? items.length with
    | some length => .error (.invalidLength length shape.wantedLength)
    | none => .ok record
  | none, none => unexpected ("struct " ++ shape.name) value

end Shape

end Reader

end Multicast
