import Multicast.Decimal.Binary64

/-!
Values of a TOML document, and the tables that are built from it. A table remembers how it came to
be, which decides what may still be added to it. Its keys are kept in ascending order, since the
order in which a document gives them carries no meaning.
-/

namespace Multicast.Toml

inductive Origin where
  | header
  /-- A longer header runs through it. -/
  | implied
  | dotted
  /-- It is written between braces, which hold all of it. -/
  | braces
  deriving DecidableEq

inductive Value where
  | string (text : String)
  /-- An integer, or none if what is written makes none that can be held. -/
  | integer (value : Option Int)
  /-- A floating-point number, or none if it is too large for one. -/
  | float (value : Option Binary64)
  | boolean (value : Bool)
  | moment
  | array (items : List Value)
  /-- An array of tables that have a header each. -/
  | tables (items : List (List (String × Value)))
  | table (origin : Origin) (entries : List (String × Value))

structure Table where
  origin : Origin
  entries : List (String × Value)

namespace Table

def empty (origin : Origin) : Table := ⟨origin, []⟩

def toValue (table : Table) : Value := .table table.origin table.entries

def get? (table : Table) (key : String) : Option Value := table.entries.lookup key

/-- Puts a value at its key's place, over what was there. -/
def place (key : String) (value : Value) : List (String × Value) → List (String × Value)
  | [] => [(key, value)]
  | head :: rest =>
    if key < head.1 then (key, value) :: head :: rest
    else if key = head.1 then (key, value) :: rest
    else head :: place key value rest

def put (table : Table) (key : String) (value : Value) : Table :=
  { table with entries := place key value table.entries }

/-- A header may run through any table that is not closed; a dotted key only through those that no
header names. -/
def mayPass (step : Origin) (table : Origin) : Bool :=
  match step, table with
  | _, .braces => false
  | .dotted, .header => false
  | _, _ => true

/-- Edits the table at a path. What is missing on the way is made, with the given origin; of an
array of tables the last one is meant. -/
def edit? (step : Origin) (change : Table → Option Table) : List String → Table → Option Table
  | [], table => change table
  | key :: path, table =>
    match table.get? key with
    | none => (edit? step change path (empty step)).map fun inner => table.put key inner.toValue
    | some (.table origin entries) =>
      if mayPass step origin then
        (edit? step change path ⟨origin, entries⟩).map fun inner => table.put key inner.toValue
      else none
    | some (.tables items) =>
      match items.getLast? with
      | some last =>
        (edit? step change path ⟨.header, last⟩).map fun inner =>
          table.put key (.tables (items.dropLast ++ [inner.entries]))
      | none => none
    | some _ => none

structure Key where
  path : List String
  name : String

/-- Adds a value under a key that is not taken. A dotted key cannot add to a table that a header
made. -/
def insert? (key : Key) (value : Value) (table : Table) : Option Table :=
  edit? .dotted
    (fun inner =>
      if (key.path.isEmpty || inner.origin = .dotted) && (inner.get? key.name).isNone then
        some (inner.put key.name value)
      else none)
    key.path table

/-- Opens the table of a header. It must be new, or only a step on the way to others. -/
def openTable? (key : Key) (table : Table) : Option Table :=
  edit? .implied
    (fun parent =>
      match parent.get? key.name with
      | none => some (parent.put key.name (.table .header []))
      | some (.table .implied entries) => some (parent.put key.name (.table .header entries))
      | some _ => none)
    key.path table

def openElement? (key : Key) (table : Table) : Option Table :=
  edit? .implied
    (fun parent =>
      match parent.get? key.name with
      | none => some (parent.put key.name (.tables [[]]))
      | some (.tables items) => some (parent.put key.name (.tables (items ++ [[]])))
      | some _ => none)
    key.path table

end Table

end Multicast.Toml
