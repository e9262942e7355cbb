import Multicast.Log.Threshold
import Multicast.Text.Pattern
import Multicast.Text.Unicode

/-!
Directives: what is to be shown of the events that they are about, and how one is written.
-/

namespace Multicast.BytePosition

def size : List Char → Nat
  | [] => 0
  | c :: rest => c.utf8Size + size rest

/-- Cuts at a position, unless it lies inside a character or beyond the end. -/
def cut? : Nat → List Char → Option (List Char × List Char)
  | 0, cs => some ([], cs)
  | _, [] => none
  | position, c :: rest =>
    if c.utf8Size ≤ position then
      (cut? (position - c.utf8Size) rest).map fun cut => (c :: cut.1, cut.2)
    else none

def slice? (start stop : Nat) (cs : List Char) : Option (List Char) := do
  let (_, rest) ← cut? start cs
  let (between, _) ← cut? (stop - start) rest
  some between

end Multicast.BytePosition

namespace Multicast

structure FieldTest where
  name : String
  value : Option String := none
  deriving DecidableEq

structure Directive where
  target : Option String := none
  scope : Option String := none
  fields : List FieldTest := []
  threshold : Threshold := some .trace
  deriving DecidableEq

inductive DirectiveError where
  | malformed
  /-- A position in the text lies inside a character. -/
  | misplaced
  deriving DecidableEq

namespace FieldTest

def isSignedNumber : List Char → Bool
  | '+' :: cs =>
    let word := String.ofList (cs.map Char.toLower)
    let mantissa := cs.takeWhile fun c => c ≠ 'e' && c ≠ 'E'
    let digits := mantissa.filter (· ≠ '.')
    word = "inf" || word = "infinity" || word = "nan" ||
      !digits.isEmpty && digits.all Char.isDigit && mantissa.count '.' ≤ 1 &&
        isExponent (cs.drop mantissa.length)
  | _ => false
where
  isExponent : List Char → Bool
    | [] => true
    | _ :: '+' :: digits | _ :: '-' :: digits | _ :: digits =>
      !digits.isEmpty && digits.all Char.isDigit

/-- Reads the name of a field, and a pattern for its value behind an equals sign. What follows a
second equals sign is not read. -/
def ofText (text : String) : Except DirectiveError FieldTest :=
  match text.toList.splitOn '=' with
  | name :: value :: _ =>
    if Pattern.isWellFormed value || isSignedNumber value then
      .ok ⟨String.ofList name, some (String.ofList value)⟩
    else .error .malformed
  | _ => if text.isEmpty then .error .malformed else .ok ⟨text, none⟩

end FieldTest

/-!
The marks of a directive are looked for in its text without the white space around it, but their
positions are then taken in the text as it was given.
-/
namespace Directive

def mayStart (c : Char) : Bool := Alphanumeric.contains c || ['-', ':', '_'].contains c

def between (given : List Char) (start stop : Nat) : Except DirectiveError String :=
  match BytePosition.slice? start stop given with
  | some cs => .ok (String.ofList cs)
  | none => .error .misplaced

/-- The threshold that is all of the text from a position on; if there is none, all is shown. -/
def thresholdAt (given : List Char) (start : Nat) : Except DirectiveError Threshold :=
  match BytePosition.cut? start given with
  | some (_, []) => .ok (some .trace)
  | some (_, cs) =>
    match Threshold.ofText? (String.ofList cs) with
    | some threshold => .ok threshold
    | none => .error .malformed
  | none => .error .misplaced

def ending (given : List Char) (start : Nat) : List Char → Except DirectiveError Threshold
  | [] => .ok (some .trace)
  | '=' :: _ => thresholdAt given (start + 1)
  | _ => .error .malformed

def fieldAt (given : List Char) (start : Nat) (cs : List Char) :
    Except DirectiveError (FieldTest × Threshold) := do
  let inner := cs.takeWhile (· ≠ '\x7d')
  let stop := start + BytePosition.size inner
  match cs.drop inner.length with
  | [] => .error .malformed
  | _ :: behind =>
    let field ← FieldTest.ofText (← between given start stop)
    match behind with
    | ']' :: rest => .ok (field, ← ending given (stop + 2) rest)
    | _ => .error .malformed

def scopeAt (target : Option String) (given : List Char) (start : Nat) (cs : List Char) :
    Except DirectiveError Directive := do
  let inner := cs.takeWhile fun c => c ≠ ']' && c ≠ '\x7b'
  let stop := start + BytePosition.size inner
  match cs.drop inner.length with
  | [] => .error .malformed
  | mark :: rest =>
    let name ← between given start stop
    if mark = ']' then
      .ok { target, scope := some name, threshold := ← ending given (stop + 1) rest }
    else
      let (field, threshold) ← fieldAt given (stop + 1) rest
      let scope := if name.isEmpty then none else some name
      .ok { target, scope, fields := [field], threshold }

/-- Reads a target, a scope and a threshold. A text without marks is a threshold if it can be read
as one, and else a target. -/
def ofChars (given : List Char) : Except DirectiveError Directive :=
  let cs := WhiteSpace.trim given
  let front := cs.takeWhile fun c => c ≠ '=' && c ≠ '['
  let stop := BytePosition.size front
  match front, cs.drop front.length with
  | [], '[' :: rest => scopeAt none given 1 rest
  | [], _ => .error .malformed
  | c :: _, behind =>
    if mayStart c then
      match behind with
      | [] =>
        match Threshold.ofText? (String.ofList given) with
        | some threshold => .ok { threshold }
        | none => .ok { target := some (String.ofList given) }
      | mark :: rest => do
        let target ← between given 0 stop
        if mark = '=' then .ok { target, threshold := ← thresholdAt given (stop + 1) }
        else scopeAt target given (stop + 1) rest
    else .error .malformed

def fieldNames (directive : Directive) : List String := directive.fields.map FieldTest.name

/-- It is about events by themselves, wherever they happen. -/
def isStatic (directive : Directive) : Bool :=
  directive.scope.isNone && directive.fields.all fun field => field.value.isNone

def isDynamic (directive : Directive) : Bool :=
  directive.scope.isSome || !directive.fields.isEmpty

def coversTarget (directive : Directive) (target : String) : Bool :=
  directive.target.all fun front => front.toList.isPrefixOf target.toList

def coversEvent (directive : Directive) (event : Event) : Bool :=
  directive.coversTarget event.target && directive.fieldNames.all event.fieldNames.contains

def coversScope (directive : Directive) (scope : Scope) : Bool :=
  directive.isDynamic && directive.coversTarget scope.target &&
    directive.scope.all (· = scope.name) &&
    directive.fieldNames.all (scope.fields.map Prod.fst).contains

def reach (directive : Directive) : Nat :=
  match directive.target with
  | some front => front.utf8ByteSize + 1
  | none => 0

/-- It says no less about what it covers than another directive that covers the same: more about
the target, or else about more fields, or else about fields later in the alphabet. -/
def isAsSpecific (directive other : Directive) : Bool :=
  if directive.reach ≠ other.reach then other.reach < directive.reach
  else if directive.fields.length ≠ other.fields.length then
    other.fields.length < directive.fields.length
  else !(directive.fieldNames.lex other.fieldNames fun name other => name < other)

end Directive

end Multicast
