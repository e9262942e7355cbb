import Multicast.Log.Directive

/-!
Which events are shown. A filter is a list of directives, of which the most specific one decides.
-/

namespace Multicast

structure Filter where
  directives : List Directive
  deriving DecidableEq

namespace Filter

def read (text : String) : Except DirectiveError Filter :=
  let pieces := (text.toList.splitOn ',').filter fun piece => !piece.isEmpty
  (pieces.mapM Directive.ofChars).map Filter.mk

def default : Filter := ⟨[{ threshold := some .info }]⟩

/-- The filter that a text asks for, or the default if the text is malformed; none if it has a
misplaced position. -/
def ofText? (text : String) : Option Filter :=
  match read text with
  | .ok filter => some filter
  | .error .malformed => some default
  | .error .misplaced => none

/-- The threshold of the most specific directive of a kind, the last of equal ones. -/
def threshold (filter : Filter) (covers : Directive → Bool) : Threshold :=
  let candidates := filter.directives.filter fun directive =>
    directive.isStatic && covers directive
  let best := candidates.foldl
    (fun best directive =>
      if best.all fun other => directive.isAsSpecific other then some directive else best)
    (none : Option Directive)
  best.bind Directive.threshold

/-- The filter lets events of a level through because they happen inside the scope. A directive
that asks for a value lets nothing through. -/
def opens (filter : Filter) (scope : Scope) (level : Level) : Bool :=
  filter.directives.any fun directive =>
    directive.coversScope scope && (directive.fields.all fun field => field.value.isNone) &&
      directive.threshold.admits level

/-- A scope is shown like an event of information, or because a directive is about it. -/
def showsScope (filter : Filter) (scope : Scope) : Bool :=
  (filter.threshold fun directive => directive.coversTarget scope.target).admits .info ||
    filter.directives.any fun directive => directive.coversScope scope

def shows (filter : Filter) (event : Event) : Bool :=
  (filter.threshold fun directive => directive.coversEvent event).admits event.level ||
    event.scopes.any fun scope => filter.opens scope event.level

def lines (filter : Filter) (events : List Event) : List String :=
  (events.filter filter.shows).map fun event =>
    { event with scopes := event.scopes.filter filter.showsScope }.line

end Filter

end Multicast
