import Multicast.Text.Numeral
import Multicast.Text.Unicode

/-!
Search patterns, as far as to tell whether a text is one. Patterns whose meaning would need tables
of letters are refused: classes of words, digits or blanks, word boundaries, and characters that
are to be matched in either case, unless only ASCII is meant. Then again what could match a part of
a character beyond ASCII is refused.
-/

namespace Multicast.Pattern

structure Mode where
  folds : Bool := false
  unicode : Bool := true
  spaced : Bool := false

namespace Mode

def isFlag (c : Char) : Bool := ['i', 'm', 's', 'U', 'u', 'R', 'x'].contains c

/-- The mode that flags make, those behind a dash being taken back. -/
def withFlags (mode : Mode) (flags : List Char) : Mode :=
  let set := flags.takeWhile (· ≠ '-')
  let cleared := flags.dropWhile (· ≠ '-')
  { folds := (mode.folds || set.contains 'i') && !cleared.contains 'i'
    unicode := (mode.unicode || set.contains 'u') && !cleared.contains 'u'
    spaced := (mode.spaced || set.contains 'x') && !cleared.contains 'x' }

end Mode

/-! ### Nesting

How deep the parts of a pattern lie in one another. A character by itself has depth zero. -/

/-- Parts side by side: how many there are, and how deep the deepest is. -/
structure Parts where
  count : Nat := 0
  deepest : Nat := 0

namespace Parts

def add (parts : Parts) (depth : Nat) : Parts :=
  { count := parts.count + 1, deepest := max parts.deepest depth }

/-- A part alone adds nothing to its depth; several lie one level below the whole. -/
def depth (parts : Parts) : Nat :=
  if parts.count ≤ 1 then parts.deepest else parts.deepest + 1

end Parts

structure Group where
  before : Parts := {}
  parts : Parts := {}
  /-- The depth of the last part, if it can be repeated. -/
  operand : Option Nat := none

namespace Group

def add (group : Group) (depth : Nat) : Group :=
  { group with parts := group.parts.add depth, operand := some depth }

/-- Flags are a part that cannot be repeated. -/
def addFlags (group : Group) : Group :=
  { group with parts := group.parts.add 0, operand := none }

def repeated? (group : Group) : Option Group :=
  group.operand.map fun depth =>
    { group with
      parts := { group.parts with deepest := max group.parts.deepest (depth + 1) }
      operand := some (depth + 1) }

def alternative (group : Group) : Group := { before := group.before.add group.parts.depth }

def depth (group : Group) : Nat := (group.before.add group.parts.depth).depth

end Group

structure Bracket where
  /-- The depth of what stands before the last operation, if there has been one. -/
  left : Option Nat := none
  items : Parts := {}

namespace Bracket

def add (bracket : Bracket) (depth : Nat) : Bracket :=
  { bracket with items := bracket.items.add depth }

def depth (bracket : Bracket) : Nat :=
  match bracket.left with
  | some left => max left bracket.items.depth + 1
  | none => bracket.items.depth

def operate (bracket : Bracket) : Bracket := { left := some bracket.depth }

end Bracket

/-! ### Reading -/

/-- What the last item of a class is to a dash behind it. -/
inductive Start where
  | nothing
  | character (value : Nat)
  | shorthand

/-- What the next character is part of. -/
inductive Place where
  | item
  /-- Before a mark that belongs to the one in front of it. -/
  | mark
  | escape
  /-- Hexadecimal digits are still to come, of a byte or of a code point; those before them made a
  value. -/
  | digits (byte : Bool) (left value : Nat)
  | group
  | kind
  | namesGroup
  | name (reversed : List Char)
  /-- Behind some flags of a group, the last first. -/
  | flags (reversed : List Char)
  | opening (canNegate canClose : Bool)
  | member (start : Start)
  | className
  | range

def Place.isSpaced : Place → Bool
  | .item | .digits _ _ _ | .group | .opening _ _ | .member _ | .range => true
  | _ => false

structure State where
  place : Place := .item
  inComment : Bool := false
  mode : Mode := {}
  group : Group := {}
  /-- The groups around it, and the modes there, the innermost first. -/
  outer : List (Mode × Group) := []
  brackets : List Bracket := []
  rangeStart : Option Nat := none
  names : List (List Char) := []

namespace State

def part (state : State) (depth : Nat) : State :=
  match state.brackets with
  | [] => { state with place := .item, group := state.group.add depth }
  | bracket :: outer =>
    { state with place := .member .nothing, brackets := bracket.add depth :: outer }

/-- The character can be matched in this mode and place; it may be written as a byte. -/
def supports (state : State) (byte : Bool) (value : Nat) : Bool :=
  if state.mode.unicode then !state.mode.folds
  else value < 0x80 || !byte && state.brackets.isEmpty

def literal? (state : State) (byte : Bool) (value : Nat) : Option State :=
  if !state.supports byte value then none
  else if state.brackets.isEmpty then some (state.part 0)
  else
    match state.rangeStart with
    | none => some { state.part 0 with place := .member (.character value) }
    | some start =>
      if start ≤ value then some { state with place := .member .nothing, rangeStart := none }
      else none

def shorthand? (state : State) (negated : Bool) : Option State :=
  if state.mode.unicode || negated || state.rangeStart.isSome then none
  else if state.brackets.isEmpty then some (state.part 0)
  else some { state.part 0 with place := .member .shorthand }

/-- A place between characters, which no class can hold. -/
def assertion? (state : State) : Option State :=
  if state.brackets.isEmpty then some (state.part 0) else none

def escape? (state : State) (c : Char) : Option State :=
  match c with
  | 'x' => some { state with place := .digits true 2 0 }
  | 'u' => some { state with place := .digits false 4 0 }
  | 'U' => some { state with place := .digits false 8 0 }
  | 'a' | 'f' | 't' | 'n' | 'r' | 'v' => state.literal? false (controlCode c)
  | 'A' | 'z' => state.assertion?
  | 'b' | 'B' | '<' | '>' => if state.mode.unicode then none else state.assertion?
  | 'd' | 's' | 'w' => state.shorthand? false
  | 'D' | 'S' | 'W' => state.shorthand? true
  | _ => if c.isAlphanum || 0x80 ≤ c.toNat then none else state.literal? false c.toNat
where
  controlCode : Char → Nat
    | 'a' => 0x07
    | 'f' => 0x0c
    | 't' => 0x09
    | 'n' => 0x0a
    | 'r' => 0x0d
    | _ => 0x0b

def digit? (state : State) (byte : Bool) (left value : Nat) (c : Char) : Option State :=
  match Numeral.digit? 16 c with
  | some digit =>
    let value := value * 16 + digit
    if 1 < left then some { state with place := .digits byte (left - 1) value }
    else if value.isValidChar then state.literal? byte value
    else none
  | none => none

def openGroup (state : State) (mode : Mode) : State :=
  { state with
    place := .item, mode, group := {}, outer := (state.mode, state.group) :: state.outer }

def closeGroup? (state : State) : Option State :=
  match state.outer with
  | (mode, group) :: outer =>
    some { state with mode, group := group.add (state.group.depth + 1), outer }
  | [] => none

/-- Repeats the last part; a question mark right behind belongs to the repetition. -/
def repeated? (state : State) (rest : List Char) : Option State :=
  state.group.repeated?.map fun group =>
    { state with group, place := if rest.head? = some '?' then .mark else .item }

def openBracket (state : State) : State :=
  { state with place := .opening true true, brackets := {} :: state.brackets }

def closeBracket (state : State) : State :=
  match state.brackets with
  | bracket :: outer => { state with brackets := outer }.part (bracket.depth + 1)
  | [] => state

def item? (state : State) (c : Char) (rest : List Char) : Option State :=
  match c with
  | '\\' => some { state with place := .escape }
  | '(' => some { state with place := .group }
  | ')' => state.closeGroup?
  | '|' => some { state with group := state.group.alternative }
  | '[' => some state.openBracket
  | '*' | '+' | '?' => state.repeated? rest
  | '\x7b' => none
  | '.' => if state.mode.unicode then some (state.part 0) else none
  | '^' | '$' => some (state.part 0)
  | _ => state.literal? false c.toNat

def flags? (state : State) (reversed : List Char) (c : Char) : Option State :=
  let mode := state.mode.withFlags reversed.reverse
  if c = ':' then
    if reversed.head? = some '-' then none else some (state.openGroup mode)
  else if c = ')' then
    if reversed.isEmpty || reversed.head? = some '-' then none
    else some { state with place := .item, mode, group := state.group.addFlags }
  else if (Mode.isFlag c || c = '-') && !reversed.contains c then
    some { state with place := .flags (c :: reversed) }
  else none

/-- A name starts with a letter or an underscore, and is given once. -/
def name? (state : State) (reversed : List Char) (c : Char) : Option State :=
  let fits :=
    if reversed.isEmpty then c = '_' || Alphabetic.contains c
    else ['_', '.', '[', ']'].contains c || Alphanumeric.contains c
  if c = '>' then
    if reversed.isEmpty || state.names.contains reversed then none
    else some { state.openGroup state.mode with names := reversed :: state.names }
  else if fits then some { state with place := .name (c :: reversed) }
  else none

/-- Behind a bracket stands the name of a class between colons; gives whether it is negated. -/
def className? : List Char → Option Bool
  | ':' :: rest =>
    let negated := rest.head? = some '^'
    let behind := if negated then rest.drop 1 else rest
    let name := behind.takeWhile (· ≠ ':')
    if isClass (String.ofList name) && (behind.drop name.length).take 2 = [':', ']'] then
      some negated
    else none
  | _ => none
where
  isClass (name : String) : Bool :=
    ["alnum", "alpha", "ascii", "blank", "cntrl", "digit", "graph", "lower", "print", "punct",
      "space", "upper", "word", "xdigit"].contains name

def named? (state : State) (negated : Bool) : Option State :=
  let isRefused := if state.mode.unicode then state.mode.folds else negated
  if isRefused then none else some { state.part 0 with place := .className }

def member? (state : State) (c : Char) (rest : List Char) : Option State :=
  match c with
  | ']' => some state.closeBracket
  | '[' =>
    match className? rest with
    | some negated => state.named? negated
    | none => some state.openBracket
  | '\\' => some { state with place := .escape }
  | _ =>
    match state.brackets with
    | bracket :: outer =>
      if ['&', '-', '~'].contains c && rest.head? = some c then
        some { state with place := .mark, brackets := bracket.operate :: outer }
      else state.literal? false c.toNat
    | [] => state.literal? false c.toNat

/-- The character that tells what a dash before it means. With comments this is one that is no
white space: the first, or the one behind the mark of a comment. -/
def behindDash? (state : State) (rest : List Char) : Option Char :=
  if state.mode.spaced then
    match rest.filter fun c => !WhiteSpace.contains c with
    | [] | ['#'] => rest.head?
    | '#' :: c :: _ => some c
    | c :: _ => some c
  else rest.head?

/-- A dash makes a range with what stands before it, unless it is the last item of a class or part
of an operation. -/
def behindMember? (state : State) (start : Start) (c : Char) (rest : List Char) : Option State :=
  let isDash := c = '-' && !(state.behindDash? rest).any fun c => c = '-' || c = ']'
  match start with
  | .character value =>
    if isDash then some { state with place := .range, rangeStart := some value }
    else state.member? c rest
  | .shorthand => if isDash then none else state.member? c rest
  | .nothing => state.member? c rest

/-- The start of a class: a mark that negates it, dashes, or a bracket that does not end it. -/
def opening? (state : State) (canNegate canClose : Bool) (c : Char) (rest : List Char) :
    Option State :=
  if c = '^' && canNegate then
    if state.mode.unicode then some { state with place := .opening false true } else none
  else if c = '-' then
    (state.literal? false c.toNat).map fun state => { state with place := .opening false false }
  else if c = ']' && canClose then
    (state.literal? false c.toNat).map fun state => { state with place := .member .nothing }
  else state.member? c rest

/-- Reads one more character of the pattern, before the rest of it; none if no pattern goes on like
that. -/
def read? (state : State) (c : Char) (rest : List Char) : Option State :=
  match state.place with
  | .item => state.item? c rest
  | .mark => some { state with place := if state.brackets.isEmpty then .item else .member .nothing }
  | .escape => state.escape? c
  | .digits byte left value => state.digit? byte left value c
  | .group =>
    if c = '?' then some { state with place := .kind }
    else (state.openGroup state.mode).item? c rest
  | .kind =>
    match c with
    | 'P' => some { state with place := .namesGroup }
    | '<' => some { state with place := .name [] }
    | _ => state.flags? [] c
  | .namesGroup => if c = '<' then some { state with place := .name [] } else none
  | .name reversed => state.name? reversed c
  | .flags reversed => state.flags? reversed c
  | .opening canNegate canClose => state.opening? canNegate canClose c rest
  | .member start => state.behindMember? start c rest
  | .className => some (if c = ']' then { state with place := .member .nothing } else state)
  | .range =>
    if c = '\\' then some { state with place := .escape } else state.literal? false c.toNat

def step? (state : State) (c : Char) (rest : List Char) : Option State :=
  if state.inComment then some { state with inComment := c ≠ '\n' }
  else if state.mode.spaced && state.place.isSpaced && (WhiteSpace.contains c || c = '#') then
    some { state with inComment := c = '#' }
  else state.read? c rest

def maxDepth : Nat := 250

def isComplete (state : State) : Bool :=
  match state.place with
  | .item => state.outer.isEmpty && state.group.depth ≤ maxDepth
  | _ => false

def accepts : State → List Char → Bool
  | state, [] => state.isComplete
  | state, c :: rest =>
    match state.step? c rest with
    | some state => state.accepts rest
    | none => false

end State

/-- The text is a search pattern. -/
def isWellFormed (cs : List Char) : Bool := State.accepts {} cs

end Multicast.Pattern
