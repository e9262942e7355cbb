import Multicast.Toml.Scalar
import Multicast.Toml.Tree

/-!
TOML documents: lines that open tables or add values to the open one.
-/

namespace Multicast.Toml

/-- A token, or brackets read as the value that they hold. -/
inductive Part where
  | token (token : Token)
  | value (value : Value)

namespace Part

def isBlank : Part → Bool
  | .token (.blank _) => true
  | _ => false

def isFiller : Part → Bool
  | .token (.blank _) | .token .newline | .token .comment => true
  | _ => false

def isComma : Part → Bool
  | .token .comma => true
  | _ => false

def isDot : Part → Bool
  | .token .dot => true
  | _ => false

def isEquals : Part → Bool
  | .token .equals => true
  | _ => false

end Part

def trimmed {α : Type} (p : α → Bool) (xs : List α) : List α :=
  ((xs.dropWhile p).reverse.dropWhile p).reverse

def cutAtEach {α : Type} (p : α → Bool) : List α → List (List α)
  | [] => [[]]
  | x :: rest =>
    if p x then [] :: cutAtEach p rest
    else
      match cutAtEach p rest with
      | [] => [[x]]
      | first :: others => (x :: first) :: others

def maxDepth : Nat := 80

def maxKeyLength : Nat := 80

namespace Table.Key

def isBareChar (c : Char) : Bool := c.isAlphanum || c = '_' || c = '-'

/-- The name that a part of a key writes: bare, or a string of one line. -/
def name? : List Part → Option String
  | [.token (.bare text)] => if text.all isBareChar then some (String.ofList text) else none
  | [.token (.string text false)] => some (String.ofList text)
  | _ => none

def ofParts? (parts : List Part) : Option Key := do
  let names ← ((cutAtEach Part.isDot parts).map (trimmed Part.isBlank)).mapM name?
  let name ← names.getLast?
  if names.length ≤ maxKeyLength then some ⟨names.dropLast, name⟩ else none

end Table.Key

namespace Value

/-- The characters of a part that may belong to a value without quotes. One space may stand inside
such a value, between a date and a time. -/
def bareChars? : Part → Option (List Char)
  | .token (.bare text) => some text
  | .token .dot => some ['.']
  | .token (.blank [' ']) => some [' ']
  | _ => none

def ofParts? : List Part → Option Value
  | [.value value] => some value
  | [.token (.string text _)] => some (.string (String.ofList text))
  | parts => (parts.mapM bareChars?).bind fun chars => Scalar.read? chars.flatten

end Value

def keyValue? (isGap : Part → Bool) (parts : List Part) : Option (Table.Key × Value) := do
  let before := parts.takeWhile fun part => !part.isEquals
  let behind := parts.dropWhile fun part => !part.isEquals
  let key ← Table.Key.ofParts? (trimmed isGap before)
  let value ← Value.ofParts? (trimmed isGap (behind.drop 1))
  some (key, value)

/-- What stands between commas, a last comma counting as an end. -/
def items (parts : List Part) : List (List Part) :=
  let pieces := (cutAtEach Part.isComma parts).map (trimmed Part.isFiller)
  match pieces.getLast? with
  | some [] => pieces.dropLast
  | _ => pieces

namespace Value

def ofGroup? (bracket : Bracket) (parts : List Part) : Option Value :=
  match bracket with
  | .square => ((items parts).mapM ofParts?).map .array
  | .curly => do
    let entries ← (items parts).mapM (keyValue? Part.isFiller)
    let table ← entries.foldlM (fun table entry => table.insert? entry.1 entry.2)
      (Table.empty .header)
    some (.table .braces table.entries)

end Value

namespace Part

mutual

def ofTree? : Tree → Option Part
  | .leaf leaf => some (.token leaf)
  | .group bracket inner => ((ofTrees? inner).bind (Value.ofGroup? bracket)).map .value

def ofTrees? : List Tree → Option (List Part)
  | [] => some []
  | tree :: rest =>
    match ofTree? tree, ofTrees? rest with
    | some part, some parts => some (part :: parts)
    | _, _ => none

end

end Part

inductive Line where
  | nothing
  | header (key : Table.Key)
  | elementHeader (key : Table.Key)
  | entry (key : Table.Key) (value : Value)

namespace Line

def isBlank : Tree → Bool
  | .leaf (.blank _) => true
  | _ => false

def isComment : Tree → Bool
  | .leaf .comment => true
  | _ => false

def ofTrees? (trees : List Tree) : Option Line :=
  match trimmed isBlank (trees.filter fun tree => !isComment tree) with
  | [] => some .nothing
  | [.group .square [.group .square inner]] => (keyOf? inner).map .elementHeader
  | [.group .square inner] => (keyOf? inner).map .header
  | trees =>
    if Tree.depthOfAll trees ≤ maxDepth then
      ((Part.ofTrees? trees).bind (keyValue? Part.isBlank)).map fun entry => .entry entry.1 entry.2
    else none
where
  keyOf? (inner : List Tree) : Option Table.Key := (Part.ofTrees? inner).bind Table.Key.ofParts?

end Line

/-- A document as far as it has been read: its table, and the way to the table that is open. -/
structure Draft where
  table : Table := .empty .header
  opened : List String := []

namespace Draft

def add? (draft : Draft) : Line → Option Draft
  | .nothing => some draft
  | .header key =>
    (draft.table.openTable? key).map fun table => ⟨table, key.path ++ [key.name]⟩
  | .elementHeader key =>
    (draft.table.openElement? key).map fun table => ⟨table, key.path ++ [key.name]⟩
  | .entry key value =>
    (draft.table.edit? .implied (Table.insert? key value) draft.opened).map fun table =>
      { draft with table }

end Draft

def Table.ofDocument? (text : String) : Option Table := do
  let trees ← Tree.ofTokens? (← Token.ofDocument? text)
  let lines ← (cutAtEach Tree.isNewline trees).mapM Line.ofTrees?
  let draft ← lines.foldlM Draft.add? {}
  some draft.table

end Multicast.Toml
