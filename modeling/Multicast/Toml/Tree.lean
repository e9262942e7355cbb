import Multicast.Toml.Token

/-!
Tokens grouped by their brackets.
-/

namespace Multicast.Toml

inductive Tree where
  | leaf (token : Token)
  | group (bracket : Bracket) (inner : List Tree)

namespace Tree

/-- Groups tokens. The brackets still open are kept innermost first, each with what stands before
it in reverse order. -/
def grouped? : List (Bracket × List Tree) → List Tree → List Token → Option (List Tree)
  | [], before, [] => some before.reverse
  | _ :: _, _, [] => none
  | enclosing, before, .opening bracket :: rest =>
    grouped? ((bracket, before) :: enclosing) [] rest
  | [], _, .closing _ :: _ => none
  | (opened, outer) :: enclosing, before, .closing bracket :: rest =>
    if opened = bracket then grouped? enclosing (.group bracket before.reverse :: outer) rest
    else none
  | enclosing, before, token :: rest => grouped? enclosing (.leaf token :: before) rest

def ofTokens? (tokens : List Token) : Option (List Tree) := grouped? [] [] tokens

mutual

def depth : Tree → Nat
  | .leaf _ => 0
  | .group _ inner => depthOfAll inner + 1

def depthOfAll : List Tree → Nat
  | [] => 0
  | tree :: rest => max tree.depth (depthOfAll rest)

end

def isNewline : Tree → Bool
  | .leaf .newline => true
  | _ => false

end Tree

end Multicast.Toml
