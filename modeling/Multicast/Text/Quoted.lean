import Multicast.Text.Unicode

/-!
Text that is shown. Between double quotes every character can be told from its looks; for a terminal
only the characters that could drive it are written as escapes.
-/

namespace Multicast.Quoted

def codePoint (c : Char) : List Char :=
  ['\\', 'u', '\x7b'] ++ Nat.toDigits 16 c.toNat ++ ['\x7d']

/-- The characters that show one character: itself, a short escape or its code point. -/
def writeChar (c : Char) : List Char :=
  match c with
  | '"' => ['\\', '"']
  | '\\' => ['\\', '\\']
  | '\n' => ['\\', 'n']
  | '\r' => ['\\', 'r']
  | '\t' => ['\\', 't']
  | '\x00' => ['\\', '0']
  | _ => if GraphemeExtend.contains c || Unprintable.contains c then codePoint c else [c]

def writeChars (cs : List Char) : List Char := ['"'] ++ cs.flatMap writeChar ++ ['"']

def write (text : String) : String := String.ofList (writeChars text.toList)

end Multicast.Quoted

namespace Multicast.Guarded

/-- The ASCII controls that start a command to a terminal, or that it acts on at once. -/
def controls : List Char := ['\x07', '\x08', '\x0c', '\x1b', '\x7f']

def isExtendedControl (c : Char) : Bool := 0x80 ≤ c.toNat && c.toNat < 0xa0

def byteEscape (c : Char) : List Char :=
  ['\\', 'x'] ++ List.leftpad 2 '0' (Nat.toDigits 16 c.toNat)

def writeChar (c : Char) : List Char :=
  if controls.contains c then byteEscape c
  else if isExtendedControl c then Quoted.codePoint c
  else [c]

def write (text : String) : String := String.ofList (text.toList.flatMap writeChar)

end Multicast.Guarded
