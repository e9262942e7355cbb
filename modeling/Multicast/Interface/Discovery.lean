import Multicast.Interface.Table
import Multicast.Text.Numeral

/-!
Finding the interfaces of a host from the texts in which its kernel lists them.
-/

namespace Multicast.Discovery

def isSpace (c : Char) : Bool := [' ', '\t', '\n', '\r'].contains c

def trimmed (cs : List Char) : List Char :=
  ((cs.dropWhile isSpace).reverse.dropWhile isSpace).reverse

/-- The names in a table of devices: two lines of headings, then a line for each device, its name
before a colon. -/
def names (devices : String) : List String :=
  let rows := (devices.toList.splitOn '\n').drop 2
  (rows.filter fun row => row.contains ':').map fun row =>
    String.ofList (trimmed (row.takeWhile (· ≠ ':')))

def number? (text : String) : Option Nat :=
  match trimmed text.toList with
  | '0' :: 'x' :: digits => Numeral.read? 16 digits
  | digits => Numeral.read? 10 digits

def interface? (name index flags : String) : Option Interface :=
  match number? index, number? flags with
  | some index, some flags =>
    (Interface.create (UInt32.ofNat index) name (.ofKernel (UInt32.ofNat flags))).toOption
  | _, _ => none

end Multicast.Discovery
