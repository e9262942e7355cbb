import Multicast.Log.Event
import Multicast.Text.Numeral

/-!
Thresholds: the least level of what is shown, and how one is written.
-/

namespace Multicast

/-- The least level that is shown; none shows nothing. -/
abbrev Threshold := Option Level

namespace Threshold

def admits : Threshold → Level → Bool
  | some least, level => least.rank ≤ level.rank
  | none, _ => false

def ofNumber? : Nat → Option Threshold
  | 0 => some none
  | 1 => some (some .error)
  | 2 => some (some .warn)
  | 3 => some (some .info)
  | 4 => some (some .debug)
  | 5 => some (some .trace)
  | _ => none

def number? (cs : List Char) : Option Nat :=
  match cs with
  | '+' :: rest => Numeral.read? 10 rest
  | _ => Numeral.read? 10 cs

def ofText? (text : String) : Option Threshold :=
  match (number? text.toList).bind ofNumber? with
  | some threshold => some threshold
  | none =>
    match text.toLower with
    | "off" => some none
    | "error" => some (some .error)
    | "warn" => some (some .warn)
    | "info" => some (some .info)
    | "debug" => some (some .debug)
    | "trace" => some (some .trace)
    | _ => none

end Threshold

end Multicast
