import Multicast.Toml.StringLiteral

/-!
The tokens of a TOML document. They do not depend on what stands around them: a run of characters
that may be part of a key, a number, a date or a word is one bare token.
-/

namespace Multicast.Toml

inductive Bracket where
  | square
  | curly
  deriving DecidableEq

inductive Token where
  | dot
  | equals
  | comma
  | newline
  | blank (text : List Char)
  | comment
  | bare (text : List Char)
  | string (text : List Char) (multiline : Bool)
  | opening (bracket : Bracket)
  | closing (bracket : Bracket)
  deriving DecidableEq

namespace Token

def isDelimiter (c : Char) : Bool :=
  [' ', '\t', '\r', '\n', '.', ',', '=', '#', '[', ']', '\x7b', '\x7d'].contains c

def isLineEnd (c : Char) : Bool := c = '\n' || c = '\r'

def string? (quote : Char) (escapes : Bool) (cs : List Char) : Option (Token × List Char) :=
  (StringLiteral.read? quote escapes cs).map fun reading =>
    (.string reading.text reading.multiline, reading.rest)

def comment? (cs : List Char) : Option (Token × List Char) :=
  if (cs.takeWhile fun c => !isLineEnd c).all StringLiteral.isAllowed then
    some (.comment, cs.dropWhile fun c => !isLineEnd c)
  else none

def first? (c : Char) (rest : List Char) : Option (Token × List Char) :=
  match c with
  | '.' => some (.dot, rest)
  | '=' => some (.equals, rest)
  | ',' => some (.comma, rest)
  | '[' => some (.opening .square, rest)
  | ']' => some (.closing .square, rest)
  | '\x7b' => some (.opening .curly, rest)
  | '\x7d' => some (.closing .curly, rest)
  | '\n' => some (.newline, rest)
  | '\r' => if rest.head? = some '\n' then some (.newline, rest.drop 1) else none
  | '#' => comment? rest
  | '"' => string? '"' true rest
  | '\'' => string? '\'' false rest
  | _ =>
    if StringLiteral.isBlank c then
      some (.blank (c :: rest.takeWhile StringLiteral.isBlank),
        rest.dropWhile StringLiteral.isBlank)
    else
      some (.bare (c :: rest.takeWhile fun c => !isDelimiter c),
        rest.dropWhile fun c => !isDelimiter c)

theorem length_dropWhile (p : Char → Bool) (cs : List Char) :
    (cs.dropWhile p).length ≤ cs.length :=
  (List.dropWhile_sublist p).length_le

theorem length_string? {quote : Char} {escapes : Bool} {cs : List Char} {cut : Token × List Char}
    (h : string? quote escapes cs = some cut) : cut.2.length ≤ cs.length := by
  obtain ⟨reading, hread, rfl⟩ := Option.map_eq_some_iff.1 h
  exact StringLiteral.length_read? hread

theorem length_comment? {cs : List Char} {cut : Token × List Char}
    (h : comment? cs = some cut) : cut.2.length ≤ cs.length := by
  unfold comment? at h
  split at h
  · rw [← Option.some.inj h]
    exact length_dropWhile _ _
  · simp at h

theorem length_first? {c : Char} {rest : List Char} {cut : Token × List Char}
    (h : first? c rest = some cut) : cut.2.length ≤ rest.length := by
  unfold first? at h
  split at h
  case h_9 =>
    split at h
    · simp [← Option.some.inj h]
    · simp at h
  case h_10 => exact length_comment? h
  case h_11 | h_12 => exact length_string? h
  case h_13 =>
    split at h <;> rw [← Option.some.inj h] <;> exact length_dropWhile _ _
  all_goals simp [← Option.some.inj h]

def ofChars? : List Char → Option (List Token)
  | [] => some []
  | c :: rest =>
    match _h : first? c rest with
    | some (token, rest') => (ofChars? rest').map (token :: ·)
    | none => none
termination_by cs => cs.length
decreasing_by
  exact Nat.lt_succ_of_le (length_first? _h)

/-- The tokens of a document, which may start with a byte order mark. -/
def ofDocument? (text : String) : Option (List Token) :=
  match text.toList with
  | '\ufeff' :: rest => ofChars? rest
  | cs => ofChars? cs

end Token

end Multicast.Toml
