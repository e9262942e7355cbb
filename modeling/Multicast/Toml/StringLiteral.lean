import Multicast.Text.Numeral

/-!
Strings of a TOML document: basic ones, between double quotes and with escapes, and literal ones,
between single quotes. Three quotes make a string of several lines.
-/

namespace Multicast.Toml.StringLiteral

def isBlank (c : Char) : Bool := c = ' ' || c = '\t'

/-- Of the control characters only tabs and the ends of lines may occur in a string or a comment. -/
def isAllowed (c : Char) : Bool :=
  c = '\t' || c = '\n' || c = '\r' || (' ' ≤ c && c ≠ '\x7f')

/-- A carriage return occurs only before a newline. -/
def hasWholeLineEnds : List Char → Bool
  | [] => true
  | '\r' :: '\n' :: rest => hasWholeLineEnds rest
  | c :: rest => c ≠ '\r' && hasWholeLineEnds rest

inductive Escape where
  | none
  | started
  | digits (left value : Nat)
  /-- A line is broken: the rest of it has to be blank. -/
  | lineEnd
  /-- A line was broken: blank space and more newlines are left out. -/
  | lineStart
  deriving DecidableEq

def step? (multiline : Bool) (escape : Escape) (c : Char) : Option (List Char × Escape) :=
  match escape with
  | .none => if c = '\\' then some ([], .started) else some ([c], .none)
  | .started =>
    match c with
    | 'b' => some (['\x08'], .none)
    | 't' => some (['\t'], .none)
    | 'n' => some (['\n'], .none)
    | 'f' => some (['\x0c'], .none)
    | 'r' => some (['\r'], .none)
    | 'e' => some (['\x1b'], .none)
    | '"' => some (['"'], .none)
    | '\\' => some (['\\'], .none)
    | 'x' => some ([], .digits 2 0)
    | 'u' => some ([], .digits 4 0)
    | 'U' => some ([], .digits 8 0)
    | _ => if multiline then brokenLine? c else none
  | .digits left value =>
    match Numeral.digit? 16 c with
    | some digit =>
      let value := value * 16 + digit
      if 1 < left then some ([], .digits (left - 1) value)
      else if value.isValidChar then some ([Char.ofNat value], .none)
      else none
    | none => none
  | .lineEnd => brokenLine? c
  | .lineStart =>
    if isBlank c || c = '\n' || c = '\r' then some ([], .lineStart)
    else if c = '\\' then some ([], .started)
    else some ([c], .none)
where
  brokenLine? (c : Char) : Option (List Char × Escape) :=
    if c = '\n' then some ([], .lineStart)
    else if isBlank c || c = '\r' then some ([], .lineEnd)
    else none

def unescape? (multiline : Bool) : Escape → List Char → Option (List Char)
  | .none, [] => some []
  | .lineStart, [] => some []
  | _, [] => none
  | escape, c :: rest =>
    match step? multiline escape c with
    | some (written, escape) => (unescape? multiline escape rest).map (written ++ ·)
    | none => none

/-- Cuts behind the quote that ends a string of one line. With escapes, a backslash takes the next
character along. -/
def cutLine? (quote : Char) (escapes : Bool) : List Char → Option (List Char × List Char)
  | [] => none
  | c :: rest =>
    if c = quote then some ([], rest)
    else if c = '\n' || c = '\r' then none
    else if escapes && c = '\\' then
      match rest with
      | [] => none
      | next :: rest => (cutLine? quote escapes rest).map fun cut => (c :: next :: cut.1, cut.2)
    else (cutLine? quote escapes rest).map fun cut => (c :: cut.1, cut.2)

/-- Cuts behind the three quotes that end a string of several lines; up to two more quotes before
them belong to the string. -/
def cutLines? (quote : Char) (escapes : Bool) : List Char → Option (List Char × List Char)
  | [] => none
  | c :: rest =>
    if c = quote && rest.take 2 = [quote, quote] then
      let extra := ((rest.drop 2).take 2).takeWhile (· = quote)
      some (extra, rest.drop (2 + extra.length))
    else if escapes && c = '\\' then
      match rest with
      | [] => none
      | next :: rest => (cutLines? quote escapes rest).map fun cut => (c :: next :: cut.1, cut.2)
    else (cutLines? quote escapes rest).map fun cut => (c :: cut.1, cut.2)

def skipNewline : List Char → List Char
  | '\n' :: rest => rest
  | '\r' :: '\n' :: rest => rest
  | cs => cs

structure Reading where
  text : List Char
  multiline : Bool
  rest : List Char

def meaning? (escapes multiline : Bool) (cs : List Char) : Option (List Char) :=
  if cs.all isAllowed && hasWholeLineEnds cs then
    if escapes then unescape? multiline .none cs else some cs
  else none

def finish? (escapes multiline : Bool) (cut : List Char × List Char) : Option Reading :=
  (meaning? escapes multiline cut.1).map fun text => ⟨text, multiline, cut.2⟩

def read? (quote : Char) (escapes : Bool) (cs : List Char) : Option Reading :=
  if cs.take 2 = [quote, quote] then
    (cutLines? quote escapes (skipNewline (cs.drop 2))).bind (finish? escapes true)
  else (cutLine? quote escapes cs).bind (finish? escapes false)

theorem length_cutLine? {quote : Char} {escapes : Bool} {cs : List Char}
    {cut : List Char × List Char} (h : cutLine? quote escapes cs = some cut) :
    cut.2.length ≤ cs.length := by
  fun_induction cutLine? quote escapes cs generalizing cut with
  | case1 | case3 | case4 => simp at h
  | case2 => simp [← Option.some.inj h]
  | case5 _ _ _ _ next rest ih | case6 _ rest _ _ _ ih =>
    obtain ⟨inner, hinner, rfl⟩ := Option.map_eq_some_iff.1 h
    have := ih hinner
    simp only [List.length_cons]
    omega

theorem length_cutLines? {quote : Char} {escapes : Bool} {cs : List Char}
    {cut : List Char × List Char} (h : cutLines? quote escapes cs = some cut) :
    cut.2.length ≤ cs.length := by
  fun_induction cutLines? quote escapes cs generalizing cut with
  | case1 | case3 => simp at h
  | case2 =>
    rw [← Option.some.inj h]
    simp only [List.length_drop, List.length_cons]
    omega
  | case4 _ _ _ next rest ih | case5 _ rest _ _ ih =>
    obtain ⟨inner, hinner, rfl⟩ := Option.map_eq_some_iff.1 h
    have := ih hinner
    simp only [List.length_cons]
    omega

theorem length_skipNewline (cs : List Char) : (skipNewline cs).length ≤ cs.length := by
  unfold skipNewline
  split
  · simp
  · simp only [List.length_cons]
    omega
  · exact Nat.le_refl _

theorem rest_finish? {escapes multiline : Bool} {cut : List Char × List Char} {reading : Reading}
    (h : finish? escapes multiline cut = some reading) : reading.rest = cut.2 := by
  obtain ⟨_, _, rfl⟩ := Option.map_eq_some_iff.1 h
  rfl

theorem length_read? {quote : Char} {escapes : Bool} {cs : List Char} {reading : Reading}
    (h : read? quote escapes cs = some reading) : reading.rest.length ≤ cs.length := by
  unfold read? at h
  split at h <;> obtain ⟨cut, hcut, hfinish⟩ := Option.bind_eq_some_iff.1 h <;>
    rw [rest_finish? hfinish]
  · have := length_cutLines? hcut
    have := length_skipNewline (cs.drop 2)
    have := List.length_drop (i := 2) (l := cs)
    omega
  · exact length_cutLine? hcut

end Multicast.Toml.StringLiteral
