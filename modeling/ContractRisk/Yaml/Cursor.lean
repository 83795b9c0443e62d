/-!
# Places in a document

A `Cursor` is what is left of a text, with the index, line and column where it starts. `forward` passes
over characters, `takeBreak?` over one line end.
-/

namespace ContractRisk.Yaml

def isBreak (c : Char) : Bool := c == '\n' || c == '\x85' || c == '\u2028' || c == '\u2029'

def isHexDigit (c : Char) : Bool :=
  ('0' ≤ c && c ≤ '9') || ('a' ≤ c && c ≤ 'f') || ('A' ≤ c && c ≤ 'F')

/-- the letters, digits and marks that names are made of -/
def isNameChar (c : Char) : Bool := c.isAlphanum || c == '-' || c == '_'

/-! ## what may follow -/

def endsLine : Option Char → Bool
  | none => true
  | some c => isBreak c

/-- the end of a line or a space -/
def endsPart : Option Char → Bool
  | none => true
  | some c => c == ' ' || isBreak c

/-- the end of a line, a space or a tab -/
def endsWord : Option Char → Bool
  | none => true
  | some c => c == ' ' || c == '\t' || isBreak c

/-! ## cursors -/

structure Cursor where
  rest : List Char
  index : Nat
  line : Nat
  column : Nat

namespace Cursor

def ofText (cs : List Char) : Cursor := ⟨cs, 0, 0, 0⟩

def byteOrderMark : Char := '\ufeff'

/-- passes over one character -/
def step (k : Cursor) : Cursor :=
  match k.rest with
  | [] => k
  | c :: r =>
    if isBreak c then ⟨r, k.index + 1, k.line + 1, 0⟩
    else if c = byteOrderMark then ⟨r, k.index + 1, k.line, k.column⟩
    else ⟨r, k.index + 1, k.line, k.column + 1⟩

def forward (k : Cursor) : Nat → Cursor
  | 0 => k
  | n + 1 => k.step.forward n

def peek (k : Cursor) : Option Char := k.rest.head?

def peekAt (k : Cursor) (n : Nat) : Option Char := k.rest[n]?

/-- is this the next character? -/
def sees (k : Cursor) (c : Char) : Bool := k.peek == some c

/-- the characters up to the first one that `p` refuses -/
def span (p : Char → Bool) (k : Cursor) : List Char × Cursor :=
  let cs := k.rest.takeWhile p
  (cs, k.forward cs.length)

def skip (p : Char → Bool) (k : Cursor) : Cursor := (k.span p).2

def skipSpaces (k : Cursor) : Cursor := k.skip (· == ' ')

/-- passes over spaces that stand left of a column -/
def skipIndent (column : Nat) (k : Cursor) : Cursor :=
  k.forward (min (column - k.column) (k.rest.takeWhile (· == ' ')).length)

/-- passes over a comment, if one starts here -/
def skipComment (k : Cursor) : Cursor := if k.sees '#' then k.skip (!isBreak ·) else k

/-- one line end, as the character that it stands for -/
def takeBreak? (k : Cursor) : Option (Char × Cursor) :=
  match k.peek with
  | some c =>
    if isBreak c then some (if c = '\x85' then '\n' else c, k.step) else none
  | none => none

/-- do three of these characters start here, and nothing else in the word? -/
def atMarkerOf (c : Char) (k : Cursor) : Bool :=
  k.rest.take 3 == [c, c, c] && endsWord (k.peekAt 3)

/-- does a mark between documents start here? -/
def atMarker (k : Cursor) : Bool := k.atMarkerOf '-' || k.atMarkerOf '.'

end Cursor

/-- how line ends fold: a single line feed becomes a space, further line ends stay -/
def folded (first : Char) (more : List Char) : List Char :=
  if first ≠ '\n' then first :: more else if more.isEmpty then [' '] else more

end ContractRisk.Yaml
