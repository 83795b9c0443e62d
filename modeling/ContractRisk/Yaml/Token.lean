import ContractRisk.Text.Utf8
import ContractRisk.Yaml.Block
import ContractRisk.Yaml.Plain
import ContractRisk.Yaml.Quoted

/-!
# Tokens

`Token.ofText` splits a document into tokens. Indentation shows in tokens that open and close blocks. A
key of one line is known only by the colon behind it, so the place in front of everything that may be
such a key gets a slot, which is filled when the colon comes and is left empty otherwise.
-/

namespace ContractRisk.Yaml

inductive Token where
  /-- the directive that names the version of the language -/
  | version (major : Nat)
  /-- the directive that gives a handle of tags a meaning -/
  | handle (name meaning : String)
  | otherDirective
  | documentStart
  | documentEnd
  | openList
  | closeList
  | openMap
  | closeMap
  | comma
  | listBlock
  | mapBlock
  | blockEnd
  | entry
  | key
  | value
  | alias (name : String)
  | anchor (name : String)
  | tag (handle : Option String) (suffix : String)
  | scalar (text : String) (plain : Bool)
deriving Repr, DecidableEq

/-! ## names and tags -/

/-- a nonempty run of characters -/
def run (p : Char → Bool) (k : Cursor) : Except Fault (List Char × Cursor) :=
  let (cs, k) := k.span p
  if cs.isEmpty then .error .malformed else .ok (cs, k)

def followsName (c : Option Char) : Bool :=
  endsWord c || c.any fun c => ['?', ':', ',', ']', '\x7d', '%', '@', '`'].contains c

/-- the name of an anchor or an alias behind its mark -/
def anchorName (k : Cursor) : Except Fault (String × Cursor) := do
  let (name, k) ← run isNameChar k
  if followsName k.peek then return (String.ofList name, k) else .error .malformed

/-- a handle of tags: one mark, two marks, or a name between marks -/
def tagHandle (k : Cursor) : Except Fault (String × Cursor) :=
  if !k.sees '!' then .error .malformed
  else if k.peekAt 1 = some ' ' then .ok ("!", k.step)
  else
    let (name, k) := k.step.span isNameChar
    if k.sees '!' then .ok (String.ofList ('!' :: name ++ ['!']), k.step) else .error .malformed

def isUriMark (c : Char) : Bool :=
  ['-', ';', '/', '?', ':', '@', '&', '=', '+', '$', ',', '_', '.', '!', '~', '*', '\'', '(', ')', '[',
    ']'].contains c

def isUriChar (c : Char) : Bool := c.isAlphanum || isUriMark c

/-- the bytes that are escaped here -/
def uriBytes (acc : List UInt8) (k : Cursor) : (fuel : Nat) → Except Fault (List UInt8 × Cursor)
  | 0 => .ok (acc, k)
  | fuel + 1 =>
    if k.sees '%' then
      match codePoint 2 k.step with
      | .ok (n, k) => uriBytes (acc ++ [.ofNat n]) k fuel
      | .error f => .error f
    else .ok (acc, k)

def uriOnto (acc : List Char) (k : Cursor) : (fuel : Nat) → Except Fault (List Char × Cursor)
  | 0 => .ok (acc, k)
  | fuel + 1 =>
    if k.sees '%' then
      match uriBytes [] k (k.rest.length + 1) with
      | .ok (bs, k) =>
        match Text.Utf8.decode bs with
        | .ok cs => uriOnto (acc ++ cs) k fuel
        | .error _ => .error .malformed
      | .error f => .error f
    else
      let (cs, k) := k.span isUriChar
      if cs.isEmpty then .ok (acc, k) else uriOnto (acc ++ cs) k fuel

/-- the text of a tag, or of what a handle means -/
def uri (k : Cursor) : Except Fault (String × Cursor) := do
  let (cs, k') ← uriOnto [] k (k.rest.length + 1)
  if k'.rest.length = k.rest.length then .error .malformed else return (String.ofList cs, k')

/-- does a second mark stand in the word behind the first one? -/
def hasNamedHandle (k : Cursor) : Bool :=
  (k.rest.drop 1).takeWhile (fun c => !endsPart (some c)) |>.contains '!'

def tagAt (k : Cursor) : Except Fault (Token × Cursor) := do
  let (tag, k) ←
    if k.peekAt 1 = some '<' then do
      let (suffix, k) ← uri (k.forward 2)
      if k.sees '>' then Except.ok (Token.tag none suffix, k.step) else .error .malformed
    else if endsWord (k.peekAt 1) then Except.ok (Token.tag none "!", k.step)
    else if hasNamedHandle k then do
      let (handle, k) ← tagHandle k
      let (suffix, k) ← uri k
      Except.ok (Token.tag (some handle) suffix, k)
    else do
      let (suffix, k) ← uri k.step
      Except.ok (Token.tag (some "!") suffix, k)
  if endsPart k.peek then return (tag, k) else .error .malformed

/-! ## directives -/

def number (k : Cursor) : Except Fault (Nat × Cursor) := do
  let (ds, k) ← run Char.isDigit k
  return (ds.foldl (fun n c => n * 10 + (c.toNat - 48)) 0, k)

def versionDirective (k : Cursor) : Except Fault (Token × Cursor) := do
  let (major, k) ← number k.skipSpaces
  if k.sees '.' then
    let (_, k) ← number k.step
    if endsPart k.peek then return (.version major, k) else .error .malformed
  else .error .malformed

def handleDirective (k : Cursor) : Except Fault (Token × Cursor) := do
  let (name, k) ← tagHandle k.skipSpaces
  if k.sees ' ' then
    let (meaning, k) ← uri k.skipSpaces
    if endsPart k.peek then return (.handle name meaning, k) else .error .malformed
  else .error .malformed

/-- a directive behind its mark, up to the end of the line -/
def directive (k : Cursor) : Except Fault (Token × Cursor) := do
  let (name, k) ← run isNameChar k
  if !endsPart k.peek then .error .malformed
  else
    let (token, k) ←
      if name = "YAML".toList then versionDirective k
      else if name = "TAG".toList then handleDirective k
      else Except.ok (Token.otherDirective, k.skip (!isBreak ·))
    let k ← restOfLine k
    return (token, k)

/-! ## the state of the split -/

inductive Item where
  | token (t : Token)
  /-- a place for the start of a key -/
  | slot (n : Nat)

/-- where a key may have started -/
structure Mark where
  slot : Nat
  /-- must it be a key? -/
  required : Bool
  index : Nat
  line : Nat
  column : Nat

structure Split where
  cursor : Cursor
  /-- the last one first -/
  items : List Item
  slots : Nat
  /-- the slots that are filled; does a block of the map start there too? -/
  filled : List (Nat × Bool)
  /-- the column of the block, -1 outside of all blocks -/
  indent : Int
  /-- the columns of the blocks around it -/
  outer : List Int
  /-- the possible key of each bracket around the place, of the innermost one first -/
  marks : List (Option Mark)
  /-- may a key start here? -/
  keyAllowed : Bool

namespace Split

def start (cs : List Char) : Split := ⟨.ofText cs, [], 0, [], -1, [], [none], true⟩

def inFlow (s : Split) : Bool := 1 < s.marks.length

def push (s : Split) (t : Token) : Split := { s with items := .token t :: s.items }

def forward (s : Split) (n : Nat) : Split := { s with cursor := s.cursor.forward n }

/-- can the mark no longer be a key? -/
def isStale (s : Split) (m : Mark) : Bool :=
  m.line != s.cursor.line || 1024 < s.cursor.index - m.index

/-- gives up the marks that can no longer be keys -/
def dropStale (s : Split) : Except Fault Split :=
  if s.marks.any fun m => m.any fun m => s.isStale m && m.required then .error .malformed
  else .ok { s with marks := s.marks.map fun m => m.filter fun m => !s.isStale m }

/-- gives up the mark of the innermost bracket -/
def dropMark (s : Split) : Except Fault Split :=
  match s.marks with
  | some m :: r => if m.required then .error .malformed else .ok { s with marks := none :: r }
  | _ => .ok s

/-- notes that a key may start here, if one is allowed -/
def mark (s : Split) : Except Fault Split :=
  if s.keyAllowed then do
    let required := !s.inFlow && s.indent == s.cursor.column
    let s ← s.dropMark
    let m : Mark := ⟨s.slots, required, s.cursor.index, s.cursor.line, s.cursor.column⟩
    return { s with
      marks := some m :: s.marks.drop 1
      items := .slot s.slots :: s.items
      slots := s.slots + 1 }
  else .ok s

/-- closes the blocks right of a column -/
def unwindTo (column : Int) (s : Split) : List Int → Split
  | [] => s
  | outer :: r =>
    if column < s.indent then unwindTo column { s.push .blockEnd with indent := outer, outer := r } r
    else s

def unwind (s : Split) (column : Int) : Split := if s.inFlow then s else unwindTo column s s.outer

/-- opens a block at a column, unless there is one -/
def openBlock (s : Split) (column : Int) : Bool × Split :=
  if s.indent < column then (true, { s with indent := column, outer := s.indent :: s.outer })
  else (false, s)

/-- opens a block of a kind here, if there is none, with its token -/
def openBlockHere (s : Split) (t : Token) : Split :=
  let (isNew, s) := s.openBlock s.cursor.column
  if isNew then s.push t else s

/-- passes over blanks, comments and line ends -/
def toToken (s : Split) : (fuel : Nat) → Split
  | 0 => s
  | fuel + 1 =>
    let k := s.cursor.skipSpaces.skipComment
    match k.takeBreak? with
    | some (_, k) => toToken { s with cursor := k, keyAllowed := s.keyAllowed || !s.inFlow } fuel
    | none => { s with cursor := k }

def skipByteOrderMark (s : Split) : Split :=
  if s.cursor.index = 0 ∧ s.cursor.sees Cursor.byteOrderMark then s.forward 1 else s

/-! ### the kinds of tokens -/

/-- what ends all blocks: directives and the marks between documents -/
def atMargin (s : Split) : Except Fault Split := do
  let s ← (s.unwind (-1)).dropMark
  return { s with keyAllowed := false }

def documentMark (s : Split) (t : Token) : Except Fault Split := do
  let s ← s.atMargin
  return (s.push t).forward 3

def bracket (s : Split) (t : Token) : Except Fault Split := do
  let s ← s.mark
  return { (s.push t).forward 1 with marks := none :: s.marks, keyAllowed := true }

def closeBracket (s : Split) (t : Token) : Except Fault Split := do
  let s ← s.dropMark
  match s.marks with
  | _ :: m :: r => return { (s.push t).forward 1 with marks := m :: r, keyAllowed := false }
  | _ => .error .malformed

def comma (s : Split) : Except Fault Split := do
  let s ← s.dropMark
  return { (s.push .comma).forward 1 with keyAllowed := true }

def entry (s : Split) : Except Fault Split := do
  if !s.inFlow && !s.keyAllowed then .error .malformed
  else
    let s := if s.inFlow then s else s.openBlockHere .listBlock
    let s ← s.dropMark
    return { (s.push .entry).forward 1 with keyAllowed := true }

def key (s : Split) : Except Fault Split := do
  if !s.inFlow && !s.keyAllowed then .error .malformed
  else
    let s := if s.inFlow then s else s.openBlockHere .mapBlock
    let s ← s.dropMark
    return { (s.push .key).forward 1 with keyAllowed := !s.inFlow }

/-- fills the slot of a key -/
def fill (s : Split) (m : Mark) : Split :=
  let (isNew, s) := if s.inFlow then (false, s) else s.openBlock m.column
  { s with
    marks := none :: s.marks.drop 1
    filled := (m.slot, isNew) :: s.filled
    keyAllowed := false }

def value (s : Split) : Except Fault Split := do
  match s.marks with
  | some m :: _ => return ((s.fill m).push .value).forward 1
  | _ =>
    if !s.inFlow && !s.keyAllowed then .error .malformed
    else
      let s := if s.inFlow then s else s.openBlockHere .mapBlock
      let s ← s.dropMark
      return { (s.push .value).forward 1 with keyAllowed := !s.inFlow }

/-- a token that may be a key, read by `read` -/
def marked (s : Split) (read : Cursor → Except Fault (Token × Cursor)) : Except Fault Split := do
  let s ← s.mark
  let (t, k) ← read s.cursor
  return { s.push t with cursor := k, keyAllowed := false }

def plainScalar (s : Split) : Except Fault Split := do
  let s ← s.mark
  let found := plain s.inFlow (s.indent + 1) s.cursor
  return { s.push (.scalar (String.ofList found.text) true) with
    cursor := found.cursor
    keyAllowed := found.broken }

def blockScalar (s : Split) (folding : Bool) : Except Fault Split := do
  let s ← s.dropMark
  let (text, k) ← block folding s.indent s.cursor.step
  return { s.push (.scalar (String.ofList text) false) with cursor := k, keyAllowed := true }

def quotedScalar (double : Bool) (k : Cursor) : Except Fault (Token × Cursor) :=
  (quoted double k.step).map fun (text, k) => (.scalar (String.ofList text) false, k)

def aliasToken (k : Cursor) : Except Fault (Token × Cursor) :=
  (anchorName k.step).map fun (name, k) => (.alias name, k)

def anchorToken (k : Cursor) : Except Fault (Token × Cursor) :=
  (anchorName k.step).map fun (name, k) => (.anchor name, k)

def directiveLine (s : Split) : Except Fault Split := do
  let s ← s.atMargin
  let (t, k) ← directive s.cursor.step
  return { s.push t with cursor := k }

/-- the characters that do not start a plain scalar -/
def indicators : List Char :=
  ['-', '?', ':', ',', '[', ']', '\x7b', '\x7d', '#', '&', '*', '!', '|', '>', '\'', '"', '%', '@', '`']

def startsPlain (s : Split) (c : Char) : Bool :=
  (!endsWord (some c) && !indicators.contains c) ||
    (!endsWord (s.cursor.peekAt 1) && (c == '-' || (!s.inFlow && (c == '?' || c == ':'))))

/-- the token that starts with a character -/
def tokenAt (s : Split) (c : Char) : Except Fault Split :=
  let k := s.cursor
  let wordEnds := endsWord (k.peekAt 1)
  if c = '%' ∧ k.column = 0 then s.directiveLine
  else if k.column = 0 ∧ k.atMarkerOf '-' then s.documentMark .documentStart
  else if k.column = 0 ∧ k.atMarkerOf '.' then s.documentMark .documentEnd
  else if c = '[' then s.bracket .openList
  else if c = '\x7b' then s.bracket .openMap
  else if c = ']' then s.closeBracket .closeList
  else if c = '\x7d' then s.closeBracket .closeMap
  else if c = ',' then s.comma
  else if c = '-' ∧ wordEnds then s.entry
  else if c = '?' ∧ (s.inFlow || wordEnds) then s.key
  else if c = ':' ∧ (s.inFlow || wordEnds) then s.value
  else if c = '*' then s.marked aliasToken
  else if c = '&' then s.marked anchorToken
  else if c = '!' then s.marked tagAt
  else if c = '|' ∧ !s.inFlow then s.blockScalar false
  else if c = '>' ∧ !s.inFlow then s.blockScalar true
  else if c = '\'' then s.marked (quotedScalar false)
  else if c = '"' then s.marked (quotedScalar true)
  else if s.startsPlain c then s.plainScalar
  else .error .malformed

def finish (s : Split) : Except Fault Split := (s.unwind (-1)).dropMark

/-- splits what is left -/
def run (s : Split) : (fuel : Nat) → Except Fault Split
  | 0 => .error .malformed
  | fuel + 1 => do
    let s ← (s.skipByteOrderMark.toToken (s.cursor.rest.length + 1)).dropStale
    let s := s.unwind s.cursor.column
    match s.cursor.peek with
    | none => s.finish
    | some c => (← s.tokenAt c).run fuel

/-- the tokens in order, with those in filled slots -/
def tokens (s : Split) : List Token :=
  let slots := s.filled.foldl (fun a f => a.setIfInBounds f.1 (some f.2)) (Array.replicate s.slots none)
  s.items.foldl (fun ts item =>
    match item with
    | .token t => t :: ts
    | .slot n =>
      match slots[n]? with
      | some (some true) => .mapBlock :: .key :: ts
      | some (some false) => .key :: ts
      | _ => ts) []

end Split

def Token.ofText (cs : List Char) : Except Fault (List Token) :=
  ((Split.start cs).run (cs.length + 2)).map Split.tokens

end ContractRisk.Yaml
