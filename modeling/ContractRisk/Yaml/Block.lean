import ContractRisk.Yaml.Cursor
import ContractRisk.Yaml.Fault

/-!
# Block scalars

A block scalar is a block of indented lines. Its header says whether line ends fold, what becomes of the
line ends after the last line and, if need be, how far the block is indented.
-/

namespace ContractRisk.Yaml

/-- what becomes of the line ends after the last line -/
inductive Chomping where
  /-- one stays -/
  | clip
  | keep
  | strip
deriving DecidableEq

structure BlockHeader where
  chomping : Chomping
  /-- the indentation, counted from the column of the parent -/
  indent : Option Nat

def chomping? (k : Cursor) : Option Chomping :=
  match k.peek with
  | some '+' => some .keep
  | some '-' => some .strip
  | _ => none

def indentMark (k : Cursor) : Except Fault (Option Nat × Cursor) :=
  match k.peek with
  | some c =>
    if c = '0' then .error .malformed
    else if c.isDigit then .ok (some (c.toNat - 48), k.step)
    else .ok (none, k)
  | none => .ok (none, k)

/-- the two marks of the header, in any order -/
def blockHeader (k : Cursor) : Except Fault (BlockHeader × Cursor) :=
  match chomping? k with
  | some chomping => do
    let (indent, k) ← indentMark k.step
    finish chomping indent k
  | none => do
    let (indent, k) ← indentMark k
    match indent, chomping? k with
    | some _, some chomping => finish chomping indent k.step
    | _, _ => finish .clip indent k
where
  finish (chomping : Chomping) (indent : Option Nat) (k : Cursor) :
      Except Fault (BlockHeader × Cursor) :=
    if endsPart k.peek then .ok (⟨chomping, indent⟩, k) else .error .malformed

/-- the end of a line, perhaps behind spaces and a comment -/
def restOfLine (k : Cursor) : Except Fault Cursor :=
  let k := k.skipSpaces.skipComment
  if endsLine k.peek then .ok ((k.takeBreak?.map Prod.snd).getD k) else .error .malformed

/-- the blank lines in front, and the column that the widest of them or the first line reaches -/
def leadingLines (breaks : List Char) (widest : Nat) (k : Cursor) :
    (fuel : Nat) → List Char × Nat × Cursor
  | 0 => (breaks, widest, k)
  | fuel + 1 =>
    if k.sees ' ' then
      let k := k.step
      leadingLines breaks (max widest k.column) k fuel
    else match k.takeBreak? with
      | some (b, k) => leadingLines (breaks ++ [b]) widest k fuel
      | none => (breaks, widest, k)

/-- the line ends of blank lines, and the next line up to its indentation -/
def blankBlockLines (indent : Nat) (breaks : List Char) (k : Cursor) :
    (fuel : Nat) → List Char × Cursor
  | 0 => (breaks, k)
  | fuel + 1 =>
    let k := k.skipIndent indent
    match k.takeBreak? with
    | some (b, k) => blankBlockLines indent (breaks ++ [b]) k fuel
    | none => (breaks, k)

def blankLinesAt (indent : Nat) (k : Cursor) : List Char × Cursor :=
  blankBlockLines indent [] k (k.rest.length + 1)

def startsBlank (k : Cursor) : Bool := k.sees ' ' || k.sees '\t'

/-- what a line end between two lines becomes -/
def lineJoint (folding : Bool) (indented : Bool) (lineEnd : Option Char) (breaks : List Char)
    (next : Cursor) : List Char :=
  if folding && lineEnd == some '\n' && !indented && !startsBlank next then
    if breaks.isEmpty then [' '] else []
  else lineEnd.toList

/-- what is kept of the line ends after the last line -/
def chomped (chomping : Chomping) (lineEnd : Option Char) (breaks : List Char) : List Char :=
  match chomping with
  | .clip => lineEnd.toList
  | .keep => lineEnd.toList ++ breaks
  | .strip => []

/-- reads lines onto `acc`, last character first -/
def blockLinesOnto (folding : Bool) (chomping : Chomping) (indent : Nat) (acc : List Char)
    (lineEnd : Option Char) (breaks : List Char) (k : Cursor) : (fuel : Nat) → List Char × Cursor
  | 0 => (acc.reverse, k)
  | fuel + 1 =>
    if k.column = indent ∧ k.peek.isSome then
      let indented := startsBlank k
      let (line, k) := k.span (!isBreak ·)
      let acc := line.reverseAux (breaks.reverseAux acc)
      let lineEnd := k.takeBreak?.map Prod.fst
      let k := (k.takeBreak?.map Prod.snd).getD k
      let (breaks, k) := blankLinesAt indent k
      if k.column = indent ∧ k.peek.isSome then
        let joint := lineJoint folding indented lineEnd breaks k
        blockLinesOnto folding chomping indent (joint.reverseAux acc) lineEnd breaks k fuel
      else (((chomped chomping lineEnd breaks).reverseAux acc).reverse, k)
    else (((chomped chomping lineEnd breaks).reverseAux acc).reverse, k)

/-- the block scalar behind its mark, in a block at the column `outer` -/
def block (folding : Bool) (outer : Int) (k : Cursor) : Except Fault (List Char × Cursor) := do
  let (header, k) ← blockHeader k
  let k ← restOfLine k
  let least : Nat := (max (outer + 1) 1).toNat
  let fuel := k.rest.length + 1
  match header.indent with
  | none =>
    let (breaks, widest, k) := leadingLines [] 0 k fuel
    return blockLinesOnto folding header.chomping (max least widest) [] none breaks k fuel
  | some n =>
    let indent := least + n - 1
    let (breaks, k) := blankLinesAt indent k
    return blockLinesOnto folding header.chomping indent [] none breaks k fuel

end ContractRisk.Yaml
