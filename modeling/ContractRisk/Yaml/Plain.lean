import ContractRisk.Yaml.Cursor

/-!
# Plain scalars

A plain scalar has no quotes. It ends where a colon or a comment may follow, at brackets and commas if it
stands inside brackets, and at a line that is not indented enough; line ends in it fold.
-/

namespace ContractRisk.Yaml

def isFlowMark (c : Char) : Bool := [',', '[', ']', '\x7b', '\x7d'].contains c

/-- does a plain scalar end in front of these characters? -/
def stopsPlain (flow : Bool) : List Char → Bool
  | [] => true
  | ':' :: r => endsWord r.head? || flow && r.head?.any isFlowMark
  | c :: _ => endsWord (some c) || flow && (c == '?' || isFlowMark c)

/-- the characters of a plain scalar on one line, up to a blank -/
def plainWord (flow : Bool) : List Char → List Char
  | [] => []
  | c :: r => if stopsPlain flow (c :: r) then [] else c :: plainWord flow r

/-- what stands between two words of a plain scalar -/
structure Gap where
  /-- what the scalar gets for it; nothing if the scalar ends here -/
  text : List Char
  cursor : Cursor
  /-- was the end of a line passed? -/
  broken : Bool

/-- the line ends and indentation before the next word, none in front of a mark between documents -/
def blankLines (breaks : List Char) (k : Cursor) : (fuel : Nat) → Option (List Char) × Cursor
  | 0 => (some breaks, k)
  | fuel + 1 =>
    if k.sees ' ' then blankLines breaks k.step fuel
    else match k.takeBreak? with
      | none => (some breaks, k)
      | some (b, k) => if k.atMarker then (none, k) else blankLines (breaks ++ [b]) k fuel

def gap (k : Cursor) : Gap :=
  let (spaces, k) := k.span (· == ' ')
  match k.takeBreak? with
  | none => ⟨spaces, k, false⟩
  | some (b, k) =>
    if k.atMarker then ⟨[], k, true⟩
    else match blankLines [] k (k.rest.length + 1) with
      | (none, k) => ⟨[], k, true⟩
      | (some breaks, k) => ⟨folded b breaks, k, true⟩

structure PlainText where
  text : List Char
  cursor : Cursor
  /-- does the scalar end at the start of a line? -/
  broken : Bool

/-- reads words onto what was read before, last character first -/
def plainOnto (flow : Bool) (indent : Int) (acc : List Char) (space : Gap) : (fuel : Nat) → PlainText
  | 0 => ⟨acc.reverse, space.cursor, space.broken⟩
  | fuel + 1 =>
    let word := plainWord flow space.cursor.rest
    if word.isEmpty || space.cursor.sees '#' then ⟨acc.reverse, space.cursor, space.broken⟩
    else
      let acc := word.reverseAux (space.text.reverseAux acc)
      let next := gap (space.cursor.forward word.length)
      if next.text.isEmpty || next.cursor.sees '#' || (!flow && next.cursor.column < indent) then
        ⟨acc.reverse, next.cursor, next.broken⟩
      else plainOnto flow indent acc next fuel

/-- the plain scalar that starts here; further lines need the indentation `indent` -/
def plain (flow : Bool) (indent : Int) (k : Cursor) : PlainText :=
  plainOnto flow indent [] ⟨[], k, false⟩ (k.rest.length + 1)

end ContractRisk.Yaml
