import ContractRisk.Text.Surrogate
import ContractRisk.Yaml.Cursor
import ContractRisk.Yaml.Fault

/-!
# Quoted scalars

Between single quotes a quote is written twice and nothing else is special; between double quotes a
backslash starts an escape. Line ends in both fold.
-/

namespace ContractRisk.Yaml

/-! ## escapes -/

/-- the characters that stand for another one behind a backslash -/
def escapes : List (Char × Char) :=
  [('0', '\x00'), ('a', '\x07'), ('b', '\x08'), ('t', '\t'), ('\t', '\t'), ('n', '\n'), ('v', '\x0b'),
    ('f', '\x0c'), ('r', '\r'), ('e', '\x1b'), (' ', ' '), ('"', '"'), ('\\', '\\'), ('/', '/'),
    ('N', '\x85'), ('_', '\xa0'), ('L', '\u2028'), ('P', '\u2029')]

/-- how many digits a code point has behind these letters -/
def codeLengths : List (Char × Nat) := [('x', 2), ('u', 4), ('U', 8)]

def hexDigit (c : Char) : Nat :=
  if c.isDigit then c.toNat - 48 else if 'a' ≤ c then c.toNat - 87 else c.toNat - 55

def hexNumber (cs : List Char) : Nat := cs.foldl (fun n c => n * 16 + hexDigit c) 0

/-- a code point of so many digits -/
def codePoint (digits : Nat) (k : Cursor) : Except Fault (Nat × Cursor) :=
  let cs := k.rest.take digits
  if cs.length = digits ∧ cs.all isHexDigit then
    let n := hexNumber cs
    if n < 0x110000 then .ok (n, k.forward digits) else .error (.codePoint n)
  else .error .malformed

/-- an escaped character, or what stands for an escaped surrogate; two surrogates do not make one character -/
def escapedChar (digits : Nat) (k : Cursor) : Except Fault (Char × Cursor) := do
  let (n, k) ← codePoint digits k
  return (if Text.isSurrogateCode n then Text.surrogate n else Char.ofNat n, k)

/-! ## folding -/

def isSpaceOrTab (c : Char) : Bool := c == ' ' || c == '\t'

/-- the further line ends after a first one; a mark between documents must not follow -/
def lineEnds (acc : List Char) (k : Cursor) : (fuel : Nat) → Except Fault (List Char × Cursor)
  | 0 => .ok (acc, k)
  | fuel + 1 =>
    if k.atMarker then .error .malformed
    else
      let k := k.skip isSpaceOrTab
      match k.takeBreak? with
      | some (b, k) => lineEnds (acc ++ [b]) k fuel
      | none => .ok (acc, k)

def lineEndsHere (k : Cursor) : Except Fault (List Char × Cursor) := lineEnds [] k (k.rest.length + 1)

/-- what blanks and line ends between two words become -/
def quotedGap (k : Cursor) : Except Fault (List Char × Cursor) :=
  let (blanks, k) := k.span isSpaceOrTab
  match k.takeBreak? with
  | none => if k.peek.isNone then .error .malformed else .ok (blanks, k)
  | some (b, k) => (lineEndsHere k).map fun (more, k) => (folded b more, k)

/-! ## scalars -/

/-- the text that a backslash starts -/
def escapeAt (k : Cursor) : Except Fault (List Char × Cursor) :=
  match k.peek with
  | none => .error .malformed
  | some c =>
    match escapes.lookup c, codeLengths.lookup c with
    | some meant, _ => .ok ([meant], k.step)
    | none, some digits => (escapedChar digits k.step).map fun (c, k) => ([c], k)
    | none, none =>
      match k.takeBreak? with
      | some (_, k) => lineEndsHere k
      | none => .error .malformed

/-- reads onto `acc`, last character first, up to the closing quote -/
def quotedOnto (double : Bool) (acc : List Char) (k : Cursor) :
    (fuel : Nat) → Except Fault (List Char × Cursor)
  | 0 => .error .malformed
  | fuel + 1 =>
    match k.rest with
    | [] => .error .malformed
    | '\'' :: r =>
      if double then quotedOnto double ('\'' :: acc) k.step fuel
      else match r with
        | '\'' :: _ => quotedOnto double ('\'' :: acc) (k.forward 2) fuel
        | _ => .ok (acc.reverse, k.step)
    | '"' :: _ => if double then .ok (acc.reverse, k.step) else quotedOnto double ('"' :: acc) k.step fuel
    | '\\' :: _ =>
      if double then
        match escapeAt k.step with
        | .ok (cs, k) => quotedOnto double (cs.reverseAux acc) k fuel
        | .error f => .error f
      else quotedOnto double ('\\' :: acc) k.step fuel
    | c :: _ =>
      if endsWord (some c) then
        match quotedGap k with
        | .ok (cs, k) => quotedOnto double (cs.reverseAux acc) k fuel
        | .error f => .error f
      else quotedOnto double (c :: acc) k.step fuel

/-- the quoted scalar behind its opening quote -/
def quoted (double : Bool) (k : Cursor) : Except Fault (List Char × Cursor) :=
  quotedOnto double [] k (k.rest.length + 1)

end ContractRisk.Yaml
