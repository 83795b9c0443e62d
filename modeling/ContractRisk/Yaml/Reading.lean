import ContractRisk.Decimal.Literal
import ContractRisk.Digest.Base64
import ContractRisk.Text.LetterCase
import ContractRisk.Text.Lines
import ContractRisk.Text.Search
import ContractRisk.Value
import ContractRisk.Yaml.Node

/-!
# Reading YAML

`read` turns a text that is one YAML document into a `Value`. Collections are read level by level, so of
several faults the one of the outermost collection is given, and of those the first one. A collection that
is a key is refused before it is looked into.
-/

namespace ContractRisk.Yaml

/-! ## scalars -/

def withoutGaps (s : String) : List Char := s.toList.filter (· != '_')

/-- a sign in front, as a factor, and the rest; there must be a character -/
def signed (cs : List Char) : Except Fault (Int × List Char) :=
  match cs with
  | [] => .error .emptyNumber
  | '-' :: r => .ok (-1, r)
  | '+' :: r => .ok (1, r)
  | r => .ok (1, r)

def radixDigit? (base : Nat) (c : Char) : Option Nat :=
  let n :=
    match Text.digit? c with
    | some n => some n
    | none => if c.isAlpha then some (c.toLower.toNat - 87) else none
  n.filter (· < base)

/-- the digits behind the mark of the base, if the mark is there -/
def unmarked (base : Nat) (cs : List Char) : List Char :=
  match cs with
  | '0' :: m :: r =>
    if (base = 2 ∧ m.toLower = 'b') ∨ (base = 8 ∧ m.toLower = 'o') ∨ (base = 16 ∧ m.toLower = 'x') then r
    else cs
  | _ => cs

def radixNatural? (base : Nat) (cs : List Char) : Option Nat :=
  if cs.isEmpty then none
  else cs.foldl (fun acc c => acc.bind fun n => (radixDigit? base c).map fun d => n * base + d) (some 0)

/-- a whole number in a base that is a power of two -/
def radixWhole (base : Nat) (cs : List Char) : Except Fault Int :=
  let found := match Text.trimChars cs with
    | '-' :: r => (radixNatural? base (unmarked base r)).map fun n => -(n : Int)
    | '+' :: r => (radixNatural? base (unmarked base r)).map Int.ofNat
    | r => (radixNatural? base (unmarked base r)).map Int.ofNat
  found.elim (.error (.whole base (String.ofList cs))) .ok

def decimalWhole (cs : List Char) : Except Fault Int :=
  match Text.integer? cs with
  | none => .error (.whole 10 (String.ofList cs))
  | some i =>
    let digits := cs.countP Text.isDigit
    if Text.digitLimit < digits then .error (.tooLong digits) else .ok i

/-- digits of base 60, the highest one first -/
def sixtieths (digits : List Int) : Int := digits.foldl (fun n d => n * 60 + d) 0

def wholeOfText (s : String) : Except Fault Int := do
  let (sign, cs) ← signed (withoutGaps s)
  match cs with
  | ['0'] => return 0
  | '0' :: 'b' :: r => return sign * (← radixWhole 2 r)
  | '0' :: 'x' :: r => return sign * (← radixWhole 16 r)
  | [] => .error .emptyNumber
  | '0' :: _ => return sign * (← radixWhole 8 cs)
  | _ =>
    if cs.contains ':' then return sign * sixtieths (← (Text.splitOn ':' cs).mapM decimalWhole)
    else return sign * (← decimalWhole cs)

def infinity : Float := 1.0 / 0.0

def decimal (cs : List Char) : Except Fault Float :=
  (Decimal.anyScript? (String.ofList cs)).elim (.error (.decimal (String.ofList cs))) .ok

/-- digits of base 60, the lowest one first -/
def sixtiethsUp (sum : Float) (base : Nat) : List Float → Except Fault Float
  | [] => .ok sum
  | d :: ds =>
    if Binary64.overflows base then .error .tooLarge
    else sixtiethsUp (sum + d * Binary64.ofInt base) (base * 60) ds

def floatOfText (s : String) : Except Fault Float := do
  let (sign, cs) ← signed ((Text.lower (String.ofList (withoutGaps s))).toList)
  let scale (x : Float) : Float := if sign < 0 then -x else x
  if cs = ".inf".toList then return scale infinity
  else if cs = ".nan".toList then return infinity - infinity
  else if cs.contains ':' then
    let ds ← (Text.splitOn ':' cs).mapM decimal
    return scale (← sixtiethsUp 0.0 1 ds.reverse)
  else return scale (← decimal cs)

def truthOfText (s : String) : Except Fault Bool :=
  let word := Text.lower s
  if ["yes", "true", "on"].contains word then .ok true
  else if ["no", "false", "off"].contains word then .ok false
  else .error (.truth word)

def bytesOfText (s : String) : Except Fault (List UInt8) :=
  if s.toList.all fun c => c.toNat < 128 then (Digest.decode? s.toList).elim (.error .malformed) .ok
  else .error .malformed

/-! ### dates -/

def digitsValue (cs : List Char) : Nat := cs.foldl (fun n c => n * 10 + (c.toNat - 48)) 0

/-- seconds ahead of universal time -/
def offsetOf : Option (Option (Char × List Char × List Char)) → Except Fault (Option Int)
  | none => .ok none
  | some none => .ok (some 0)
  | some (some (sign, hours, minutes)) =>
    let seconds : Int := digitsValue hours * 3600 + digitsValue minutes * 60
    let seconds := if sign = '-' then -seconds else seconds
    if seconds.natAbs < 86400 then .ok (some seconds) else .error (.offset seconds)

def checkDate (d : Date) : Except Fault Date :=
  if d.year < 1 then .error (.year d.year.natAbs)
  else if d.month < 1 ∨ 12 < d.month then .error .month
  else if d.isValid then .ok d
  else .error .day

def microsOf (fraction : List Char) : Nat :=
  let cs := fraction.take 6
  digitsValue cs * 10 ^ (6 - cs.length)

def valueOfStamp (s : Stamp) : Except Fault Value := do
  let date : Date := ⟨digitsValue s.year, digitsValue s.month, digitsValue s.day⟩
  match s.clock with
  | none => return .date (← checkDate date)
  | some c =>
    let offset ← offsetOf c.zone
    let date ← checkDate date
    let m : Moment := ⟨date, digitsValue c.hour, digitsValue c.minute, digitsValue c.second,
      microsOf c.fraction, offset⟩
    if 23 < m.hour then .error .hour
    else if 59 < m.minute then .error .minute
    else if 59 < m.second then .error .second
    else return .moment m

/-! ## nodes -/

namespace Node

/-- the text of a scalar, or of the entry that stands for a map; there is no end to it if that is one of the
`maps` that stand for each other -/
def text (maps : Nat) : Node → Except Fault String
  | scalar _ s => .ok s
  | list .. => .error .malformed
  | map _ entries => among entries
  | around _ up => .error (if up ≤ maps then .tooDeep else .malformed)
where
  among : List (Node × Node) → Except Fault String
    | [] => .error .malformed
    | (k, v) :: r => if k.tag = .default then text (maps + 1) v else among r

def isMap : Node → Bool
  | map .. => true
  | _ => false

mutual

/-- how deep collections are nested -/
def depth : Node → Nat
  | scalar .. | around .. => 0
  | list _ items => depthOfItems items + 1
  | map _ entries => depthOfEntries entries + 1

def depthOfItems : List Node → Nat
  | [] => 0
  | n :: r => max n.depth (depthOfItems r)

def depthOfEntries : List (Node × Node) → Nat
  | [] => 0
  | (k, v) :: r => max (max k.depth v.depth) (depthOfEntries r)

end

/-- the key of an entry that stands for a map is an ordinary key as well -/
def ordinaryKey (k : Node) : Node :=
  if k.tag = .default then
    match k with
    | scalar _ s => scalar .text s
    | list _ items => list .text items
    | map _ entries => map .text entries
    | around _ up => around .text up
  else k

/-- the entries of a map, those merged into it in front; nothing comes from what it is inside of -/
def mergedEntries (entries : List (Node × Node)) : (fuel : Nat) → Except Fault (List (Node × Node))
  | 0 => .error .malformed
  | fuel + 1 => do
    let merged ← (entries.filter fun e => e.1.tag = .merge).mapM fun e =>
      match e.2 with
      | map _ inner => mergedEntries inner fuel
      | list _ items => do
        let parts ← items.mapM fun item =>
          match item with
          | map _ inner => mergedEntries inner fuel
          | around .. => .ok []
          | _ => .error .malformed
        return parts.reverse.flatten
      | around .. => .ok []
      | scalar .. => .error .malformed
    let own := (entries.filter fun e => e.1.tag ≠ .merge).map fun e => (ordinaryKey e.1, e.2)
    return merged.flatten ++ own

end Node

/-- a value, or the fault that is met first, with the level where it is met -/
abbrev Leveled (β : Type) := Except (Nat × Fault) β

namespace Leveled

def faultAt {β : Type} (level : Nat) (x : Except Fault β) : Leveled β := x.mapError fun f => (level, f)

/-- two values, or the fault of the lower level, the first one if there are two -/
def both {β γ : Type} : Leveled β → Leveled γ → Leveled (β × γ)
  | .ok x, .ok y => .ok (x, y)
  | .ok _, .error g => .error g
  | .error f, .ok _ => .error f
  | .error f, .error g => .error (if g.1 < f.1 then g else f)

def all {β : Type} : List (Leveled β) → Leveled (List β)
  | [] => .ok []
  | x :: xs => (both x (all xs)).map fun (y, ys) => y :: ys

end Leveled

/-- a map of entries, of which the last one with a key counts -/
def mapOfEntries (es : List (Value × Value)) : List (Value × Value) :=
  es.foldl (fun acc e => Value.putEntry e.1 e.2 acc) []

namespace Node

def scalarValue (n : Node) (f : String → Except Fault Value) : Except Fault Value := n.text 0 >>= f

/-- is the node one of a collection, which is no key whatever it holds? -/
def isCollection (n : Node) : Bool :=
  match n.tag with
  | .list | .map | .set | .pairs | .orderedMap => true
  | _ => false

def valueOfMoment (n : Node) (s : String) : Except Fault Value :=
  if n.isMap then .error .momentInMap
  else match Stamp.ofText? s.toList with
    | none => .error .noMoment
    | some stamp => valueOfStamp stamp

/-- the value of a node at a level; what a collection holds is one level below -/
def value (level : Nat) (n : Node) : (fuel : Nat) → Leveled Value
  | 0 => .error (level, .malformed)
  | fuel + 1 =>
    let scalar (f : String → Except Fault Value) := Leveled.faultAt level (n.scalarValue f)
    let below := level + 1
    let keyValue (k : Node) : Leveled Value :=
      if k.isCollection then .error (below, .malformed) else value below k fuel
    let entryValues (entries : List (Node × Node)) : Leveled (List (Value × Value)) :=
      Leveled.all (entries.map fun e => Leveled.both (keyValue e.1) (value below e.2 fuel))
    let mapValue (make : List (Value × Value) → Value) : Leveled Value :=
      match n with
      | map _ entries =>
        match mergedEntries entries (n.depth + 1) with
        | .error f => .error (below, f)
        | .ok merged => (entryValues merged).map fun es => make (mapOfEntries es)
      | around .. => .ok (.around true)
      | _ => .error (below, .malformed)
    match n.tag with
    | .null => scalar fun _ => .ok .null
    | .bool => scalar fun s => (truthOfText s).map .bool
    | .int => scalar fun s => (wholeOfText s).map .int
    | .float => scalar fun s => (floatOfText s).map .float
    | .binary => scalar fun s => (bytesOfText s).map .bytes
    | .timestamp => scalar n.valueOfMoment
    | .text => scalar fun s => .ok (.text s)
    | .list =>
      match n with
      | list _ items => (Leveled.all (items.map fun i => value below i fuel)).map .list
      | around .. => .ok (.around false)
      | _ => .error (below, .malformed)
    | .map => mapValue .map
    | .set => mapValue fun es => .set (es.map Prod.fst)
    | .pairs | .orderedMap =>
      match n with
      | list _ items =>
        (Leveled.all (items.map fun i =>
          match i with
          | map _ [(k, v)] => (Leveled.both (value below k fuel) (value below v fuel)).map fun (k, v) =>
            .tuple [k, v]
          | _ => .error (below, .malformed))).map .list
      | around .. => .ok (.around false)
      | _ => .error (below, .malformed)
    | .merge | .default | .other => .error (level, .malformed)

end Node

/-! ## documents -/

/-- may the character stand in a document? -/
def isAllowed (c : Char) : Bool :=
  let n := c.toNat
  n = 9 || n = 10 || n = 13 || (0x20 ≤ n && n ≤ 0x7E) || n = 0x85 || (0xA0 ≤ n && n ≤ 0xFFFD) ||
    0x10000 ≤ n

/-- is there a character that no document may hold? -/
def isSpoiled (cs : List Char) : Bool := !cs.all isAllowed

/-- the value of the one document in a text, null if there is none; so many collections may be nested, and
`early` is the fault, if there is one, in front of a character that no document may hold -/
def read (cs : List Char) (levels : Nat) (early : Option Fault) : Except Fault Value := do
  let cs := Text.unifyBreaks cs
  if isSpoiled cs then .error (early.getD .malformed)
  else
    match ← Node.ofTokens levels (← Token.ofText cs) with
    | none => return .null
    | some n => (n.value 0 (n.depth + 2)).mapError Prod.snd

end ContractRisk.Yaml
