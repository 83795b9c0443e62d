import ContractRisk.Yaml.Cursor

/-!
# Tags

A tag says what kind of data a node is. `Tag.ofPlain` is the tag that a plain scalar has because of its
text alone.
-/

namespace ContractRisk.Yaml

inductive Tag where
  | null
  | bool
  | int
  | float
  | binary
  | timestamp
  | text
  | list
  | map
  | set
  | pairs
  | orderedMap
  /-- the key of entries that are merged into the map around it -/
  | merge
  /-- the key of the entry that stands for the map around it -/
  | default
  | other
deriving Repr, DecidableEq

namespace Tag

def standardMark : String := "tag:yaml.org,2002:"

def names : List (String × Tag) :=
  [("null", null), ("bool", bool), ("int", int), ("float", float), ("binary", binary),
    ("timestamp", timestamp), ("str", text), ("seq", list), ("map", map), ("set", set),
    ("pairs", pairs), ("omap", orderedMap), ("merge", merge), ("value", default)]

def ofText (s : String) : Tag :=
  ((names.find? fun n => standardMark ++ n.1 == s).map Prod.snd).getD other

/-! ## the forms of plain scalars -/

def nullWords : List String := ["", "~", "null", "Null", "NULL"]

def truthWords : List String :=
  ["yes", "Yes", "YES", "no", "No", "NO", "true", "True", "TRUE", "false", "False", "FALSE", "on", "On",
    "ON", "off", "Off", "OFF"]

def isDigit (c : Char) : Bool := '0' ≤ c && c ≤ '9'

def isDigitOrGap (c : Char) : Bool := isDigit c || c == '_'

def isSign (c : Char) : Bool := c == '+' || c == '-'

def unsigned : List Char → List Char
  | c :: r => if isSign c then r else c :: r
  | [] => []

/-- a nonempty text of characters of one class -/
def isRun (p : Char → Bool) (cs : List Char) : Bool := !cs.isEmpty && cs.all p

/-- the parts between colons -/
def colonParts : List Char → List (List Char)
  | [] => [[]]
  | ':' :: r => [] :: colonParts r
  | c :: r =>
    match colonParts r with
    | w :: ws => (c :: w) :: ws
    | [] => [[c]]

/-- a digit of base 60: one digit or two -/
def isSixtieth : List Char → Bool
  | [a] => isDigit a
  | [a, b] => '0' ≤ a && a ≤ '5' && isDigit b
  | _ => false

def isWhole (cs : List Char) : Bool :=
  match unsigned cs with
  | '0' :: 'b' :: r => isRun (fun c => c == '0' || c == '1' || c == '_') r
  | '0' :: 'x' :: r => isRun (fun c => isHexDigit c || c == '_') r
  | '0' :: r => r.all fun c => ('0' ≤ c && c ≤ '7') || c == '_'
  | c :: r =>
    match colonParts r with
    | first :: rest => isDigit c && first.all isDigitOrGap && rest.all isSixtieth
    | [] => false
  | [] => false

/-- an exponent with its sign, or nothing -/
def isExponent : List Char → Bool
  | [] => true
  | e :: s :: r => (e == 'e' || e == 'E') && isSign s && isRun isDigit r
  | _ => false

/-- what follows the point of a number -/
def isFraction (cs : List Char) : Bool := isExponent (cs.dropWhile isDigitOrGap)

def startsWithDigit (cs : List Char) : Bool := cs.head?.any isDigit

/-- are these the digits in front of the point, the last part alone followed by it? -/
def isSixtiethsAndPoint (parts : List (List Char)) : Bool :=
  match parts.getLast? with
  | some last =>
    isSixtieth (last.takeWhile (· != '.')) && (last.dropWhile (· != '.')).head? == some '.' &&
      ((last.dropWhile (· != '.')).drop 1).all isDigitOrGap && (parts.dropLast.all isSixtieth)
  | none => false

def isDecimal (cs : List Char) : Bool :=
  let r := unsigned cs
  (startsWithDigit r && match r.dropWhile isDigitOrGap with
    | '.' :: r => isFraction r
    | ':' :: r => isSixtiethsAndPoint (colonParts r)
    | _ => false) ||
  (match cs with
    | '.' :: r => startsWithDigit r && isFraction r
    | _ => false) ||
  [".inf", ".Inf", ".INF"].any (·.toList == r) || [".nan", ".NaN", ".NAN"].any (·.toList == cs)

end Tag

/-! ## dates -/

/-- the parts of a date with a time of day -/
structure Clock where
  hour : List Char
  minute : List Char
  second : List Char
  fraction : List Char
  /-- nothing, or universal time, or a sign, hours and minutes -/
  zone : Option (Option (Char × List Char × List Char))

structure Stamp where
  year : List Char
  month : List Char
  day : List Char
  clock : Option Clock

namespace Stamp

/-- at least one digit and at most `n` -/
def digits? (n : Nat) (cs : List Char) : Option (List Char × List Char) :=
  let ds := (cs.take n).takeWhile Tag.isDigit
  if ds.isEmpty then none else some (ds, cs.drop ds.length)

def exactly? (n : Nat) (cs : List Char) : Option (List Char × List Char) :=
  (digits? n cs).filter fun d => d.1.length == n

def char? (c : Char) : List Char → Option (List Char)
  | d :: r => if c = d then some r else none
  | [] => none

def isGap (c : Char) : Bool := c == ' ' || c == '\t'

/-- the offset that ends a date -/
def zone? (cs : List Char) : Option (Option (Option (Char × List Char × List Char))) :=
  match cs.dropWhile isGap with
  | [] => if cs.isEmpty then some none else none
  | ['Z'] => some (some none)
  | s :: r =>
    if Tag.isSign s then do
      let (hours, r) ← digits? 2 r
      match r with
      | [] => return some (some (s, hours, []))
      | ':' :: r =>
        let (minutes, r) ← exactly? 2 r
        if r.isEmpty then return some (some (s, hours, minutes)) else none
      | _ => none
    else none

def clock? (cs : List Char) : Option Clock := do
  let (hour, r) ← digits? 2 cs
  let (minute, r) ← exactly? 2 (← char? ':' r)
  let (second, r) ← exactly? 2 (← char? ':' r)
  let (fraction, r) := match r with
    | '.' :: r => (r.takeWhile Tag.isDigit, r.dropWhile Tag.isDigit)
    | r => ([], r)
  let zone ← zone? r
  return ⟨hour, minute, second, fraction, zone⟩

/-- what stands between the date and the time of day -/
def afterDate? (cs : List Char) : Option (List Char) :=
  match cs with
  | 'T' :: r | 't' :: r => some r
  | c :: r => if isGap c then some (r.dropWhile isGap) else none
  | [] => none

def ofText? (cs : List Char) : Option Stamp := do
  let (year, r) ← exactly? 4 cs
  let (month, r) ← digits? 2 (← char? '-' r)
  let (day, r) ← digits? 2 (← char? '-' r)
  if r.isEmpty then return ⟨year, month, day, none⟩
  else
    let clock ← clock? (← afterDate? r)
    return ⟨year, month, day, some clock⟩

/-- a date alone has all its digits -/
def isFull (s : Stamp) : Bool := s.clock.isSome || (s.month.length == 2 && s.day.length == 2)

end Stamp

/-- the tag of a plain scalar -/
def Tag.ofPlain (s : String) : Tag :=
  let cs := s.toList
  if nullWords.contains s then null
  else if truthWords.contains s then bool
  else if isDecimal cs then float
  else if isWhole cs then int
  else if s == "<<" then merge
  else if (Stamp.ofText? cs).any Stamp.isFull then timestamp
  else if s == "=" then default
  else text

end ContractRisk.Yaml
