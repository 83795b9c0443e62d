import ContractRisk.Decimal.Literal
import ContractRisk.Text.LetterCase
import ContractRisk.Value

/-!
# Checking untyped data

A `Check` holds typed data or every `Problem` met on the way to it, each with its path. Checks are joined
with `<*>`, which keeps the problems of both sides, those of the left one in front. Numbers and truth
values are also taken from texts, and a byte string counts as the text that it encodes.
-/

namespace ContractRisk

/-- what data comes from: a JSON text or values in memory; some messages differ -/
inductive Medium where
  | json
  | memory
deriving Repr, DecidableEq

inductive Cause where
  | missing
  | notText
  | bytesText
  | keyNotText
  | notNumber
  | numberText
  | notInteger
  | integerText
  | fraction
  | integerTooLarge
  | notFinite
  | notBoolean
  | booleanText
  | notList (medium : Medium)
  | notMap (medium : Medium)
  | notRecord (medium : Medium) (model : String)
  | blank
  | notAmong (names : List String)
  | notGreater (bound : Nat)
  | below (bound : Nat)
  | above (bound : Nat)
  | json (detail : String)
deriving Repr, DecidableEq

/-- names in quotes, the last one after "or" -/
def alternatives : List String → String
  | [] => ""
  | [a] => "'" ++ a ++ "'"
  | [a, b] => "'" ++ a ++ "' or '" ++ b ++ "'"
  | a :: r => "'" ++ a ++ "', " ++ alternatives r

def Cause.message : Cause → String
  | missing => "Field required"
  | notText => "Input should be a valid string"
  | bytesText => "Input should be a valid string, unable to parse raw data as a unicode string"
  | keyNotText => "Keys should be strings"
  | notNumber => "Input should be a valid number"
  | numberText => "Input should be a valid number, unable to parse string as a number"
  | notInteger => "Input should be a valid integer"
  | integerText => "Input should be a valid integer, unable to parse string as an integer"
  | fraction => "Input should be a valid integer, got a number with a fractional part"
  | integerTooLarge => "Unable to parse input string as an integer, exceeded maximum size"
  | notFinite => "Input should be a finite number"
  | notBoolean => "Input should be a valid boolean"
  | booleanText => "Input should be a valid boolean, unable to interpret input"
  | notList .memory => "Input should be a valid list"
  | notList .json => "Input should be a valid array"
  | notMap .memory => "Input should be a valid dictionary"
  | notMap .json => "Input should be an object"
  | notRecord .memory model => "Input should be a valid dictionary or instance of " ++ model
  | notRecord .json _ => "Input should be an object"
  | blank => "Value error, must not be blank"
  | notAmong names => "Input should be " ++ alternatives names
  | notGreater bound => "Input should be greater than " ++ Text.natText bound
  | below bound => "Input should be greater than or equal to " ++ Text.natText bound
  | above bound => "Input should be less than or equal to " ++ Text.natText bound
  | json detail => "Invalid JSON: " ++ detail

/-- a cause and the path of keys and indices that leads to it -/
structure Problem where
  path : List String
  cause : Cause
deriving Repr, DecidableEq

def Problem.message (p : Problem) : String :=
  (if p.path.isEmpty then "<root>" else ".".intercalate p.path) ++ ": " ++ p.cause.message

def Problem.messages (ps : List Problem) : String := "; ".intercalate (ps.map Problem.message)

def Check (β : Type) := Except (List Problem) β

/-- data with text keys, in order -/
abbrev Fields := List (String × Value)

namespace Check

variable {β γ : Type}

def fail (path : List String) (cause : Cause) : Check β := .error [⟨path, cause⟩]

def map (f : β → γ) : Check β → Check γ
  | .ok x => .ok (f x)
  | .error p => .error p

def both (f : Check (β → γ)) (x : Check β) : Check γ :=
  match f, x with
  | .ok f, .ok x => .ok (f x)
  | .ok _, .error q => .error q
  | .error p, .ok _ => .error p
  | .error p, .error q => .error (p ++ q)

instance : Functor Check where
  map := map

instance : Seq Check where
  seq f x := both f (x ())

/-- checks the items of a list from index `i` on -/
def each (path : List String) (check : List String → Value → Check β) (i : Nat) :
    List Value → Check (List β)
  | [] => .ok []
  | x :: xs =>
    List.cons <$> check (path ++ [Text.natText i]) x <*> each path check (i + 1) xs

/-! ## scalars -/

/-- why a value is no text -/
def textCause : Value → Cause
  | .bytes _ => .bytesText
  | _ => .notText

def text (path : List String) (v : Value) : Check String :=
  v.asText?.elim (fail path (textCause v)) .ok

/-- the blanks that numbers in texts may have around them -/
def isSpace (c : Char) : Bool := Text.isBlank c && !(28 ≤ c.toNat && c.toNat ≤ 31)

def unspaced (s : String) : List Char := Text.dropEnd isSpace (s.toList.dropWhile isSpace)

def floatText? (s : String) : Option Float := Decimal.number? Decimal.asciiDigit? (unspaced s)

def float (path : List String) : Value → Check Float
  | .float x => .ok x
  | .int i => if Binary64.overflows i then fail path .notNumber else .ok (Binary64.ofInt i)
  | .bool b => .ok (if b then 1.0 else 0.0)
  | .text s => (floatText? s).elim (fail path .numberText) .ok
  | .bytes bs => ((Value.bytes bs).asText?.bind floatText?).elim (fail path .numberText) .ok
  | _ => fail path .notNumber

/-- digits, perhaps with a point and zeros behind them -/
def wholeDigits? (cs : List Char) : Option Nat :=
  match Decimal.run Decimal.asciiDigit? 0 0 cs with
  | (_, 0, _) => none
  | (n, _, []) => some n
  | (n, _, '.' :: z :: zs) => if (z :: zs).all (· == '0') then some n else none
  | _ => none

def wholeText? (s : String) : Option Int :=
  match unspaced s with
  | '-' :: r => (wholeDigits? r).map fun n => -(n : Int)
  | '+' :: r => (wholeDigits? r).map Int.ofNat
  | r => (wholeDigits? r).map Int.ofNat

def fitsWord (i : Int) : Bool := -(2 ^ 63) ≤ i && i < 2 ^ 63

def integerOfText (path : List String) (s : String) : Check Int :=
  if Text.digitLimit < (unspaced s).length then fail path .integerTooLarge
  else (wholeText? s).elim (fail path .integerText) .ok

def integer (path : List String) : Value → Check Int
  | .int i => .ok i
  | .bool b => .ok b.toNat
  | .float x =>
    match Binary64.ofFloat x with
    | .finite _ _ _ =>
      match Binary64.whole? x with
      | none => fail path .fraction
      | some i => if -(2 ^ 63) < i && i < 2 ^ 63 then .ok i else fail path .integerTooLarge
    | _ => fail path .notFinite
  | .text s => integerOfText path s
  | .bytes bs => (Value.bytes bs).asText?.elim (fail path .integerText) (integerOfText path)
  | _ => fail path .notInteger

def falseWords : List String := ["0", "off", "f", "false", "n", "no"]
def trueWords : List String := ["1", "on", "t", "true", "y", "yes"]

def booleanText? (s : String) : Option Bool :=
  let word := Text.lower s
  if falseWords.contains word then some false
  else if trueWords.contains word then some true
  else none

def boolean (path : List String) : Value → Check Bool
  | .bool b => .ok b
  | .int i =>
    if i = 0 then .ok false else if i = 1 then .ok true
    else if fitsWord i then fail path .booleanText else fail path .notBoolean
  | .float x =>
    match Binary64.whole? x with
    | some i =>
      if i = 0 then .ok false else if i = 1 then .ok true
      else if -(2 ^ 63) < i && i < 2 ^ 63 then fail path .booleanText else fail path .notBoolean
    | none => fail path .notBoolean
  | .text s => (booleanText? s).elim (fail path .booleanText) .ok
  | .bytes bs => ((Value.bytes bs).asText?.bind booleanText?).elim (fail path .booleanText) .ok
  | _ => fail path .notBoolean

/-- a name of a closed vocabulary -/
def among (names : List String) (ofName? : String → Option β) (path : List String) :
    Value → Check β
  | .text s => (ofName? s).elim (fail path (.notAmong names)) .ok
  | _ => fail path (.notAmong names)

/-! ## containers -/

def list (medium : Medium) (check : List String → Value → Check β) (path : List String) :
    Value → Check (List β)
  | .list xs => each path check 0 xs
  | .tuple xs => each path check 0 xs
  | .set xs => each path check 0 xs
  | _ => fail path (.notList medium)

/-- accepts null as nothing -/
def optional (check : List String → Value → Check β) (path : List String) : Value → Check (Option β)
  | .null => .ok none
  | v => some <$> check path v

/-! ## entries -/

/-- entries with text keys, the later ones put over the earlier ones -/
def overlay (fs gs : Fields) : Fields :=
  gs.foldl (fun acc g =>
    if acc.any (·.1 == g.1) then acc.map fun f => if f.1 = g.1 then g else f else acc ++ [g]) fs

/-- the entries whose keys are texts -/
def fieldsOf (es : List (Value × Value)) : Fields :=
  es.filterMap fun
    | (.text k, v) => some (k, v)
    | _ => none

/-- a key as a part of a path -/
def keyPart : Value → String
  | .text s => s
  | .bool b => Text.natText b.toNat
  | k => if k.isWritable then k.literal else "<unprintable " ++ k.kind ++ " object>"

/-- the entries with their keys as texts; `refusal` is said of a key that is none -/
def keyed (refusal : Value → Problem) : List (Value × Value) → Check Fields
  | [] => .ok []
  | (k, v) :: es =>
    (fun key fs => (key, v) :: fs) <$> k.asText?.elim (.error [refusal k]) .ok <*> keyed refusal es

/-- data under texts as keys; the last value counts where a key is given twice, as a text and as bytes -/
def fields (medium : Medium) (path : List String) : Value → Check Fields
  | .map es => overlay [] <$> keyed (fun k => ⟨path ++ [keyPart k, "[key]"], textCause k⟩) es
  | _ => fail path (.notMap medium)

def entries (medium : Medium) (model : String) (path : List String) : Value → Check (List (Value × Value))
  | .map es => .ok es
  | _ => fail path (.notRecord medium model)

/-- the entries that may be fields; other keys than texts are passed over -/
def record (medium : Medium) (model : String) (path : List String) (v : Value) : Check Fields :=
  fieldsOf <$> entries medium model path v

/-! ## fields -/

def find? (key : String) : Fields → Option Value
  | [] => none
  | (k, v) :: r => if k = key then some v else find? key r

/-- the first of the spellings that is present, with its value -/
def spelled? (spellings : List String) (fs : Fields) : Option (String × Value) :=
  spellings.findSome? fun key => (find? key fs).map fun v => (key, v)

/-- a field by any of its spellings, `absent` if there is none -/
def field (fs : Fields) (path spellings : List String) (absent : Check β)
    (check : List String → Value → Check β) : Check β :=
  match spelled? spellings fs with
  | some (key, v) => check (path ++ [key]) v
  | none => absent

/-- a field that must be there; a missing one is reported by its first spelling -/
def required (fs : Fields) (path spellings : List String)
    (check : List String → Value → Check β) : Check β :=
  field fs path spellings (fail (path ++ [spellings.headD ""]) .missing) check

end Check

end ContractRisk
