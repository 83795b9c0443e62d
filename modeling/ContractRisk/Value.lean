import ContractRisk.Calendar
import ContractRisk.Decimal.Layout
import ContractRisk.Text.Quoted
import ContractRisk.Text.Utf8

/-!
# Untyped data

A `Value` is what a JSON or YAML document, a metadata field or a free pattern field holds. `same` is
equality of data, where numbers count by value whatever their kind; `literal` and `display` are the
two texts of a value, the first with quotes around strings.
-/

namespace ContractRisk

inductive Value where
  | null
  | bool (b : Bool)
  | int (i : Int)
  | float (x : Float)
  | text (s : String)
  | bytes (bs : List UInt8)
  | date (d : Date)
  | moment (m : Moment)
  | list (xs : List Value)
  | tuple (xs : List Value)
  | set (xs : List Value)
  | map (entries : List (Value × Value))
  /-- the map, or the list, that the value itself is inside of -/
  | around (isMap : Bool)
deriving Inhabited

namespace Value

/-- the name of a kind of value in messages -/
def kind : Value → String
  | null => "NoneType"
  | bool _ => "bool"
  | int _ => "int"
  | float _ => "float"
  | text _ => "str"
  | bytes _ => "bytes"
  | date _ => "datetime.date"
  | moment _ => "datetime.datetime"
  | list _ => "list"
  | tuple _ => "tuple"
  | set _ => "set"
  | map _ => "dict"
  | around isMap => if isMap then "dict" else "list"

/-- is the value one that counts as absent: null, false, zero or empty? -/
def isVoid : Value → Bool
  | null => true
  | bool b => !b
  | int i => i == 0
  | float x => x == 0
  | text s => s.isEmpty
  | bytes bs => bs.isEmpty
  | date _ | moment _ | around _ => false
  | list xs | tuple xs | set xs => xs.isEmpty
  | map es => es.isEmpty

/-- the text that a text or bytes in UTF-8 stand for -/
def asText? : Value → Option String
  | text s => some s
  | bytes bs => (Text.Utf8.decode bs).toOption.map String.ofList
  | _ => none

/-- what a loop over the value visits; none for a value that holds nothing to visit -/
def items? : Value → Option (List Value)
  | text s => some (s.toList.map fun c => text (String.ofList [c]))
  | bytes bs => some (bs.map fun b => int b.toNat)
  | list xs | tuple xs | set xs => some xs
  | map es => some (es.map Prod.fst)
  | around isMap => some [around isMap]
  | _ => none

/-! ## equality of data -/

/-- the number a value stands for, truth values included -/
inductive Number where
  | exact (i : Int)
  | double (x : Float)

def number? : Value → Option Number
  | bool b => some (.exact b.toNat)
  | int i => some (.exact i)
  | float x => some (.double x)
  | _ => none

def Number.same : Number → Number → Bool
  | .exact i, .exact j => i == j
  | .double x, .double y => x == y
  | .exact i, .double y => Binary64.whole? y == some i
  | .double x, .exact j => Binary64.whole? x == some j

def momentSame (a b : Moment) : Bool :=
  match a.offset, b.offset with
  | some _, some _ => a.toMicros == b.toMicros
  | none, none => a == b
  | _, _ => false

mutual

def same : Value → Value → Bool
  | null, null => true
  | text s, text t => s == t
  | bytes a, bytes b => a == b
  | date a, date b => a == b
  | moment a, moment b => momentSame a b
  | list xs, list ys => sameAll xs ys
  | tuple xs, tuple ys => sameAll xs ys
  | set xs, set ys => xs.length == ys.length && eachAmong xs ys
  | map es, map fs => es.length == fs.length && entriesAmong es fs
  | around a, around b => a == b
  | a, b =>
    match a.number?, b.number? with
    | some m, some n => m.same n
    | _, _ => false

def sameAll : List Value → List Value → Bool
  | [], [] => true
  | x :: xs, y :: ys => same x y && sameAll xs ys
  | _, _ => false

def eachAmong : List Value → List Value → Bool
  | [], _ => true
  | x :: xs, ys => ys.any (fun y => same x y) && eachAmong xs ys

def entriesAmong : List (Value × Value) → List (Value × Value) → Bool
  | [], _ => true
  | (k, v) :: es, fs => fs.any (fun f => same k f.1 && same v f.2) && entriesAmong es fs

end

/-! ## keys and look-up -/

mutual

/-- the part of a value that keeps it from being a key, if there is one -/
def keyFault? : Value → Option Value
  | list xs => some (list xs)
  | set xs => some (set xs)
  | map es => some (map es)
  | around isMap => some (around isMap)
  | tuple xs => keyFaultAmong? xs
  | _ => none

def keyFaultAmong? : List Value → Option Value
  | [] => none
  | x :: xs => (keyFault? x).or (keyFaultAmong? xs)

end

/-- puts an entry into a map: over the one with the same key, else at the end -/
def putEntry (k v : Value) : List (Value × Value) → List (Value × Value)
  | [] => [(k, v)]
  | (k', v') :: es => if same k k' then (k', v) :: es else (k', v') :: putEntry k v es

def entry? (key : String) : List (Value × Value) → Option Value
  | [] => none
  | (k, v) :: es => if same k (text key) then some v else entry? key es

def field? (key : String) : Value → Option Value
  | map es => entry? key es
  | _ => none

/-- the first of each group of equal values, in order -/
def distinct (xs : List Value) : List Value :=
  xs.foldl (fun seen x => if seen.any (same x) then seen else seen ++ [x]) []

/-! ## texts -/

def momentLiteral (m : Moment) : String :=
  let parts := [Text.intText m.date.year, Text.natText m.date.month, Text.natText m.date.day,
    Text.natText m.hour, Text.natText m.minute]
  let parts := parts ++
    if m.micro ≠ 0 then [Text.natText m.second, Text.natText m.micro]
    else if m.second ≠ 0 then [Text.natText m.second] else []
  let zone := match m.offset with
    | none => ""
    | some 0 => ", tzinfo=datetime.timezone.utc"
    | some s => ", tzinfo=datetime.timezone(" ++ spanLiteral s ++ ")"
  "datetime.datetime(" ++ ", ".intercalate parts ++ zone ++ ")"

mutual

/-- the text of a value inside other values and in messages, with quotes around strings -/
def literal : Value → String
  | null => "None"
  | bool b => if b then "True" else "False"
  | int i => Text.intText i
  | float x => Decimal.text x
  | text s => Text.quoted s
  | bytes bs => Text.quotedBytes bs
  | date d => "datetime.date(" ++ Text.intText d.year ++ ", " ++ Text.natText d.month ++ ", " ++
      Text.natText d.day ++ ")"
  | moment m => momentLiteral m
  | list xs => "[" ++ ", ".intercalate (literals xs) ++ "]"
  | tuple [x] => "(" ++ literal x ++ ",)"
  | tuple xs => "(" ++ ", ".intercalate (literals xs) ++ ")"
  | set [] => "set()"
  | set xs => "\x7b" ++ ", ".intercalate (literals xs) ++ "\x7d"
  | map es => "\x7b" ++ ", ".intercalate (entryLiterals es) ++ "\x7d"
  | around isMap => if isMap then "\x7b...\x7d" else "[...]"

def literals : List Value → List String
  | [] => []
  | x :: xs => literal x :: literals xs

def entryLiterals : List (Value × Value) → List String
  | [] => []
  | (k, v) :: es => (literal k ++ ": " ++ literal v) :: entryLiterals es

end

/-- the text of a value on its own, strings as they are -/
def display : Value → String
  | text s => s
  | date d => d.iso
  | moment m => m.iso " "
  | v => v.literal

mutual

/-- can a text be made of the value? Not if it holds a number with too many digits. -/
def isWritable : Value → Bool
  | int i => Text.isWritable i
  | list xs | tuple xs | set xs => areWritable xs
  | map es => entriesWritable es
  | _ => true

def areWritable : List Value → Bool
  | [] => true
  | x :: xs => isWritable x && areWritable xs

def entriesWritable : List (Value × Value) → Bool
  | [] => true
  | (k, v) :: es => isWritable k && isWritable v && entriesWritable es

end

mutual

/-- how many containers are nested in a value -/
def depth : Value → Nat
  | list xs | tuple xs | set xs => depthAmong xs + 1
  | map es => entriesDepth es + 1
  | _ => 0

def depthAmong : List Value → Nat
  | [] => 0
  | x :: xs => max (depth x) (depthAmong xs)

def entriesDepth : List (Value × Value) → Nat
  | [] => 0
  | (k, v) :: es => max (max (depth k) (depth v)) (entriesDepth es)

end

/-- what is said of a value that no text can be made of -/
def unwritable : String := Text.tooLongText ""

/-- a message with the literal of a value, if that can be written -/
def told (v : Value) (message : String → String) : String :=
  if v.isWritable then message v.literal else unwritable

end Value

end ContractRisk
