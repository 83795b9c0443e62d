import ContractRisk.Decimal.Scientific
import ContractRisk.Value

/-!
# Message templates

A template is a text with fields, each a percent sign with flags, a width, a precision and a letter that
says how the value is shown. `Template.read` splits a template into its pieces once; `Template.fill` puts the
values in, in order, or by name if the only value is a map.
-/

namespace ContractRisk.Log

inductive TemplateFault where
  | tooFewValues
  | tooManyValues
  /-- a value of this kind cannot be shown this way -/
  | kind (conversion : Char) (kind : String)
  | sizeKind (kind : String)
  | notCharacter
  | noMap
  | missingKey (key : String)
  | noNumber
  | infinite
  | tooLarge
  | noCodePoint
  | unfinished
  | unfinishedKey
  | unknownConversion (conversion : Char) (index : Nat)
deriving Repr, DecidableEq

def TemplateFault.message : TemplateFault → String
  | tooFewValues => "not enough arguments for format string"
  | tooManyValues => "not all arguments converted during string formatting"
  | kind conversion found =>
    "%" ++ String.ofList [conversion] ++ " format: a number is required, not " ++ found
  | sizeKind _ => "* wants int"
  | notCharacter => "%c requires int or char"
  | noMap => "format requires a mapping"
  | missingKey key => Text.quoted key
  | noNumber => "cannot convert float NaN to integer"
  | infinite => "cannot convert float infinity to integer"
  | tooLarge => "int too large to convert to float"
  | noCodePoint => "%c arg not in range(0x110000)"
  | unfinished => "incomplete format"
  | unfinishedKey => "incomplete format key"
  | unknownConversion conversion index =>
    "unsupported format character '" ++ String.ofList [conversion] ++ "' (0x" ++
      String.ofList (Text.hexPadded 1 conversion.toNat) ++ ") at index " ++ Text.natText index

/-- a width or a precision -/
inductive Size where
  /-- the next value -/
  | given
  | fixed (n : Nat)
deriving Repr, DecidableEq

/-- a field without its conversion -/
structure Spec where
  key : Option String
  left : Bool
  signed : Bool
  blank : Bool
  alternate : Bool
  zero : Bool
  width : Option Size
  precision : Option Size

def Spec.empty : Spec := ⟨none, false, false, false, false, false, none, none⟩

inductive Piece where
  | char (c : Char)
  | field (s : Spec) (conversion : Char) (index : Nat)
  | broken (f : TemplateFault)

/-! ## reading -/

/-- the part of a field that has been read last -/
inductive Stage where
  | outside
  | start
  /-- a key, with the brackets that are open inside it and its characters, last one first -/
  | key (depth : Nat) (acc : List Char)
  | flags
  | width
  | widthDone
  | point
  | places
  | placesDone
  | size

namespace Stage

def flag? (s : Spec) (c : Char) : Option Spec :=
  match c with
  | '-' => some { s with left := true }
  | '+' => some { s with signed := true }
  | ' ' => some { s with blank := true }
  | '#' => some { s with alternate := true }
  | '0' => some { s with zero := true }
  | _ => none

/-- a digit put behind those of a size -/
def grown (old : Option Size) (c : Char) : Option Size :=
  let digit := c.toNat - 48
  match old with
  | some (.fixed n) => some (.fixed (n * 10 + digit))
  | _ => some (.fixed digit)

def sizeMark? (s : Spec) (c : Char) : Option (Stage × Spec) :=
  if c = 'h' ∨ c = 'l' ∨ c = 'L' then some (.size, s) else none

/-- what may stand behind the width -/
def behindWidth? (s : Spec) (c : Char) : Option (Stage × Spec) :=
  if c = '.' then some (.point, { s with precision := some (.fixed 0) }) else sizeMark? s c

/-- the stage behind a character; none if the character is the conversion -/
def next? (stage : Stage) (s : Spec) (c : Char) : Option (Stage × Spec) :=
  match stage with
  | .start | .flags =>
    match flag? s c with
    | some s => some (.flags, s)
    | none =>
      if c = '*' then some (.widthDone, { s with width := some .given })
      else if Text.isAsciiDigit c then some (.width, { s with width := grown none c })
      else behindWidth? s c
  | .width =>
    if Text.isAsciiDigit c then some (.width, { s with width := grown s.width c })
    else behindWidth? s c
  | .widthDone => behindWidth? s c
  | .point =>
    if c = '*' then some (.placesDone, { s with precision := some .given })
    else if Text.isAsciiDigit c then some (.places, { s with precision := grown none c })
    else sizeMark? s c
  | .places =>
    if Text.isAsciiDigit c then some (.places, { s with precision := grown s.precision c })
    else sizeMark? s c
  | .placesDone => sizeMark? s c
  | .outside | .key .. | .size => none

end Stage

namespace Template

def readFrom (index : Nat) (stage : Stage) (s : Spec) : List Char → List Piece
  | [] =>
    match stage with
    | .outside => []
    | .key .. => [.broken .unfinishedKey]
    | _ => [.broken .unfinished]
  | c :: r =>
    match stage with
    | .outside =>
      if c = '%' then readFrom (index + 1) .start .empty r
      else .char c :: readFrom (index + 1) .outside s r
    | .key depth acc =>
      if c = ')' ∧ depth = 0 then
        readFrom (index + 1) .flags { s with key := some (String.ofList acc.reverse) } r
      else
        let depth := if c = '(' then depth + 1 else if c = ')' then depth - 1 else depth
        readFrom (index + 1) (.key depth (c :: acc)) s r
    | stage =>
      match stage, c with
      | .start, '(' => readFrom (index + 1) (.key 0 []) s r
      | stage, c =>
        match stage.next? s c with
        | some (stage, s) => readFrom (index + 1) stage s r
        | none => .field s c index :: readFrom (index + 1) .outside .empty r

def read (template : String) : List Piece := readFrom 0 .outside .empty template.toList

end Template

/-! ## values -/

/-- the values that are left -/
structure Values where
  rest : List Value
  map : Option (List (Value × Value))

namespace Values

/-- the values of a message; a single map that is not empty gives its entries by name -/
def ofList (vs : List Value) : Values :=
  match vs with
  | [.map (e :: es)] => ⟨vs, some (e :: es)⟩
  | _ => ⟨vs, none⟩

def next (v : Values) : Except TemplateFault (Value × Values) :=
  match v.rest with
  | [] => .error .tooFewValues
  | x :: r => .ok (x, { v with rest := r })

/-- the entry of a key becomes the only value that is left -/
def select (v : Values) (key : Option String) : Except TemplateFault Values :=
  match key, v.map with
  | none, _ => .ok v
  | some _, none => .error .noMap
  | some k, some es =>
    match Value.entry? k es with
    | some x => .ok { v with rest := [x] }
    | none => .error (.missingKey k)

/-- the number of a size -/
def size (v : Values) : Option Size → Except TemplateFault (Option Int × Values)
  | none => .ok (none, v)
  | some (.fixed n) => .ok (some n, v)
  | some .given => do
    let (x, v) ← v.next
    match x with
    | .int i => .ok (some i, v)
    | .bool b => .ok (some b.toNat, v)
    | _ => .error (.sizeKind x.kind)

end Values

/-! ## filling -/

/-- how a value is set into its width -/
structure Frame where
  spec : Spec
  width : Nat
  left : Bool
  precision : Option Nat

namespace Frame

def blanks (n : Nat) : String := String.ofList (List.replicate n ' ')

def text (f : Frame) (s : String) : String :=
  let s := match f.precision with
    | some n => String.ofList (s.toList.take n)
    | none => s
  if f.left then Text.padRight f.width ' ' s else Text.padLeft f.width ' ' s

/-- a number: its sign, a mark in front of the digits, and the digits -/
def number (f : Frame) (negative : Bool) (mark digits : String) : String :=
  let sign := if negative then "-" else if f.spec.signed then "+" else if f.spec.blank then " " else ""
  let room := f.width - (sign.length + mark.length + digits.length)
  if f.left then sign ++ mark ++ digits ++ blanks room
  else if f.spec.zero then sign ++ mark ++ Decimal.zeros room ++ digits
  else blanks room ++ sign ++ mark ++ digits

/-- a whole number to a base -/
def whole (f : Frame) (base : Nat) (mark : String) (capital : Bool) (i : Int) : String :=
  let digits := String.ofList (Nat.toDigits base i.natAbs)
  let digits := Text.padLeft (f.precision.getD 0) '0' (if capital then digits.toUpper else digits)
  f.number (i < 0) (if f.spec.alternate then mark else "") digits

def double (f : Frame) (conversion : Char) (x : Float) : String :=
  let places := f.precision.getD 6
  let keep := f.spec.alternate
  let capital (s : String) := if conversion.isUpper then s.toUpper else s
  match Binary64.ofFloat x with
  | .nan => f.number false "" (capital "nan")
  | .infinite negative => f.number negative "" (capital "inf")
  | .finite negative mant exp =>
    let digits := match conversion.toLower with
      | 'e' => Decimal.scientific places keep mant exp
      | 'g' => Decimal.generalTo places keep mant exp
      | _ => Decimal.withPoint keep (Decimal.fixed places x.abs)
    f.number negative "" (capital digits)

end Frame

namespace Template

/-- a text with all characters outside ASCII by their code points -/
def asciiText (s : String) : String :=
  String.ofList (s.toList.flatMap fun c => if c.toNat < 128 then [c] else Text.escapedByCode c)

/-- the whole number that a value stands for -/
def wholeOf (conversion : Char) : Value → Except TemplateFault Int
  | .int i => .ok i
  | .bool b => .ok b.toNat
  | .float x =>
    if conversion = 'd' ∨ conversion = 'i' ∨ conversion = 'u' then
      match Binary64.truncate? x with
      | some i => .ok i
      | none => .error (if x.isNaN then .noNumber else .infinite)
    else .error (.kind conversion "float")
  | v => .error (.kind conversion v.kind)

def doubleOf (conversion : Char) : Value → Except TemplateFault Float
  | .float x => .ok x
  | .int i => if Binary64.overflows i then .error .tooLarge else .ok (Binary64.ofInt i)
  | .bool b => .ok (if b then 1.0 else 0.0)
  | v => .error (.kind conversion v.kind)

def characterOf : Value → Except TemplateFault String
  | .text s => if s.length = 1 then .ok s else .error .notCharacter
  | .int i => if 0 ≤ i ∧ i < 0x110000 then .ok (String.ofList [Char.ofNat i.toNat])
    else .error .noCodePoint
  | .bool b => .ok (String.ofList [Char.ofNat b.toNat])
  | _ => .error .notCharacter

/-- a value as its conversion shows it -/
def shown (f : Frame) (conversion : Char) (index : Nat) (v : Value) : Except TemplateFault String :=
  match conversion with
  | 's' => .ok (f.text v.display)
  | 'r' => .ok (f.text v.literal)
  | 'a' => .ok (f.text (asciiText v.literal))
  | 'd' | 'i' | 'u' => (wholeOf conversion v).map (f.whole 10 "" false)
  | 'x' => (wholeOf conversion v).map (f.whole 16 "0x" false)
  | 'X' => (wholeOf conversion v).map (f.whole 16 "0X" true)
  | 'o' => (wholeOf conversion v).map (f.whole 8 "0o" false)
  | 'e' | 'E' | 'f' | 'F' | 'g' | 'G' => (doubleOf conversion v).map (f.double conversion)
  | 'c' => (characterOf v).map ({ f with precision := none } : Frame).text
  | _ => .error (.unknownConversion conversion index)

/-- the text of a field, and the values that are left then -/
def fillField (s : Spec) (conversion : Char) (index : Nat) (v : Values) :
    Except TemplateFault (String × Values) := do
  let v ← v.select s.key
  let (width, v) ← v.size s.width
  let (precision, v) ← v.size s.precision
  if conversion = '%' then return ("%", v)
  let (x, v) ← v.next
  let frame : Frame := ⟨s, (width.getD 0).natAbs, s.left || decide (width.getD 0 < 0),
    precision.map Int.toNat⟩
  let text ← shown frame conversion index x
  return (text, v)

def fillFrom (v : Values) : List Piece → Except TemplateFault String
  | [] => if v.rest.isEmpty || v.map.isSome then .ok "" else .error .tooManyValues
  | .char c :: ps => (fillFrom v ps).map fun s => String.ofList [c] ++ s
  | .broken f :: _ => .error f
  | .field s conversion index :: ps =>
    match fillField s conversion index v with
    | .error f => .error f
    | .ok (text, v) => (fillFrom v ps).map fun rest => text ++ rest

/-- the text of a template with its values; without values it stands as it is -/
def fill (template : String) (values : List Value) : Except TemplateFault String :=
  if values.isEmpty then .ok template else fillFrom (.ofList values) (read template)

end Template

end ContractRisk.Log
