import ContractRisk.Text.Utf8
import ContractRisk.Value

/-!
# Reading JSON

`read` turns the bytes of one JSON text into a `Value`. The words `NaN`, `Infinity` and `-Infinity`
are numbers; of several entries with one key the last value stays, at the first one's place; at most
`nesting` containers that hold something may enclose another one. A refused text gives the cause and
where it was met, by line and column in bytes.
-/

namespace ContractRisk.Json

inductive Fault where
  | endInValue
  | endInObject
  | endInList
  | endInString
  | expectedValue
  | expectedWord
  | expectedColon
  | expectedCommaOrBrace
  | expectedCommaOrBracket
  | keyNotString
  | trailingComma
  | trailingCharacters
  | invalidNumber
  | numberTooLong
  | invalidEscape
  | invalidUtf8
  | endOfHexEscape
  | loneSurrogate
  | controlCharacter
  | tooDeep
deriving Repr, DecidableEq

def Fault.message : Fault → String
  | endInValue => "EOF while parsing a value"
  | endInObject => "EOF while parsing an object"
  | endInList => "EOF while parsing a list"
  | endInString => "EOF while parsing a string"
  | expectedValue => "expected value"
  | expectedWord => "expected ident"
  | expectedColon => "expected `:`"
  | expectedCommaOrBrace => "expected `,` or `\x7d`"
  | expectedCommaOrBracket => "expected `,` or `]`"
  | keyNotString => "key must be a string"
  | trailingComma => "trailing comma"
  | trailingCharacters => "trailing characters"
  | invalidNumber => "invalid number"
  | numberTooLong => "number out of range"
  | invalidEscape => "invalid escape"
  | invalidUtf8 => "invalid unicode code point"
  | endOfHexEscape => "unexpected end of hex escape"
  | loneSurrogate => "lone leading surrogate in hex escape"
  | controlCharacter => "control character (\\u0000-\\u001F) found while parsing a string"
  | tooDeep => "recursion limit exceeded"

/-- a cause, and how many bytes were left where it was met -/
structure Refusal where
  fault : Fault
  left : Nat
deriving Repr, DecidableEq

def stop {α : Type} (fault : Fault) (rest : List UInt8) : Except Refusal α :=
  .error ⟨fault, rest.length⟩

def isSpace (b : UInt8) : Bool := b == 32 || b == 9 || b == 10 || b == 13

def skip (bs : List UInt8) : List UInt8 := bs.dropWhile isSpace

def isDigit (b : UInt8) : Bool := 48 ≤ b && b ≤ 57

/-! ## words and numbers -/

/-- the rest of a word whose first letter has been read -/
def word (rest : String) (bs : List UInt8) : Except Refusal (List UInt8) :=
  go (Text.Utf8.bytes rest) bs
where
  go : List UInt8 → List UInt8 → Except Refusal (List UInt8)
    | [], bs => .ok bs
    | _ :: _, [] => stop .endInValue []
    | w :: ws, b :: bs => if w = b then go ws bs else stop .expectedWord (b :: bs)

/-- digits read onto `acc`, with their count -/
def digits (acc count : Nat) : List UInt8 → Nat × Nat × List UInt8
  | [] => (acc, count, [])
  | b :: r => if isDigit b then digits (acc * 10 + (b.toNat - 48)) (count + 1) r
    else (acc, count, b :: r)

/-- at least one digit -/
def digits1 (acc : Nat) (bs : List UInt8) : Except Refusal (Nat × Nat × List UInt8) :=
  match digits acc 0 bs with
  | (_, 0, []) => stop .endInValue []
  | (_, 0, r) => stop .invalidNumber r
  | (n, k, r) => .ok (n, k, r)

def isExponentMark (b : UInt8) : Bool := b == 101 || b == 69

/-- the exponent, the mark in front -/
def exponent (bs : List UInt8) : Except Refusal (Int × List UInt8) :=
  match bs with
  | 45 :: r => (digits1 0 r).map fun (n, _, r) => (-(n : Int), r)
  | 43 :: r => (digits1 0 r).map fun (n, _, r) => ((n : Int), r)
  | r => (digits1 0 r).map fun (n, _, r) => ((n : Int), r)

/-- what follows the whole part of a number -/
def afterWhole (negative : Bool) (whole : Nat) (bs : List UInt8) : Except Refusal (Value × List UInt8) :=
  match bs with
  | 46 :: r => do
    let (n, places, r) ← digits1 whole r
    match r with
    | b :: r' =>
      if isExponentMark b then
        let (e, r) ← exponent r'
        .ok (.float (Binary64.ofDecimal negative n (e - places)), r)
      else .ok (.float (Binary64.ofDecimal negative n (-places)), r)
    | [] => .ok (.float (Binary64.ofDecimal negative n (-places)), [])
  | b :: r =>
    if isExponentMark b then do
      let (e, r) ← exponent r
      .ok (.float (Binary64.ofDecimal negative whole e), r)
    else .ok (.int (Binary64.signed negative whole), b :: r)
  | [] => .ok (.int (Binary64.signed negative whole), [])

/-- is there a fraction or an exponent next? -/
def startsFraction : List UInt8 → Bool
  | b :: _ => b == 46 || isExponentMark b
  | [] => false

def infinity (negative : Bool) : Float := if negative then -(1.0 / 0.0) else 1.0 / 0.0

/-- a number, the sign in front taken off; `start` is its text from the sign on -/
def number (negative : Bool) (start bs : List UInt8) : Except Refusal (Value × List UInt8) :=
  match bs with
  | [] => stop .endInValue []
  | 48 :: r =>
    match r with
    | b :: _ => if isDigit b then stop .invalidNumber r else afterWhole negative 0 r
    | [] => afterWhole negative 0 []
  | 73 :: r => (word "nfinity" r).map fun r => (.float (infinity negative), r)
  | b :: _ =>
    if isDigit b then
      let (n, count, r) := digits 0 0 bs
      if Text.digitLimit < count && !startsFraction r then
        stop .numberTooLong (start.drop (Text.digitLimit + 1))
      else afterWhole negative n r
    else stop .invalidNumber bs

/-! ## strings -/

def hexValue? (b : UInt8) : Option Nat :=
  if isDigit b then some (b.toNat - 48)
  else if 97 ≤ b && b ≤ 102 then some (b.toNat - 87)
  else if 65 ≤ b && b ≤ 70 then some (b.toNat - 55)
  else none

/-- four hexadecimal digits -/
def hex4 : List UInt8 → Except Refusal (Nat × List UInt8)
  | a :: b :: c :: d :: r =>
    match hexValue? a, hexValue? b, hexValue? c, hexValue? d with
    | none, _, _, _ => stop .invalidEscape (a :: b :: c :: d :: r)
    | _, none, _, _ => stop .invalidEscape (b :: c :: d :: r)
    | _, _, none, _ => stop .invalidEscape (c :: d :: r)
    | _, _, _, none => stop .invalidEscape (d :: r)
    | some p, some q, some s, some t => .ok (p * 4096 + q * 256 + s * 16 + t, r)
  | _ => stop .endInString []

/-- a character by its code, the `u` read; a high surrogate needs a low one behind it -/
def hexEscape (bs : List UInt8) : Except Refusal (Char × List UInt8) := do
  let (n, r) ← hex4 bs
  if 0xDC00 ≤ n ∧ n ≤ 0xDFFF then .error ⟨.loneSurrogate, r.length + 1⟩
  else if 0xD800 ≤ n ∧ n ≤ 0xDBFF then
    match r with
    | 92 :: 117 :: r =>
      let (m, r) ← hex4 r
      if 0xDC00 ≤ m ∧ m ≤ 0xDFFF then
        .ok (Char.ofNat ((n - 0xD800) * 1024 + (m - 0xDC00) + 0x10000), r)
      else .error ⟨.loneSurrogate, r.length + 1⟩
    | 92 :: b :: r => stop .endOfHexEscape (b :: r)
    | [92] | [] => stop .endInString []
    | r => stop .endOfHexEscape r
  else .ok (Char.ofNat n, r)

/-- the byte behind a backslash for a character of one letter -/
def shortEscape? (b : UInt8) : Option UInt8 :=
  if b = 34 ∨ b = 92 ∨ b = 47 then some b
  else if b = 98 then some 8
  else if b = 102 then some 12
  else if b = 110 then some 10
  else if b = 114 then some 13
  else if b = 116 then some 9
  else none

/-- the decoded bytes of a string, last one first, up to the closing quote -/
def stringBytes (acc : List UInt8) : Nat → List UInt8 → Except Refusal (List UInt8 × List UInt8)
  | 0, bs => stop .endInString bs
  | _ + 1, [] => stop .endInString []
  | fuel + 1, b :: r =>
    if b = 34 then .ok (acc, r)
    else if b = 92 then
      match r with
      | [] => stop .endInString []
      | 117 :: r => do
        let (c, r) ← hexEscape r
        stringBytes ((Text.Utf8.encodeChar c).reverse ++ acc) fuel r
      | e :: r =>
        match shortEscape? e with
        | some d => stringBytes (d :: acc) fuel r
        | none => stop .invalidEscape (e :: r)
    else if b < 32 then stop .controlCharacter (b :: r)
    else stringBytes (b :: acc) fuel r

/-- a string, the opening quote read -/
def string (bs : List UInt8) : Except Refusal (String × List UInt8) := do
  let (acc, r) ← stringBytes [] (bs.length + 1) bs
  let decoded := acc.reverse
  match Text.Utf8.decode decoded with
  | .ok cs => .ok (String.ofList cs, r)
  | .error bad => .error ⟨.invalidUtf8, bs.length - (decoded.length - bad.length)⟩

/-! ## containers -/

/-- a key and its colon, the opening quote read; blanks behind the colon are skipped -/
def key (bs : List UInt8) : Except Refusal (String × List UInt8) := do
  let (k, r) ← string bs
  match skip r with
  | [] => stop .endInObject []
  | 58 :: r =>
    match skip r with
    | [] => stop .endInValue []
    | r => .ok (k, r)
  | r => stop .expectedColon r

/-- refuses to open a container inside too many others -/
def checkDepth (nesting depth : Nat) (bs : List UInt8) : Except Refusal Unit :=
  if nesting ≤ depth then stop .tooDeep bs else .ok ()

mutual

/-- a value whose first byte is next, inside `depth` containers -/
def value (nesting depth : Nat) : Nat → List UInt8 → Except Refusal (Value × List UInt8)
  | 0, bs => stop .endInValue bs
  | _, [] => stop .endInValue []
  | fuel + 1, b :: r =>
    if b = 110 then (word "ull" r).map fun r => (.null, r)
    else if b = 116 then (word "rue" r).map fun r => (.bool true, r)
    else if b = 102 then (word "alse" r).map fun r => (.bool false, r)
    else if b = 34 then (string r).map fun (s, r) => (.text s, r)
    else if b = 91 then
      match skip r with
      | [] => stop .endInList []
      | 93 :: r => .ok (.list [], r)
      | r => do
        checkDepth nesting depth r
        elements nesting (depth + 1) [] fuel r
    else if b = 123 then
      match skip r with
      | [] => stop .endInObject []
      | 125 :: r => .ok (.map [], r)
      | 34 :: r => do
        let (k, r) ← key r
        checkDepth nesting depth r
        members nesting (depth + 1) [] k fuel r
      | r => stop .keyNotString r
    else if b = 78 then (word "aN" r).map fun r => (.float (0.0 / 0.0), r)
    else if b = 45 then number true (b :: r) r
    else if isDigit b || b = 73 then number false (b :: r) (b :: r)
    else stop .expectedValue (b :: r)

/-- the elements of a list from the next one on; `acc` has those before, last one first -/
def elements (nesting depth : Nat) (acc : List Value) : Nat → List UInt8 → Except Refusal (Value × List UInt8)
  | 0, bs => stop .endInList bs
  | fuel + 1, bs => do
    let (v, r) ← value nesting depth fuel bs
    match skip r with
    | [] => stop .endInList []
    | 93 :: r => .ok (.list (v :: acc).reverse, r)
    | 44 :: r =>
      match skip r with
      | [] => stop .endInValue []
      | 93 :: r => stop .trailingComma (93 :: r)
      | r => elements nesting depth (v :: acc) fuel r
    | r => stop .expectedCommaOrBracket r

/-- the entries of an object from the value of key `k` on -/
def members (nesting depth : Nat) (acc : List (Value × Value)) (k : String) :
    Nat → List UInt8 → Except Refusal (Value × List UInt8)
  | 0, bs => stop .endInObject bs
  | fuel + 1, bs => do
    let (v, r) ← value nesting depth fuel bs
    let acc := Value.putEntry (.text k) v acc
    match skip r with
    | [] => stop .endInObject []
    | 125 :: r => .ok (.map acc, r)
    | 44 :: r =>
      match skip r with
      | [] => stop .endInValue []
      | 125 :: r => stop .trailingComma (125 :: r)
      | 34 :: r => do
        let (k, r) ← key r
        members nesting depth acc k fuel r
      | r => stop .keyNotString r
    | r => stop .expectedCommaOrBrace r

end

/-- one JSON text -/
def document (nesting : Nat) (bs : List UInt8) : Except Refusal Value := do
  let (v, r) ← value nesting 0 (2 * bs.length + 2) (skip bs)
  match skip r with
  | [] => .ok v
  | r => stop .trailingCharacters r

/-! ## places -/

/-- line and column, both from 1; a line feed stands in column 0 of the line that it starts -/
structure Place where
  line : Nat
  column : Nat
deriving Repr, DecidableEq

/-- the place of the byte behind the first `index` ones -/
def placeAt (bs : List UInt8) (index : Nat) : Place :=
  let upto := bs.take (index + 1)
  let current := upto.reverse.takeWhile (· != 10)
  ⟨1 + upto.count 10, current.length⟩

/-- why and where a text was refused -/
structure ReadError where
  fault : Fault
  place : Place
deriving Repr, DecidableEq

def ReadError.message (e : ReadError) : String :=
  e.fault.message ++ " at line " ++ Text.natText e.place.line ++ " column " ++
    Text.natText e.place.column

def Refusal.locate (bs : List UInt8) (r : Refusal) : ReadError :=
  ⟨r.fault, placeAt bs (bs.length - r.left)⟩

/-- so many containers may enclose another one in a bundle -/
def bundleNesting : Nat := 200

def read (nesting : Nat) (bs : List UInt8) : Except ReadError Value :=
  (document nesting bs).mapError (Refusal.locate bs)

end ContractRisk.Json
