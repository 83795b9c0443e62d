import ContractRisk.Text.Surrogate
import ContractRisk.Value

/-!
# Writing JSON

A `Style` fixes what JSON leaves open: the blanks, the characters that are escaped and the form of
numbers. `serial` is the style of the serialised bundle, `record` that of log records and `listing 2`
that of indented output.
-/

namespace ContractRisk.Json

structure Style where
  /-- are characters outside ASCII escaped? -/
  asciiOnly : Bool
  /-- is a blank put behind colons, and behind commas on one line? -/
  spaced : Bool
  /-- blanks per level, if every entry has its own line -/
  indent : Option Nat
  number : Float → String
  whole : Int → String

/-! ## strings -/

def unitEscape (n : Nat) : List Char := '\\' :: 'u' :: Text.hexPadded 4 n

/-- the UTF-16 units of a character, or the one of the surrogate that it stands for -/
def units (c : Char) : List Nat :=
  let n := Text.codeOf c
  if n < 0x10000 then [n] else [0xD800 + (n - 0x10000) / 1024, 0xDC00 + (n - 0x10000) % 1024]

def escaped (asciiOnly : Bool) (c : Char) : List Char :=
  if c = '"' then ['\\', '"']
  else if c = '\\' then ['\\', '\\']
  else if c = '\n' then ['\\', 'n']
  else if c = '\r' then ['\\', 'r']
  else if c = '\t' then ['\\', 't']
  else if c.toNat = 8 then ['\\', 'b']
  else if c.toNat = 12 then ['\\', 'f']
  else if c.toNat < 32 then unitEscape c.toNat
  else if asciiOnly && 127 ≤ c.toNat then (units c).flatMap unitEscape
  else [c]

def quotedChars (asciiOnly : Bool) (cs : List Char) : List Char :=
  '"' :: cs.flatMap (escaped asciiOnly) ++ ['"']

def quoted (asciiOnly : Bool) (s : String) : String := String.ofList (quotedChars asciiOnly s.toList)

/-! ## values -/

def Style.lineBreak (s : Style) (level : Nat) : String :=
  match s.indent with
  | none => ""
  | some n => "\n" ++ String.ofList (List.replicate (n * level) ' ')

def Style.comma (s : Style) (level : Nat) : String :=
  if s.indent.isSome then "," ++ s.lineBreak level else if s.spaced then ", " else ","

def Style.colon (s : Style) : String := if s.spaced then ": " else ":"

/-- written items between brackets -/
def Style.wrap (s : Style) (level : Nat) (opening closing : String) (items : List String) : String :=
  if items.isEmpty then opening ++ closing
  else opening ++ s.lineBreak (level + 1) ++ (s.comma (level + 1)).intercalate items ++
    s.lineBreak level ++ closing

mutual

def Style.write (s : Style) (level : Nat) : Value → String
  | .null => "null"
  | .bool b => if b then "true" else "false"
  | .int i => s.whole i
  | .float x => s.number x
  | .text t => quoted s.asciiOnly t
  | .list xs | .tuple xs => s.wrap level "[" "]" (Style.items s (level + 1) xs)
  | .map es => s.wrap level "\x7b" "\x7d" (Style.entries s (level + 1) es)
  | v => quoted s.asciiOnly v.display

def Style.items (s : Style) (level : Nat) : List Value → List String
  | [] => []
  | x :: xs => Style.write s level x :: Style.items s level xs

def Style.entries (s : Style) (level : Nat) : List (Value × Value) → List String
  | [] => []
  | (k, v) :: es =>
    (quoted s.asciiOnly k.display ++ s.colon ++ Style.write s level v) :: Style.entries s level es

end

/-! ## the styles -/

/-- a number of the serialised bundle; there is none for those that are not finite -/
def serialNumber (x : Float) : String :=
  match Binary64.ofFloat x with
  | .finite negative mant exp => Decimal.compact.finite negative mant exp
  | _ => "null"

/-- a number of a record, with words for those that are not finite -/
def recordNumber (x : Float) : String :=
  match Binary64.ofFloat x with
  | .finite negative mant exp => Decimal.plain.finite negative mant exp
  | .nan => "NaN"
  | .infinite negative => Decimal.sign negative ++ "Infinity"

def serial : Style := ⟨false, false, none, serialNumber, Text.intText⟩

def record : Style := ⟨true, true, none, recordNumber, Text.intText⟩

def listing (indent : Nat) : Style := ⟨true, true, some indent, recordNumber, Text.intText⟩

def Style.text (s : Style) (v : Value) : String := s.write 0 v

end ContractRisk.Json
