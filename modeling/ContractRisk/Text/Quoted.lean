import ContractRisk.Text.CharRange
import ContractRisk.Text.HiddenTable
import ContractRisk.Text.Numeral
import ContractRisk.Text.Surrogate

/-!
# Quoted text

`quoted` shows a text between quotes, so that blanks and hidden characters can be seen: single
quotes unless the text has a single quote and no double one; backslash, the chosen quote, line feed,
carriage return and tab after a backslash; other hidden characters by their code point.
-/

namespace ContractRisk.Text

/-- has the character a glyph of its own? -/
def isShown (c : Char) : Bool :=
  if c.toNat < 128 then 32 ≤ c.toNat && c.toNat < 127 else !CharRange.mem hiddenRanges c

def escapedByCode (c : Char) : List Char :=
  let n := codeOf c
  if n < 0x100 then '\\' :: 'x' :: hexPadded 2 n
  else if n < 0x10000 then '\\' :: 'u' :: hexPadded 4 n
  else '\\' :: 'U' :: hexPadded 8 n

def quotedChar (quote c : Char) : List Char :=
  if c = quote ∨ c = '\\' then ['\\', c]
  else if c = '\n' then ['\\', 'n']
  else if c = '\r' then ['\\', 'r']
  else if c = '\t' then ['\\', 't']
  else if isShown c then [c]
  else escapedByCode c

def quoteFor (cs : List Char) : Char :=
  if '\'' ∈ cs ∧ '"' ∉ cs then '"' else '\''

def quotedChars (cs : List Char) : List Char :=
  let q := quoteFor cs
  q :: cs.flatMap (quotedChar q) ++ [q]

def quoted (s : String) : String := String.ofList (quotedChars s.toList)

/-- a quoted text is cut off at this length when it is no number -/
def numeralShown : Nat := 200

/-- what is said of a text that is no number in a base; the text is given quoted -/
def noNumeral (base : Nat) (quoted : String) : String :=
  "invalid literal for int() with base " ++ natText base ++ ": " ++
    String.ofList (quoted.toList.take numeralShown)

/-- one byte inside a quoted byte string -/
def quotedByte (quote : Char) (b : UInt8) : List Char :=
  let c := Char.ofNat b.toNat
  if c = quote ∨ c = '\\' then ['\\', c]
  else if c = '\n' then ['\\', 'n']
  else if c = '\r' then ['\\', 'r']
  else if c = '\t' then ['\\', 't']
  else if 32 ≤ b.toNat ∧ b.toNat < 127 then [c]
  else escapedByCode c

def quotedBytes (bs : List UInt8) : String :=
  let q := quoteFor (bs.map fun b => Char.ofNat b.toNat)
  String.ofList ('b' :: q :: bs.flatMap (quotedByte q) ++ [q])

end ContractRisk.Text
