import ContractRisk.Decimal.Binary64
import ContractRisk.Text.Numeral

/-!
# Reading decimal text

`number?` reads a numeral: a sign, digits with at most one point among them, an exponent; single
underscores may stand between digits. The words `inf`, `infinity` and `nan` are numerals too. Which
characters are digits is a parameter.
-/

namespace ContractRisk.Decimal

/-- a run of digits read onto `acc`, with their count and the rest -/
def run (digit : Char → Option Nat) (acc count : Nat) : List Char → Nat × Nat × List Char
  | '_' :: c :: r =>
    match count, digit c with
    | k + 1, some d => run digit (acc * 10 + d) (k + 2) r
    | _, _ => (acc, count, '_' :: c :: r)
  | c :: r =>
    match digit c with
    | some d => run digit (acc * 10 + d) (count + 1) r
    | none => (acc, count, c :: r)
  | [] => (acc, count, [])

/-- the exponent that ends a numeral, zero if there is none -/
def exponent? (digit : Char → Option Nat) : List Char → Option Int
  | [] => some 0
  | e :: r =>
    if e = 'e' ∨ e = 'E' then
      let (negative, r) := match r with
        | '-' :: r => (true, r)
        | '+' :: r => (false, r)
        | r => (false, r)
      match run digit 0 0 r with
      | (n, _ + 1, []) => some (Binary64.signed negative n)
      | _ => none
    else none

/-- is the text this word of the ASCII alphabet, in any letter case? -/
def isWordText (word : String) (cs : List Char) : Bool := cs.map Char.toLower = word.toList

def unsigned? (digit : Char → Option Nat) (negative : Bool) (cs : List Char) : Option Float :=
  if isWordText "inf" cs || isWordText "infinity" cs then
    some (if negative then -(1.0 / 0.0) else 1.0 / 0.0)
  else if isWordText "nan" cs then some (0.0 / 0.0)
  else
    let (whole, wholeCount, r) := run digit 0 0 cs
    let (digits, places, r) := match r with
      | '.' :: r =>
        let (part, count, r) := run digit 0 0 r
        (whole * 10 ^ count + part, count, r)
      | r => (whole, 0, r)
    if wholeCount + places = 0 then none
    else (exponent? digit r).map fun e => Binary64.ofDecimal negative digits (e - places)

/-- a numeral that fills the whole text -/
def number? (digit : Char → Option Nat) (cs : List Char) : Option Float :=
  match cs with
  | '-' :: r => unsigned? digit true r
  | '+' :: r => unsigned? digit false r
  | r => unsigned? digit false r

def asciiDigit? (c : Char) : Option Nat :=
  if Text.isAsciiDigit c then some (c.toNat - 48) else none

/-- a numeral in digits of any script, with blanks around it -/
def anyScript? (s : String) : Option Float := number? Text.digit? (Text.trimChars s.toList)

end ContractRisk.Decimal
