import ContractRisk.Text.Blank
import ContractRisk.Text.DigitTable

/-!
# Numerals

`digit?` reads a decimal digit of any script. `integer?` reads a whole number: blanks around it, one
sign, digits with single underscores between them. `natText` and `intText` write one. Numbers with more
than `digitLimit` digits are neither read from texts nor written to them.
-/

namespace ContractRisk.Text

def isAsciiDigit (c : Char) : Bool := '0' ≤ c && c ≤ '9'

/-- the value of a decimal digit of any script -/
def digit? (c : Char) : Option Nat :=
  if c.toNat < 128 then if isAsciiDigit c then some (c.toNat - 48) else none
  else (digitZeros.find? fun z => z ≤ c.toNat && c.toNat < z + 10).map fun z => c.toNat - z

def isDigit (c : Char) : Bool := (digit? c).isSome

/-- digits read onto `acc`; an underscore must stand between two digits -/
def digitsOnto? (acc : Nat) : List Char → Option Nat
  | [] => some acc
  | '_' :: c :: r => (digit? c).bind fun d => digitsOnto? (acc * 10 + d) r
  | c :: r => (digit? c).bind fun d => digitsOnto? (acc * 10 + d) r

def natural? : List Char → Option Nat
  | [] => none
  | '_' :: _ => none
  | cs => digitsOnto? 0 cs

def integer? (cs : List Char) : Option Int :=
  match trimChars cs with
  | '-' :: r => (natural? r).map fun n => -(n : Int)
  | '+' :: r => (natural? r).map Int.ofNat
  | r => (natural? r).map Int.ofNat

/-! ## writing -/

def natText (n : Nat) : String := String.ofList (Nat.toDigits 10 n)

def intText (i : Int) : String :=
  if i < 0 then "-" ++ natText i.natAbs else natText i.natAbs

/-- lower-case hexadecimal digits, filled up with zeros to `width` -/
def hexPadded (width n : Nat) : List Char :=
  let ds := Nat.toDigits 16 n
  List.replicate (width - ds.length) '0' ++ ds

def padLeft (width : Nat) (fill : Char) (s : String) : String :=
  String.ofList (List.replicate (width - s.length) fill) ++ s

def padRight (width : Nat) (fill : Char) (s : String) : String :=
  s ++ String.ofList (List.replicate (width - s.length) fill)

/-! ## long numbers -/

/-- the most digits that a number is read from or written with -/
def digitLimit : Nat := 4300

/-- can the number be written? -/
def isWritable (i : Int) : Bool := i.natAbs < 10 ^ digitLimit

/-- a whole number without too many digits -/
def shortInteger? (cs : List Char) : Option Int :=
  (integer? cs).filter fun _ => cs.countP isDigit ≤ digitLimit

/-- what is said of a number with too many digits -/
def tooLongText (found : String) : String :=
  "Exceeds the limit (" ++ natText digitLimit ++ " digits) for integer string conversion" ++ found ++
    "; use sys.set_int_max_str_digits() to increase the limit"

/-- what is said of a numeral that has so many digits -/
def tooLongToRead (digits : Nat) : String :=
  tooLongText (": value has " ++ natText digits ++ " digits")

/-- what is said of data that are nested deeper than there is room for -/
def tooDeepText : String := "maximum recursion depth exceeded"

end ContractRisk.Text
