import ContractRisk.Calendar
import ContractRisk.Text.Quoted

/-!
# Refused documents

A text may be no YAML document, be one with a scalar that its tag does not fit, or nest more collections
than there is room for.
-/

namespace ContractRisk.Yaml

inductive Fault where
  /-- the text breaks a rule of the language -/
  | malformed
  /-- an escape for a code point beyond the last one -/
  | codePoint (n : Nat)
  /-- a number without a digit -/
  | emptyNumber
  | whole (base : Nat) (text : String)
  /-- a whole number with too many digits -/
  | tooLong (digits : Nat)
  | decimal (text : String)
  | truth (text : String)
  /-- a text that is not of the form of a date -/
  | noMoment
  /-- a map where a date is expected -/
  | momentInMap
  | year (n : Nat)
  | month
  | day
  | hour
  | minute
  | second
  /-- an offset of a day or more, in seconds -/
  | offset (seconds : Int)
  /-- a place of base 60 that no double is large enough for -/
  | tooLarge
  /-- more collections are nested than there is room for -/
  | tooDeep
deriving Repr, DecidableEq

def Fault.message : Fault → String
  | malformed => "not a document"
  | codePoint _ => "chr() arg not in range(0x110000)"
  | emptyNumber => "string index out of range"
  | whole base text => Text.noNumeral base (Text.quoted text)
  | tooLong digits => Text.tooLongToRead digits
  | decimal text => "could not convert string to float: " ++ Text.quoted text
  | truth text => Text.quoted text
  | noMoment => "'NoneType' object has no attribute 'groupdict'"
  | momentInMap => "expected string or bytes-like object, got 'list'"
  | year n => "year " ++ Text.natText n ++ " is out of range"
  | month => "month must be in 1..12"
  | day => "day is out of range for month"
  | hour => "hour must be in 0..23"
  | minute => "minute must be in 0..59"
  | second => "second must be in 0..59"
  | offset seconds =>
    "offset must be a timedelta strictly between -timedelta(hours=24) and " ++
      "timedelta(hours=24), not " ++ spanLiteral seconds ++ "."
  | tooLarge => "int too large to convert to float"
  | tooDeep => Text.tooDeepText

end ContractRisk.Yaml
