import ContractRisk.Text.CharRange
import ContractRisk.Text.WordTable

/-!
# Word characters

Letters and numerals of any script, and the underscore.
-/

namespace ContractRisk.Text

def isAsciiWord (c : Char) : Bool := c.isAlphanum || c == '_'

def isWord (c : Char) : Bool :=
  if c.toNat < 128 then isAsciiWord c else CharRange.mem letterOrNumeralRanges c

end ContractRisk.Text
