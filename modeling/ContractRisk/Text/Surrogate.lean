/-!
# Surrogates

The texts of pattern files can hold escaped surrogates, which are no characters. One of the last private
characters stands for each of them, and no longer for itself, so that texts with different surrogates
differ. A terminal takes no surrogates.
-/

namespace ContractRisk.Text

def isSurrogateCode (n : Nat) : Bool := 0xD800 ≤ n && n < 0xE000

/-- the character that stands for the surrogate of this code -/
def surrogate (code : Nat) : Char := Char.ofNat (0x100000 + code)

def isSurrogate (c : Char) : Bool := 0x100000 ≤ c.toNat && isSurrogateCode (c.toNat - 0x100000)

/-- the code of a character, or of the surrogate that it stands for -/
def codeOf (c : Char) : Nat := if isSurrogate c then c.toNat - 0x100000 else c.toNat

def hasSurrogate (s : String) : Bool := s.toList.any isSurrogate

/-- a text that is given by its characters is not taken apart again; a literal is such a text -/
theorem hasSurrogate_ofList (cs : List Char) : hasSurrogate (String.ofList cs) = cs.any isSurrogate := by
  rw [hasSurrogate, String.toList_ofList]

end ContractRisk.Text
