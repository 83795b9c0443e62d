import ContractRisk.Value
import ContractRisk.Yaml.Fault

/-!
# The machine that patterns are read on

Documents, rules and the texts of values are read and made by recursion, so what is nested in them can be too
deep for the stack. How deep is too deep depends on the machine, on how much of its stack is taken already
and on what is nested: nothing is assumed about it. A file comes in pieces, so what is wrong in its front
can end the reading before bytes are met that are no text; that too is left to the machine, and so are the
names by which rules may call characters.
-/

namespace ContractRisk

structure Machine where
  /-- how many collections may be nested in a text that is read as a document -/
  collections : List Char → Nat
  /-- how many groups may be nested in a rule that is read under flags -/
  groups : String → Nat → Nat
  /-- how many containers may be nested in a value that a text is made of; the value stands in an entry under
  the key -/
  containers : String → Value → Nat
  /-- the fault that ends the reading of a file in front of the first bytes that are no text, or of the first
  character that no document may hold -/
  ahead : List UInt8 → Option Yaml.Fault
  /-- the code of the character of a name -/
  characters : String → Option Nat

namespace Machine

/-- a usual stack of which little is taken, files that come in one piece, and no names of characters -/
def standard : Machine where
  collections _ := 480
  groups _ _ := 490
  containers _ _ := 970
  ahead _ := none
  characters _ := none

/-- is there room to make a text of a value that stands under a key? -/
def hasRoom (m : Machine) (key : String) (v : Value) : Bool := v.depth ≤ m.containers key v

end Machine

end ContractRisk
