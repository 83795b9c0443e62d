/-!
# Line ends

`unifyBreaks` turns every kind of line end into a line feed.
-/

namespace ContractRisk.Text

def unifyBreaks : List Char → List Char
  | '\r' :: '\n' :: r => '\n' :: unifyBreaks r
  | '\r' :: r => '\n' :: unifyBreaks r
  | c :: r => c :: unifyBreaks r
  | [] => []

end ContractRisk.Text
