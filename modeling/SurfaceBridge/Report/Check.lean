/-! Checks and what came of them. -/
namespace SurfaceBridge.Report

inductive Status where
  | pass
  | fail
  | warn
  | skip
  deriving DecidableEq

def Status.name : Status → String
  | pass => "pass"
  | fail => "fail"
  | warn => "warn"
  | skip => "skip"

structure Check where
  name : String
  status : Status
  message : String
  details : List String := []
  deriving DecidableEq

/-- How many checks have a status. -/
def count (status : Status) (checks : List Check) : Nat := checks.countP (·.status = status)

/-- A report with a failed check is a failure. -/
def failed (checks : List Check) : Bool := checks.any (·.status = .fail)

end SurfaceBridge.Report
