import SurfaceBridge.Platform
import SurfaceBridge.Report.Check

/-! Reports for a reader at a terminal: a coloured mark and a line for each check, and totals. -/
namespace SurfaceBridge.Report

namespace Status

def mark : Status → String
  | pass => "[PASS]"
  | fail => "[FAIL]"
  | warn => "[WARN]"
  | skip => "[SKIP]"

/-- The terminal's number of the mark's colour. -/
def colour : Status → Nat
  | pass => 32
  | fail => 31
  | warn => 33
  | skip => 90

end Status

private def line (text : String) : String := text ++ "\n"

/-- A check's line, and a line for each detail. -/
def Check.lines (check : Check) : List String :=
  (s!"  \x1b[{check.status.colour}m{check.status.mark}\x1b[0m " ++ check.name ++ " - " ++ check.message) ::
    check.details.map ("         " ++ ·)

def title : String := "xwsi Native Driver Verification (" ++ Platform.name ++ ")"

def totals (checks : List Check) : String :=
  s!"  {count .pass checks} passed, {count .fail checks} failed, {count .warn checks} warnings"

/-- The whole report. -/
def listing (checks : List Check) : String :=
  String.join (List.map line (
    ["", title, "=======================================", ""] ++
      checks.flatMap Check.lines ++
      ["", "---------------------------------------", totals checks, ""]))

end SurfaceBridge.Report
