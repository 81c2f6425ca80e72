import SurfaceBridge.Binding.Factory
import SurfaceBridge.Config.File

/-! Names and numbers that a host sees from outside. -/
namespace SurfaceBridge.Platform

def name : String := "linux"

/-- The variable that may name a log filter. -/
def logVariable : String := "XWSI_LOG"

/-- How many entry points the table has. -/
def tableSize : Nat := EntryPoint.all.length

end SurfaceBridge.Platform
