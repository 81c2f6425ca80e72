import SurfaceBridge.Error
import SurfaceBridge.Label

/-! The native entry points that the driver calls, and the table of their addresses. The table is filled
whole or not at all. -/
namespace SurfaceBridge

/-- A native entry point. -/
inductive RequiredSymbol where
  | createInstance
  | createXlibSurface
  | destroyInstance
  | destroySurface
  | getDeviceProcAddr
  | getInstanceProcAddr
  | xlibPresentationSupport
  deriving DecidableEq

namespace RequiredSymbol

/-- All of them, in the order in which they are looked up. -/
def all : List RequiredSymbol := [
  createInstance, createXlibSurface, destroyInstance, destroySurface, getDeviceProcAddr,
  getInstanceProcAddr, xlibPresentationSupport]

/-- The name that a library exports it under. -/
def name : RequiredSymbol → String
  | createInstance => "vkCreateInstance"
  | createXlibSurface => "vkCreateXlibSurfaceKHR"
  | destroyInstance => "vkDestroyInstance"
  | destroySurface => "vkDestroySurfaceKHR"
  | getDeviceProcAddr => "vkGetDeviceProcAddr"
  | getInstanceProcAddr => "vkGetInstanceProcAddr"
  | xlibPresentationSupport => "vkGetPhysicalDeviceXlibPresentationSupportKHR"

theorem mem_all (symbol : RequiredSymbol) : symbol ∈ all := by cases symbol <;> decide

end RequiredSymbol

/-- Where symbols are looked up. A symbol that is exported as null counts as missing. -/
abbrev SymbolSource := RequiredSymbol → Option UInt64

/-- The addresses of the native entry points. -/
structure EntryTable where
  createInstance : UInt64
  createXlibSurface : UInt64
  destroyInstance : UInt64
  destroySurface : UInt64
  getDeviceProcAddr : UInt64
  getInstanceProcAddr : UInt64
  xlibPresentationSupport : UInt64
  deriving DecidableEq

namespace EntryTable

def slot (table : EntryTable) : RequiredSymbol → UInt64
  | .createInstance => table.createInstance
  | .createXlibSurface => table.createXlibSurface
  | .destroyInstance => table.destroyInstance
  | .destroySurface => table.destroySurface
  | .getDeviceProcAddr => table.getDeviceProcAddr
  | .getInstanceProcAddr => table.getInstanceProcAddr
  | .xlibPresentationSupport => table.xlibPresentationSupport

/-- Look-ups that stop at the first missing symbol and note each symbol asked for. -/
abbrev Lookup (α : Type) := ExceptT RequiredSymbol (StateM (List RequiredSymbol)) α

/-- A symbol's address, if it is exported and not null. -/
def address? (source : SymbolSource) (symbol : RequiredSymbol) : Option UInt64 :=
  (source symbol).filter (· ≠ 0)

/-- Asks for one symbol. -/
def ask (source : SymbolSource) (symbol : RequiredSymbol) : Lookup UInt64 := do
  modify (· ++ [symbol])
  match address? source symbol with
  | some address => return address
  | none => throw symbol

def lookup (source : SymbolSource) : Lookup EntryTable := do
  return {
    createInstance := ← ask source .createInstance
    createXlibSurface := ← ask source .createXlibSurface
    destroyInstance := ← ask source .destroyInstance
    destroySurface := ← ask source .destroySurface
    getDeviceProcAddr := ← ask source .getDeviceProcAddr
    getInstanceProcAddr := ← ask source .getInstanceProcAddr
    xlibPresentationSupport := ← ask source .xlibPresentationSupport }

/-- The table, or the first missing symbol; and the symbols asked for, in order. -/
def resolve (source : SymbolSource) : Except DriverError EntryTable × List RequiredSymbol :=
  let (found, asked) := ((lookup source).run.run []).run
  (found.mapError fun symbol => .missingSymbol symbol.name, asked)

end EntryTable
end SurfaceBridge
