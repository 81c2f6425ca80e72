import SurfaceBridge.Config.File
import SurfaceBridge.Report.Check

/-! Verification of a system: its configuration, a native library, the library's symbols, and the binding
table as a whole. -/
namespace SurfaceBridge.Verification

open Report

/-- The configuration's check, and the configuration to go on with. -/
def configuration (env : Environment) (path : String) : Check × Config :=
  let name := "Configuration"
  if env.pathExists path then
    match Config.load env path with
    | .ok config =>
      ({ name, status := .pass, message := "Loaded " ++ path
         details := [
          "Library candidates: " ++ ", ".intercalate config.libraryCandidates,
          "Log filter: " ++ config.logFilter] }, config)
    | .error e =>
      ({ name, status := .fail, message := e.driverError.message
         details := ["Falling back to default configuration"] }, {})
  else
    ({ name, status := .warn, message := "Config file not found: " ++ path
       details := ["Using default configuration"] }, {})

/-- The native library's check. -/
def library (search : LibrarySearch) : Check :=
  let name := "Native library"
  let failures := search.failures.map LoadFailure.text
  match search.found with
  | some (file, _) => { name, status := .pass, message := "Loaded " ++ file, details := failures }
  | none =>
    if failures.isEmpty then { name, status := .fail, message := "No library candidates configured" }
    else
      { name, status := .fail, message := "No candidate could be loaded"
        details := failures ++ ["Install the Vulkan loader (libvulkan1 / vulkan-loader)"] }

def symbol (source : SymbolSource) (symbol : RequiredSymbol) : Check :=
  match EntryTable.address? source symbol with
  | some _ => { name := symbol.name, status := .pass, message := "resolved" }
  | none => { name := symbol.name, status := .fail, message := "not exported by the native library" }

def bindingTable (source : SymbolSource) : Check :=
  let name := "Binding table"
  match (EntryTable.resolve source).1 with
  | .ok _ => { name, status := .pass, message := "All entry points resolved, the driver can be handed out" }
  | .error e =>
    { name, status := .fail, message := e.message
      details := ["get_vulkan_driver will return null on this system"] }

/-- The checks that need a library. -/
def entryPoints : Option Library → List Check
  | some library => RequiredSymbol.all.map (symbol library.symbols) ++ [bindingTable library.symbols]
  | none =>
    [{ name := "Entry points", status := .skip
       message := "No native library loaded, cannot resolve symbols" }]

/-- The candidates: those that are asked for, else the configured ones. -/
def candidates (config : Config) (asked : List String) : List String :=
  if asked.isEmpty then config.libraryCandidates else asked

/-- All checks, in order. Without a path the configuration is looked for where the driver does. -/
def checks (env : Environment) (path : Option String) (asked : List String) : List Check :=
  let (settled, config) := configuration env (path.getD (Config.path env))
  let search := LibrarySearch.run env.openLibrary (candidates config asked)
  [settled, library search] ++ entryPoints (search.found.map (·.2))

end SurfaceBridge.Verification
