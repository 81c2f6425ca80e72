import SurfaceBridge.Binding.State
import SurfaceBridge.Binding.Symbol

/-! Opening the native library: the first candidate that loads is the one whose symbols are resolved. -/
namespace SurfaceBridge

/-- A loaded library, by what it exports. -/
structure Library where
  symbols : SymbolSource

/-- What loading a name gives: a library, or the loader's reason. -/
abbrev LibraryEnv := String → Except String Library

/-- A name that does not load, with the loader's reason. -/
structure LoadFailure where
  name : String
  reason : String
  deriving DecidableEq

def LoadFailure.text (failure : LoadFailure) : String := failure.name ++ ": " ++ failure.reason

/-- A search among candidates: the first one that loads, and those before it. -/
structure LibrarySearch where
  failures : List LoadFailure
  found : Option (String × Library)

namespace LibrarySearch

/-- Candidates after the first one that loads are not tried. -/
def run (libraries : LibraryEnv) : List String → LibrarySearch
  | [] => { failures := [], found := none }
  | name :: rest =>
    match libraries name with
    | .ok library => { failures := [], found := some (name, library) }
    | .error reason =>
      let search := run libraries rest
      { search with failures := { name, reason } :: search.failures }

def notices (search : LibrarySearch) : List Notice :=
  search.failures.map (fun failure => .libraryFailed failure.name failure.reason) ++
    search.found.toList.map fun (name, _) => .libraryLoaded name

/-- The reason of a search that found nothing is that of its last candidate. -/
def library (search : LibrarySearch) : Except DriverError Library :=
  match search.found, search.failures.getLast? with
  | some (_, library), _ => .ok library
  | none, some failure => .error (.libraryUnavailable failure.text)
  | none, none => .error (.libraryUnavailable "no library candidates configured")

end LibrarySearch

/-- The binding table of the driver. -/
structure Bindings where
  table : EntryTable
  /-- Whether the table keeps a library loaded; a table made from given addresses does not. -/
  ownsLibrary : Bool
  deriving DecidableEq

namespace Bindings

/-- The table's fields in one line; the addresses are not shown. -/
def text (bindings : Bindings) : String :=
  s!"NativeBindings \x7b library: {bindings.ownsLibrary}, .. \x7d"

/-- Loads a library and resolves the table from it. -/
def openFirst (libraries : LibraryEnv) (candidates : List String) : Loading Bindings :=
  let search := LibrarySearch.run libraries candidates
  let resolved := do
    let library ← search.library
    (EntryTable.resolve library.symbols).1
  match resolved with
  | .error e => (.error e, search.notices)
  | .ok table => (.ok { table, ownsLibrary := true }, search.notices ++ [.bindingsResolved])

end Bindings
end SurfaceBridge
