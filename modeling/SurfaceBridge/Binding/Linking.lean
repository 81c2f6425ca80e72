import SurfaceBridge.Binding.Image.Dynamic
import SurfaceBridge.Binding.Library

/-! Linking: a library is loaded with all that it needs, and shows the symbols of all of it. -/
namespace SurfaceBridge

/-- A library by itself: what it exports, the name that it gives itself, and the names of the libraries that
it needs. -/
structure LibraryPart where
  symbols : SymbolSource
  ownName : Option String := none
  needed : List String := []

namespace LibraryPart

/-- The library in an image, or why the loader refuses it. -/
def ofImage? (image : Image) : Except LoadRefusal LibraryPart :=
  match image.fault? with
  | some refusal => .error refusal
  | none =>
    let dynamic := image.dynamic
    .ok {
      symbols := fun symbol => dynamic.exported? symbol.name
      ownName := dynamic.ownName?
      needed := dynamic.needed }

/-- How many names are followed at most. -/
def nameLimit : Nat := 4096

/-- Loads the names that are pending and then what they need, in the order of naming. A name under which a part
was loaded, or that a part gives itself, is not loaded again. -/
private def gather {m : Type → Type} [Monad m] (load : String → m (Except String LibraryPart)) :
    Nat → List String → List String → ExceptT String m (List LibraryPart)
  | 0, _, _ => return []
  | _, _, [] => return []
  | count + 1, seen, name :: rest =>
    if name ∈ seen then gather load count seen rest
    else do
      let part ← ExceptT.mk (load name)
      return part :: (← gather load count (name :: part.ownName.toList ++ seen) (rest ++ part.needed))

/-- The library of a name, with all that it needs. A symbol is that of the first part that exports it. -/
def link {m : Type → Type} [Monad m] (load : String → m (Except String LibraryPart)) (name : String) :
    m (Except String Library) :=
  ExceptT.run do
    let parts ← gather load nameLimit [] [name]
    return { symbols := fun symbol => parts.findSome? (·.symbols symbol) }

end LibraryPart
end SurfaceBridge
