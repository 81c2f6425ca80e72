import SurfaceBridge.Extension
import SurfaceBridge.Instance
import SurfaceBridge.Notice

/-! Instance descriptors as the native driver receives them: no chain, no layers, and every extension under its
native name. -/
namespace SurfaceBridge

structure Translation where
  type : StructureType
  flags : UInt32
  application : Option Application
  names : List Label
  /-- The chained structures that were left out, in chain order. -/
  dropped : List StructureType
  /-- How many names were replaced. -/
  substitutions : Nat
  deriving DecidableEq

namespace Translation

def ofInfo (info : InstanceInfo) : Translation where
  type := info.type
  flags := info.flags
  application := info.application
  names := info.extensionNames.map Extension.nativeName
  dropped := info.chain
  substitutions := info.extensionNames.countP fun name => Extension.nativeName name ≠ name

/-- One warning for each structure that is left out, in chain order. -/
def notices (translation : Translation) : List Notice := translation.dropped.map .chainDropped

/-- The descriptor that the native driver receives. -/
def native (translation : Translation) : InstanceInfo where
  type := translation.type
  flags := translation.flags
  application := translation.application
  chain := []
  layers := none
  extensions := if translation.names.isEmpty then none else some translation.names

end Translation
end SurfaceBridge
