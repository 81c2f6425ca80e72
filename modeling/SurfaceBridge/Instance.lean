import SurfaceBridge.Code.Structure
import SurfaceBridge.Label

/-! Descriptors of instances and of native surfaces, as they cross the binary interface. -/
namespace SurfaceBridge

/-- Whether a call brings allocation callbacks. -/
inductive Allocator where
  | absent
  | callbacks
  deriving DecidableEq

namespace Allocator

def isPresent : Allocator → Bool
  | absent => false
  | callbacks => true

end Allocator

structure Application where
  name : Option Label
  api : UInt32
  deriving DecidableEq

/-- What an instance is created from. Lists that are `none` are null pointers. -/
structure InstanceInfo where
  type : StructureType := .instanceCreateInfo
  flags : UInt32 := 0
  application : Option Application := none
  /-- The types of the chained structures, in chain order. -/
  chain : List StructureType := []
  layers : Option (List Label) := none
  extensions : Option (List Label) := none
  deriving DecidableEq

namespace InstanceInfo

/-- The extension names; a null list has none. -/
def extensionNames (info : InstanceInfo) : List Label := info.extensions.getD []

def layerNames (info : InstanceInfo) : List Label := info.layers.getD []

end InstanceInfo

/-- What a native surface is created from. -/
structure XlibSurfaceInfo where
  type : StructureType := .xlibSurfaceCreateInfo
  chain : List StructureType := []
  flags : UInt32 := 0
  display : UInt64
  window : UInt64
  deriving DecidableEq

end SurfaceBridge
