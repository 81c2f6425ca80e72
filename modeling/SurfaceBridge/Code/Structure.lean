/-! Types of the structures that cross the binary interface. -/
namespace SurfaceBridge

/-- The number that a structure starts with. -/
structure StructureType where
  value : Int32
  deriving DecidableEq

namespace StructureType

def instanceCreateInfo : StructureType := ⟨1⟩
def xlibSurfaceCreateInfo : StructureType := ⟨1000004000⟩

/-- The types that have a name. -/
def names : List (StructureType × String) := [
  (⟨0⟩, "APPLICATION_INFO"),
  (⟨1⟩, "INSTANCE_CREATE_INFO"),
  (⟨2⟩, "DEVICE_QUEUE_CREATE_INFO"),
  (⟨3⟩, "DEVICE_CREATE_INFO"),
  (⟨4⟩, "SUBMIT_INFO"),
  (⟨5⟩, "MEMORY_ALLOCATE_INFO"),
  (⟨45⟩, "IMAGE_MEMORY_BARRIER"),
  (⟨46⟩, "MEMORY_BARRIER"),
  (⟨47⟩, "LOADER_INSTANCE_CREATE_INFO"),
  (⟨48⟩, "LOADER_DEVICE_CREATE_INFO"),
  (⟨1000001000⟩, "SWAPCHAIN_CREATE_INFO_KHR"),
  (⟨1000001001⟩, "PRESENT_INFO_KHR"),
  (⟨1000004000⟩, "XLIB_SURFACE_CREATE_INFO_KHR"),
  (⟨1000009000⟩, "WIN32_SURFACE_CREATE_INFO_KHR"),
  (⟨1000011000⟩, "DEBUG_REPORT_CALLBACK_CREATE_INFO_EXT"),
  (⟨1000061000⟩, "VALIDATION_FLAGS_EXT"),
  (⟨1000128004⟩, "DEBUG_UTILS_MESSENGER_CREATE_INFO_EXT"),
  (⟨1000145000⟩, "PROTECTED_SUBMIT_INFO"),
  (⟨1000247000⟩, "VALIDATION_FEATURES_EXT")]

/-- The type's name, or its decimal number if it has none. -/
def text (type : StructureType) : String :=
  match names.find? (·.1 = type) with
  | some (_, name) => name
  | none => toString type.value.toInt

end StructureType
end SurfaceBridge
