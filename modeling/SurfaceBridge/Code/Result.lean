/-! Result codes of the graphics interface. -/
namespace SurfaceBridge

/-- A signed result code; zero is success, and any other value may come from a native driver. -/
structure ResultCode where
  value : Int32
  deriving DecidableEq

namespace ResultCode

def success : ResultCode := ⟨0⟩
def incomplete : ResultCode := ⟨5⟩
def outOfHostMemory : ResultCode := ⟨-1⟩
def initializationFailed : ResultCode := ⟨-3⟩
def layerNotPresent : ResultCode := ⟨-6⟩
def incompatibleDriver : ResultCode := ⟨-9⟩

/-- The codes that have a name. -/
def names : List (ResultCode × String) := [
  (⟨0⟩, "SUCCESS"),
  (⟨1⟩, "NOT_READY"),
  (⟨2⟩, "TIMEOUT"),
  (⟨3⟩, "EVENT_SET"),
  (⟨4⟩, "EVENT_RESET"),
  (⟨5⟩, "INCOMPLETE"),
  (⟨-1⟩, "ERROR_OUT_OF_HOST_MEMORY"),
  (⟨-2⟩, "ERROR_OUT_OF_DEVICE_MEMORY"),
  (⟨-3⟩, "ERROR_INITIALIZATION_FAILED"),
  (⟨-4⟩, "ERROR_DEVICE_LOST"),
  (⟨-5⟩, "ERROR_MEMORY_MAP_FAILED"),
  (⟨-6⟩, "ERROR_LAYER_NOT_PRESENT"),
  (⟨-7⟩, "ERROR_EXTENSION_NOT_PRESENT"),
  (⟨-8⟩, "ERROR_FEATURE_NOT_PRESENT"),
  (⟨-9⟩, "ERROR_INCOMPATIBLE_DRIVER"),
  (⟨-10⟩, "ERROR_TOO_MANY_OBJECTS"),
  (⟨-11⟩, "ERROR_FORMAT_NOT_SUPPORTED"),
  (⟨-12⟩, "ERROR_FRAGMENTED_POOL"),
  (⟨-13⟩, "ERROR_UNKNOWN"),
  (⟨-1000000000⟩, "ERROR_SURFACE_LOST_KHR"),
  (⟨-1000000001⟩, "ERROR_NATIVE_WINDOW_IN_USE_KHR"),
  (⟨1000001003⟩, "SUBOPTIMAL_KHR"),
  (⟨-1000001004⟩, "ERROR_OUT_OF_DATE_KHR"),
  (⟨-1000003001⟩, "ERROR_INCOMPATIBLE_DISPLAY_KHR"),
  (⟨-1000011001⟩, "ERROR_VALIDATION_FAILED_EXT"),
  (⟨-1000012000⟩, "ERROR_INVALID_SHADER_NV"),
  (⟨-1000023000⟩, "ERROR_IMAGE_USAGE_NOT_SUPPORTED_KHR"),
  (⟨-1000069000⟩, "ERROR_OUT_OF_POOL_MEMORY"),
  (⟨-1000072003⟩, "ERROR_INVALID_EXTERNAL_HANDLE"),
  (⟨-1000158000⟩, "ERROR_INVALID_DRM_FORMAT_MODIFIER_PLANE_LAYOUT_EXT"),
  (⟨-1000161000⟩, "ERROR_FRAGMENTATION"),
  (⟨-1000174001⟩, "ERROR_NOT_PERMITTED_KHR"),
  (⟨-1000255000⟩, "ERROR_FULL_SCREEN_EXCLUSIVE_MODE_LOST_EXT"),
  (⟨-1000257000⟩, "ERROR_INVALID_OPAQUE_CAPTURE_ADDRESS"),
  (⟨1000268000⟩, "THREAD_IDLE_KHR"),
  (⟨1000268001⟩, "THREAD_DONE_KHR"),
  (⟨1000268002⟩, "OPERATION_DEFERRED_KHR"),
  (⟨1000268003⟩, "OPERATION_NOT_DEFERRED_KHR"),
  (⟨1000297000⟩, "PIPELINE_COMPILE_REQUIRED"),
  (⟨-1000338000⟩, "ERROR_COMPRESSION_EXHAUSTED_EXT"),
  (⟨-1000299000⟩, "ERROR_INVALID_VIDEO_STD_PARAMETERS_KHR"),
  (⟨1000482000⟩, "INCOMPATIBLE_SHADER_BINARY_EXT")]

/-- The code's name, or its decimal number if it has none. -/
def text (code : ResultCode) : String :=
  match names.find? (·.1 = code) with
  | some (_, name) => name
  | none => toString code.value.toInt

end ResultCode
end SurfaceBridge
