import SurfaceBridge.Code.Result
import SurfaceBridge.EntryPoint
import SurfaceBridge.Text.Hex

/-! What can go wrong between the host and the native driver: causes, their texts, and the codes they
have across the binary interface. -/
namespace SurfaceBridge

/-- Which of the host's handles was refused. -/
inductive HandleKind where
  | ofInstance
  | ofSurface
  deriving DecidableEq

def HandleKind.text : HandleKind → String
  | .ofInstance => "instance"
  | .ofSurface => "surface"

inductive DriverError where
  | outOfHostMemory
  | incompatibleDriver
  | layerNotPresent
  | invalidHandle (kind : HandleKind) (raw : UInt64)
  | notImplemented (op : EntryPoint)
  | native (code : ResultCode)
  | libraryUnavailable (reason : String)
  | missingSymbol (name : String)
  | versionMismatch (expected actual : UInt32)
  | config (reason : String)
  deriving DecidableEq

namespace DriverError

def message : DriverError → String
  | outOfHostMemory => "out of host memory"
  | incompatibleDriver => "incompatible driver: child window presentation is not supported"
  | layerNotPresent => "layer-scoped enumeration is not supported by a driver"
  | invalidHandle kind raw => "invalid " ++ kind.text ++ " handle: " ++ Text.hex raw
  | notImplemented op => "not implemented: " ++ op.command
  | native code => "native driver returned " ++ code.text
  | libraryUnavailable reason => "native library unavailable: " ++ reason
  | missingSymbol name => "native symbol missing: " ++ name
  | versionMismatch expected actual =>
    s!"version mismatch: host wants {actual} but driver has {expected}"
  | config reason => "configuration error: " ++ reason

/-- The code reported across the binary interface. An entry point that is not implemented reports the
same code as an exhausted host. -/
def code : DriverError → ResultCode
  | outOfHostMemory | notImplemented _ => .outOfHostMemory
  | incompatibleDriver => .incompatibleDriver
  | layerNotPresent => .layerNotPresent
  | native code => code
  | invalidHandle .. | libraryUnavailable _ | missingSymbol _ | versionMismatch .. | config _ =>
    .initializationFailed

end DriverError
end SurfaceBridge
