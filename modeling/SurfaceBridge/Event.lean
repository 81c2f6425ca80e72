import SurfaceBridge.Code.Result
import SurfaceBridge.Instance

/-! The native driver and the window system as the driver meets them: the calls they receive, as a trace, and
their answers, as values. -/
namespace SurfaceBridge

abbrev InstanceHandle := UInt64
abbrev NativeSurface := UInt64
abbrev SurfaceHandle := UInt64
abbrev Window := UInt64
abbrev HostWindow := UInt64

/-- A call that left the driver, with the answer where later steps depend on it. -/
inductive Event where
  | createInstance (info : InstanceInfo) (allocator : Allocator) (code : ResultCode)
      (written : Option InstanceHandle)
  | destroyInstance (handle : InstanceHandle) (allocator : Allocator)
  | createXlibSurface (owner : InstanceHandle) (info : XlibSurfaceInfo) (allocator : Allocator)
      (code : ResultCode) (written : Option NativeSurface)
  | destroySurface (owner : InstanceHandle) (surface : NativeSurface) (allocator : Allocator)
  | getDeviceProcAddr (device : UInt64) (name : Label)
  | getInstanceProcAddr (handle : UInt64) (name : Label)
  | presentationSupport (device : UInt64) (queueFamily : UInt32) (display : UInt64) (visual : UInt32)
  | parentIsDesktop (window : HostWindow)
  | createChildWindow (parent : HostWindow) (visual : UInt32) (window : Option Window)
  | destroyWindow (window : Window)
  deriving DecidableEq

/-- What the native driver and the window system answer during one call of the driver, if they are asked. -/
structure Answers where
  /-- The result of a native creation. -/
  code : ResultCode := .success
  /-- The handle that a native creation writes; a failing one may write, too. -/
  written : Option UInt64 := none
  desktop : Bool := true
  window : Option Window := none
  address : Option UInt64 := none
  supported : UInt32 := 0

namespace Answers

/-- What the handle's place holds afterwards: it was null before. -/
def handle (answers : Answers) : UInt64 := answers.written.getD 0

end Answers

/-- The parts of the host's window system that never change. -/
structure WindowSystem where
  display : UInt64
  visual : UInt32
  /-- Which window functions are asked, by their address. -/
  functions : UInt64 := 0
  deriving DecidableEq

end SurfaceBridge
