import SurfaceBridge.Event
import SurfaceBridge.Handle.Arena
import SurfaceBridge.Notice

/-! Live surfaces. A surface owns its window, so a surface that leaves the store takes its window with it. -/
namespace SurfaceBridge

structure Surface where
  owner : InstanceHandle
  window : Window
  /-- Null until the native driver has created the surface. -/
  native : NativeSurface
  deriving DecidableEq

namespace Surface

/-- The surface's fields in one line. -/
def text (surface : Surface) : String :=
  "Surface \x7b instance: " ++ Text.hex surface.owner ++ s!", window: ChildWindow({surface.window}), native: "
    ++ Text.hex surface.native ++ " \x7d"

end Surface

abbrev SurfaceStore := Handle.Arena Surface

namespace SurfaceStore

/-- Takes the surface behind a handle out of the store, if it is live and belongs to the instance. -/
def take (store : SurfaceStore) (owner : InstanceHandle) (handle : SurfaceHandle) :
    Except DriverError (Surface × SurfaceStore) × List Notice :=
  let invalid := DriverError.invalidHandle .ofSurface handle
  match store.get? handle with
  | none => (.error invalid, [])
  | some surface =>
    if surface.owner = owner then
      match store.remove? handle with
      | some taken => (.ok taken, [])
      | none => (.error invalid, [])
    else (.error invalid, [.foreignSurface handle owner])

/-- Takes all surfaces of an instance out of the store, in slot order. -/
def drainFor (store : SurfaceStore) (owner : InstanceHandle) : List Surface × SurfaceStore :=
  store.drain fun surface => surface.owner = owner

end SurfaceStore
end SurfaceBridge
