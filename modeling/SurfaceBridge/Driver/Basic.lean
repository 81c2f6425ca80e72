import SurfaceBridge.Surface
import SurfaceBridge.Translation

/-! The driver: its live instances and surfaces, and what each of its operations does to them. The outside
world's answers are an argument of an operation, and the calls that left the driver are part of its outcome. -/
namespace SurfaceBridge

structure Driver where
  windows : WindowSystem
  instances : List InstanceHandle := []
  surfaces : SurfaceStore := {}
  deriving DecidableEq

/-- The outcome of an operation. -/
structure Step (α : Type) where
  driver : Driver
  result : α
  events : List Event := []
  log : List Notice := []

def Step.map {α β : Type} (f : α → β) (step : Step α) : Step β :=
  { step with result := f step.result }

namespace Driver

/-- Every call that brings allocation callbacks is warned that they are not used. -/
def allocatorNotices : Allocator → List Notice
  | .absent => []
  | .callbacks => [.allocatorIgnored]

/-- Fails unless the instance is live. -/
def check (driver : Driver) (handle : InstanceHandle) : Except DriverError Unit :=
  if handle ∈ driver.instances then .ok () else .error (.invalidHandle .ofInstance handle)

def createInstance (driver : Driver) (info : InstanceInfo) (allocator : Allocator) (answers : Answers) :
    Step (Except DriverError InstanceHandle) :=
  let translation := Translation.ofInfo info
  let called := Notice.createInstanceCalled allocator.isPresent :: allocatorNotices allocator ++
    translation.notices ++
    [.creatingInstance info.extensionNames.length translation.substitutions translation.dropped.length]
  let events := [.createInstance translation.native .absent answers.code answers.written]
  if answers.code = .success then
    { driver := { driver with instances := driver.instances.insert answers.handle }
      result := .ok answers.handle
      events := events
      log := called ++ [.createdInstance answers.handle] }
  else
    { driver := driver, result := .error (.native answers.code), events := events, log := called }

/-- A surface is stored before the native driver is asked for it, and taken back if the native driver fails:
the window is then destroyed with it. -/
def createWin32Surface (driver : Driver) (owner : InstanceHandle) (parent : HostWindow)
    (allocator : Allocator) (answers : Answers) : Step (Except DriverError SurfaceHandle) :=
  let called := Notice.createSurfaceCalled owner allocator.isPresent :: allocatorNotices allocator
  match driver.check owner with
  | .error e => { driver := driver, result := .error e, log := called ++ [.rejected e] }
  | .ok () =>
    let asked := [Event.parentIsDesktop parent]
    if !answers.desktop then
      { driver := driver
        result := .error .incompatibleDriver
        events := asked
        log := called ++ [.childWindowRejected] }
    else
      let asked := asked ++ [.createChildWindow parent driver.windows.visual answers.window]
      match answers.window with
      | none =>
        { driver := driver
          result := .error .outOfHostMemory
          events := asked
          log := called ++ [.windowFailed parent] }
      | some window =>
        match driver.surfaces.insert { owner, window, native := 0 } with
        | none =>
          { driver := driver
            result := .error .outOfHostMemory
            events := asked ++ [.destroyWindow window]
            log := called ++ [.destroyingWindow window] }
        | some (handle, stored) =>
          let asked := asked ++ [.createXlibSurface owner { display := driver.windows.display, window }
            .absent answers.code answers.written]
          if answers.code = .success then
            { driver :=
                { driver with
                  surfaces := stored.modify handle fun surface => { surface with native := answers.handle } }
              result := .ok handle
              events := asked
              log := called ++ [.createdSurface handle window] }
          else
            let failed := called ++ [.nativeSurfaceFailed answers.code]
            match stored.remove? handle with
            | none =>
              { driver := { driver with surfaces := stored }
                result := .error (.native answers.code)
                events := asked
                log := failed }
            | some (surface, restored) =>
              { driver := { driver with surfaces := restored }
                result := .error (.native answers.code)
                events := asked ++ [.destroyWindow surface.window]
                log := failed ++ [.destroyingWindow surface.window] }

/-- Surfaces that are still alive on the instance are destroyed before it, each with its window. -/
def destroyInstance (driver : Driver) (handle : InstanceHandle) (allocator : Allocator) :
    Step (Except DriverError Unit) :=
  let called := Notice.destroyInstanceCalled handle allocator.isPresent :: allocatorNotices allocator
  if handle = 0 then { driver := driver, result := .ok (), log := called }
  else if handle ∈ driver.instances then
    let (left, surfaces) := driver.surfaces.drainFor handle
    let warned := if left.isEmpty then [] else [Notice.surfacesLeft handle left.length]
    { driver := { driver with instances := driver.instances.erase handle, surfaces }
      result := .ok ()
      events := left.flatMap (fun surface =>
          [.destroySurface handle surface.native .absent, .destroyWindow surface.window]) ++
        [.destroyInstance handle .absent]
      log := called ++ warned ++ left.map fun surface => .destroyingWindow surface.window }
  else
    { driver := driver
      result := .error (.invalidHandle .ofInstance handle)
      log := called ++ [.unknownInstance handle] }

/-- The native surface is destroyed first, then its window. -/
def destroySurface (driver : Driver) (owner : InstanceHandle) (handle : SurfaceHandle)
    (allocator : Allocator) : Step (Except DriverError Unit) :=
  let called := Notice.destroySurfaceCalled owner handle allocator.isPresent :: allocatorNotices allocator
  match driver.check owner with
  | .error e => { driver := driver, result := .error e, log := called ++ [.rejected e] }
  | .ok () =>
    if handle = 0 then { driver := driver, result := .ok (), log := called }
    else
      match driver.surfaces.take owner handle with
      | (.error e, notices) =>
        { driver := driver, result := .error e, log := called ++ notices ++ [.rejected e] }
      | (.ok (surface, surfaces), notices) =>
        { driver := { driver with surfaces }
          result := .ok ()
          events := [.destroySurface owner surface.native .absent, .destroyWindow surface.window]
          log := called ++ notices ++ [.destroyingWindow surface.window] }

def getDeviceProcAddr (driver : Driver) (device : UInt64) (name : Label) (answers : Answers) :
    Step (Option UInt64) :=
  { driver := driver
    result := answers.address
    events := [.getDeviceProcAddr device name]
    log := [.addressCalled device name] }

def getInstanceProcAddr (driver : Driver) (handle : InstanceHandle) (name : Label) (answers : Answers) :
    Step (Option UInt64) :=
  { driver := driver
    result := answers.address
    events := [.getInstanceProcAddr handle name]
    log := [.addressCalled handle name] }

def presentationSupport (driver : Driver) (device : UInt64) (queueFamily : UInt32) (answers : Answers) :
    Step Bool :=
  { driver := driver
    result := answers.supported ≠ 0
    events := [.presentationSupport device queueFamily driver.windows.display driver.windows.visual]
    log := [.presentationCalled device queueFamily] }

/-- What happens when the driver itself goes: the windows of its live surfaces are destroyed, in slot order. -/
def drop (driver : Driver) : List Event × List Notice :=
  let windows := driver.surfaces.values.map (·.window)
  (windows.map .destroyWindow, windows.map .destroyingWindow)

/-- Takes a surface out of the driver and drops it. -/
def takeSurface (driver : Driver) (owner : InstanceHandle) (handle : SurfaceHandle) :
    Step (Except DriverError Surface) :=
  match driver.surfaces.take owner handle with
  | (.error e, notices) => { driver := driver, result := .error e, log := notices }
  | (.ok (surface, surfaces), notices) =>
    { driver := { driver with surfaces }
      result := .ok surface
      events := [.destroyWindow surface.window]
      log := notices ++ [.destroyingWindow surface.window] }

/-- Takes all surfaces of an instance out of the driver and drops them. -/
def drainSurfaces (driver : Driver) (owner : InstanceHandle) : Step (List Surface) :=
  let (left, surfaces) := driver.surfaces.drainFor owner
  { driver := { driver with surfaces }
    result := left
    events := left.map fun surface => .destroyWindow surface.window
    log := left.map fun surface => .destroyingWindow surface.window }

end Driver
end SurfaceBridge
