import SurfaceBridge.Driver.Basic
import SurfaceBridge.ExtensionList

/-! The driver as one machine: a call of any entry point, its answer, and runs of calls. -/
namespace SurfaceBridge

/-- A call of an entry point with its arguments. -/
inductive Call where
  | acquireNextImage (device swapchain timeout semaphore fence : UInt64)
  | createInstance (info : InstanceInfo) (allocator : Allocator)
  | createSwapchain (device : UInt64) (allocator : Allocator)
  | createWin32Surface (owner : InstanceHandle) (parent : HostWindow) (allocator : Allocator)
  | destroyInstance (handle : InstanceHandle) (allocator : Allocator)
  | destroySurface (owner : InstanceHandle) (handle : SurfaceHandle) (allocator : Allocator)
  | destroySwapchain (device swapchain : UInt64) (allocator : Allocator)
  | enumerateExtensions (layer : Option Label) (buffer : Option (List ExtensionProperties))
  | getDeviceProcAddr (device : UInt64) (name : Label)
  | getInstanceProcAddr (handle : InstanceHandle) (name : Label)
  | surfaceCapabilities (device surface : UInt64)
  | surfaceFormats (device surface : UInt64) (room : Option Nat)
  | surfacePresentModes (device surface : UInt64) (room : Option Nat)
  | surfaceSupport (device : UInt64) (queueFamily : UInt32) (surface : UInt64)
  | presentationSupport (device : UInt64) (queueFamily : UInt32)
  | swapchainImages (device swapchain : UInt64) (room : Option Nat)
  | queuePresent (queue : UInt64)

namespace Call

def entryPoint : Call → EntryPoint
  | acquireNextImage .. => .acquireNextImage
  | createInstance .. => .createInstance
  | createSwapchain .. => .createSwapchain
  | createWin32Surface .. => .createWin32Surface
  | destroyInstance .. => .destroyInstance
  | destroySurface .. => .destroySurface
  | destroySwapchain .. => .destroySwapchain
  | enumerateExtensions .. => .enumerateInstanceExtensionProperties
  | getDeviceProcAddr .. => .getDeviceProcAddr
  | getInstanceProcAddr .. => .getInstanceProcAddr
  | surfaceCapabilities .. => .getPhysicalDeviceSurfaceCapabilities
  | surfaceFormats .. => .getPhysicalDeviceSurfaceFormats
  | surfacePresentModes .. => .getPhysicalDeviceSurfacePresentModes
  | surfaceSupport .. => .getPhysicalDeviceSurfaceSupport
  | presentationSupport .. => .getPhysicalDeviceWin32PresentationSupport
  | swapchainImages .. => .getSwapchainImages
  | queuePresent .. => .queuePresent

end Call

/-- What a successful call hands back. -/
inductive Reply where
  | handle (word : UInt64)
  | done
  | enumeration (answer : Enumeration) (buffer : Option (List ExtensionProperties))
  | address (found : Option UInt64)
  | supported (yes : Bool)
  deriving DecidableEq

namespace Driver

/-- An entry point that is not implemented reports how it was called and fails. -/
def stub {α : Type} (driver : Driver) (op : EntryPoint) (arguments : List Argument) :
    Step (Except DriverError α) :=
  { driver := driver, result := .error (.notImplemented op), log := [.stub op arguments] }

def enumerateExtensions (driver : Driver) (layer : Option Label)
    (buffer : Option (List ExtensionProperties)) :
    Step (Except DriverError Enumeration × Option (List ExtensionProperties)) :=
  let (answer, buffer', notices) := Extension.enumerate layer buffer
  { driver := driver
    result := (answer, buffer')
    log := .enumerateCalled layer (buffer.map (·.length)) :: notices }

/-- One call of the driver, with the answers that the outside world has for it. -/
def step (driver : Driver) (call : Call) (answers : Answers) : Step (Except DriverError Reply) :=
  match call with
  | .createInstance info allocator =>
    (driver.createInstance info allocator answers).map (·.map .handle)
  | .createWin32Surface owner parent allocator =>
    (driver.createWin32Surface owner parent allocator answers).map (·.map .handle)
  | .destroyInstance handle allocator =>
    (driver.destroyInstance handle allocator).map (·.map fun _ => .done)
  | .destroySurface owner handle allocator =>
    (driver.destroySurface owner handle allocator).map (·.map fun _ => .done)
  | .enumerateExtensions layer buffer =>
    (driver.enumerateExtensions layer buffer).map fun (answer, buffer) =>
      answer.map fun answer => .enumeration answer buffer
  | .getDeviceProcAddr device name =>
    (driver.getDeviceProcAddr device name answers).map fun found => .ok (.address found)
  | .getInstanceProcAddr handle name =>
    (driver.getInstanceProcAddr handle name answers).map fun found => .ok (.address found)
  | .presentationSupport device queueFamily =>
    (driver.presentationSupport device queueFamily answers).map fun yes => .ok (.supported yes)
  | .acquireNextImage device swapchain timeout semaphore fence =>
    driver.stub call.entryPoint
      [.handle device, .handle swapchain, .handle timeout, .handle semaphore, .handle fence]
  | .createSwapchain device allocator =>
    driver.stub call.entryPoint [.handle device, .address, .flag allocator.isPresent]
  | .destroySwapchain device swapchain allocator =>
    driver.stub call.entryPoint [.handle device, .handle swapchain, .flag allocator.isPresent]
  | .surfaceCapabilities device surface =>
    driver.stub call.entryPoint [.handle device, .handle surface]
  | .surfaceFormats device surface room | .surfacePresentModes device surface room
  | .swapchainImages device surface room =>
    driver.stub call.entryPoint [.handle device, .handle surface, .capacity room]
  | .surfaceSupport device queueFamily surface =>
    driver.stub call.entryPoint [.handle device, .number queueFamily, .handle surface]
  | .queuePresent queue => driver.stub call.entryPoint [.handle queue, .address]

/-- The outcomes of a run of calls, each with the answers that it meets. -/
def run (driver : Driver) : List (Call × Answers) → List (Step (Except DriverError Reply))
  | [] => []
  | (call, answers) :: rest =>
    let step := driver.step call answers
    step :: step.driver.run rest

/-- The driver after a run. -/
def after (driver : Driver) (calls : List (Call × Answers)) : Driver :=
  calls.foldl (fun driver call => (driver.step call.1 call.2).driver) driver

/-- The events of a run, in order. -/
def trace (driver : Driver) (calls : List (Call × Answers)) : List Event :=
  (driver.run calls).flatMap (·.events)

end Driver
end SurfaceBridge
