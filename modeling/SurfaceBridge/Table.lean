import SurfaceBridge.Driver.Call

/-! The entry point table as its callers use it: any pointer may be null, and answers go to the caller's
places. A call that lacks what the driver needs never reaches the driver. -/
namespace SurfaceBridge

/-- An array of the caller with a place for its length; either may be null. -/
structure ArrayPlace (α : Type) where
  count : Option UInt32
  items : Option (List α)
  deriving DecidableEq

/-- The part of the array that may be written, if array and length are both there. -/
def ArrayPlace.room {α : Type} (place : ArrayPlace α) : Option (List α) := do
  let count ← place.count
  let items ← place.items
  return items.take count.toNat

/-- The length of that part. -/
def ArrayPlace.capacity {α : Type} (place : ArrayPlace α) : Option Nat := place.room.map (·.length)

/-- A call through the table. What is `none` is a null pointer; `out` says whether there is a place for the
answer. -/
inductive TableCall where
  | acquireNextImage (device swapchain timeout semaphore fence : UInt64) (out : Bool)
  | createInstance (info : Option InstanceInfo) (allocator : Allocator) (out : Bool)
  | createSwapchain (device : UInt64) (info : Bool) (allocator : Allocator) (out : Bool)
  | createWin32Surface (owner : InstanceHandle) (parent : Option HostWindow) (allocator : Allocator)
      (out : Bool)
  | destroyInstance (handle : InstanceHandle) (allocator : Allocator)
  | destroySurface (owner : InstanceHandle) (handle : SurfaceHandle) (allocator : Allocator)
  | destroySwapchain (device swapchain : UInt64) (allocator : Allocator)
  | enumerateExtensions (layer : Option Label) (place : ArrayPlace ExtensionProperties)
  | getDeviceProcAddr (device : UInt64) (name : Option Label)
  | getInstanceProcAddr (handle : InstanceHandle) (name : Option Label)
  | surfaceCapabilities (device surface : UInt64) (out : Bool)
  | surfaceFormats (device surface : UInt64) (place : ArrayPlace UInt64)
  | surfacePresentModes (device surface : UInt64) (place : ArrayPlace UInt64)
  | surfaceSupport (device : UInt64) (queueFamily : UInt32) (surface : UInt64) (out : Bool)
  | presentationSupport (device : UInt64) (queueFamily : UInt32)
  | swapchainImages (device swapchain : UInt64) (place : ArrayPlace UInt64)
  | queuePresent (queue : UInt64) (info : Bool)

/-- What a caller finds when a call has returned. -/
inductive TableReply where
  /-- A result code, and what was written to the place for the answer. -/
  | result (code : ResultCode) (written : Option UInt64)
  /-- A result code, and the array of records. -/
  | records (code : ResultCode) (place : ArrayPlace ExtensionProperties)
  /-- A result code, and an array of words. -/
  | words (code : ResultCode) (place : ArrayPlace UInt64)
  | address (found : Option UInt64)
  /-- A truth value as a word. -/
  | truth (word : UInt32)
  | nothing
  deriving DecidableEq

namespace TableCall

/-- The call that reaches the driver, unless a null pointer keeps it away. -/
def call? : TableCall → Option Call
  | acquireNextImage device swapchain timeout semaphore fence _ =>
    some (.acquireNextImage device swapchain timeout semaphore fence)
  | createInstance info allocator out => do
    let info ← info
    if out then some (.createInstance info allocator) else none
  | createSwapchain device info allocator _ => if info then some (.createSwapchain device allocator) else none
  | createWin32Surface owner parent allocator out => do
    let parent ← parent
    if out then some (.createWin32Surface owner parent allocator) else none
  | destroyInstance handle allocator => some (.destroyInstance handle allocator)
  | destroySurface owner handle allocator => some (.destroySurface owner handle allocator)
  | destroySwapchain device swapchain allocator => some (.destroySwapchain device swapchain allocator)
  | enumerateExtensions layer place => some (.enumerateExtensions layer place.room)
  | getDeviceProcAddr device name => name.map (.getDeviceProcAddr device)
  | getInstanceProcAddr handle name => name.map (.getInstanceProcAddr handle)
  | surfaceCapabilities device surface _ => some (.surfaceCapabilities device surface)
  | surfaceFormats device surface place => some (.surfaceFormats device surface place.capacity)
  | surfacePresentModes device surface place => some (.surfacePresentModes device surface place.capacity)
  | surfaceSupport device queueFamily surface _ => some (.surfaceSupport device queueFamily surface)
  | presentationSupport device queueFamily => some (.presentationSupport device queueFamily)
  | swapchainImages device swapchain place => some (.swapchainImages device swapchain place.capacity)
  | queuePresent queue info => if info then some (.queuePresent queue) else none

/-- The answer to a call that a null pointer keeps away. What is not implemented says so all the same. -/
def refusal : TableCall → TableReply
  | createSwapchain .. => .result (DriverError.notImplemented .createSwapchain).code none
  | queuePresent .. => .result (DriverError.notImplemented .queuePresent).code none
  | getDeviceProcAddr .. | getInstanceProcAddr .. => .address none
  | _ => .result .initializationFailed none

private def failure (call : TableCall) (e : DriverError) : TableReply :=
  match call with
  | enumerateExtensions _ place => .records e.code place
  | surfaceFormats _ _ place | surfacePresentModes _ _ place | swapchainImages _ _ place =>
    .words e.code place
  | destroyInstance .. | destroySurface .. | destroySwapchain .. => .nothing
  | _ => .result e.code none

/-- The records' array after an answer. The array was written already when the answer lacks a place for the
length. -/
private def enumerated (place : ArrayPlace ExtensionProperties) (answer : Enumeration)
    (written : Option (List ExtensionProperties)) : TableReply :=
  let front := written.getD []
  let items := place.items.map fun items => front ++ items.drop front.length
  match place.count with
  | none => .records .initializationFailed { place with items }
  | some _ => .records answer.code { count := some answer.count, items }

/-- What a caller finds when the driver has answered. -/
def reply (call : TableCall) : Except DriverError Reply → TableReply
  | .error e => call.failure e
  | .ok (.handle word) => .result .success (some word)
  | .ok .done => .nothing
  | .ok (.enumeration answer written) =>
    match call with
    | enumerateExtensions _ place => enumerated place answer written
    | _ => .nothing
  | .ok (.address found) => .address found
  | .ok (.supported yes) => .truth (if yes then 1 else 0)

end TableCall

namespace Driver

/-- One call through the table. -/
def serve (driver : Driver) (call : TableCall) (answers : Answers) : Step TableReply :=
  match call.call? with
  | none => { driver := driver, result := call.refusal }
  | some behind => (driver.step behind answers).map call.reply

end Driver
end SurfaceBridge
