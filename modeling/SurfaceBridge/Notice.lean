import SurfaceBridge.Code.Structure
import SurfaceBridge.Enumeration
import SurfaceBridge.Error
import SurfaceBridge.Label

/-! What the driver reports about its work: notices with a level each, and the line that each one becomes. -/
namespace SurfaceBridge

inductive Level where
  | trace
  | debug
  | info
  | warn
  | error
  deriving DecidableEq

namespace Level

def text : Level → String
  | trace => "TRACE"
  | debug => "DEBUG"
  | info => "INFO"
  | warn => "WARN"
  | error => "ERROR"

def severity : Level → Nat
  | trace => 0
  | debug => 1
  | info => 2
  | warn => 3
  | error => 4

end Level

/-- An argument of an entry point that only reports how it was called. -/
inductive Argument where
  | handle (word : UInt64)
  | number (value : UInt32)
  | flag (value : Bool)
  /-- The room in a buffer, if one was given. -/
  | capacity (room : Option Nat)
  /-- A structure of the caller; its address is not shown. -/
  | address
  deriving DecidableEq

/-- A room that may be missing. -/
def capacityText : Option Nat → String
  | some n => s!"Some({n})"
  | none => "None"

def Argument.text : Argument → String
  | handle word => Text.hex word
  | number value => toString value
  | flag value => toString value
  | capacity room => capacityText room
  | address => "PTR"

inductive Notice where
  | allocatorIgnored
  | chainDropped (type : StructureType)
  | createInstanceCalled (allocator : Bool)
  | creatingInstance (extensions substituted dropped : Nat)
  | createdInstance (handle : UInt64)
  | createSurfaceCalled (handle : UInt64) (allocator : Bool)
  | destroyInstanceCalled (handle : UInt64) (allocator : Bool)
  | destroySurfaceCalled (handle surface : UInt64) (allocator : Bool)
  | rejected (error : DriverError)
  | childWindowRejected
  | windowFailed (parent : UInt64)
  | nativeSurfaceFailed (code : ResultCode)
  | createdSurface (surface window : UInt64)
  | destroyingWindow (window : UInt64)
  | unknownInstance (handle : UInt64)
  | surfacesLeft (handle : UInt64) (count : Nat)
  | foreignSurface (surface handle : UInt64)
  | stub (op : EntryPoint) (arguments : List Argument)
  | enumerateCalled (layer : Option Label) (room : Option Nat)
  | layerRejected (layer : Label)
  | enumerated (result : Enumeration) (copied : Nat)
  | addressCalled (handle : UInt64) (name : Label)
  | presentationCalled (device : UInt64) (queueFamily : UInt32)
  | libraryLoaded (name : String)
  | libraryFailed (name reason : String)
  | bindingsResolved
  | bindingsUnavailable (error : DriverError)
  | defaultConfiguration (error : DriverError)
  | windowSystemKept
  | windowSystemMissing
  | otherDriverInstalled
  deriving DecidableEq

namespace Notice

def level : Notice → Level
  | createInstanceCalled _ | creatingInstance .. | createdInstance _ | createSurfaceCalled ..
  | destroyInstanceCalled .. | destroySurfaceCalled .. | createdSurface .. | destroyingWindow _
  | enumerateCalled .. | enumerated .. | addressCalled .. | presentationCalled .. => .trace
  | libraryFailed .. | defaultConfiguration _ => .debug
  | libraryLoaded _ | bindingsResolved => .info
  | allocatorIgnored | chainDropped _ | surfacesLeft .. | stub .. | windowSystemKept => .warn
  | rejected _ | childWindowRejected | windowFailed _ | nativeSurfaceFailed _ | unknownInstance _
  | foreignSurface .. | layerRejected _ | bindingsUnavailable _ | windowSystemMissing
  | otherDriverInstalled => .error

private def labelText : Option Label → String
  | some label => "Some(" ++ label.quoted ++ ")"
  | none => "None"

open Text in
def text : Notice → String
  | allocatorIgnored => "support for allocation callbacks not implemented yet"
  | chainDropped type =>
    "application requested a linked structure of type " ++ type.text ++ ", dropping it"
  | createInstanceCalled allocator => s!"create_info PTR, allocator {allocator}"
  | creatingInstance extensions substituted dropped =>
    s!"creating native instance extensions={extensions} substituted={substituted} dropped_chain={dropped}"
  | createdInstance handle => "created instance " ++ hex handle
  | createSurfaceCalled handle allocator => hex handle ++ s!" PTR {allocator}"
  | destroyInstanceCalled handle allocator => hex handle ++ s!" {allocator}"
  | destroySurfaceCalled handle surface allocator =>
    hex handle ++ " " ++ hex surface ++ s!" {allocator}"
  | rejected error => error.message
  | childWindowRejected => "application requires child window rendering, which is not supported"
  | windowFailed parent => s!"failed to create native window for {parent.toInt64.toInt}"
  | nativeSurfaceFailed code => "native surface creation failed: " ++ code.text
  | createdSurface surface window =>
    "created surface " ++ hex surface ++ " on window " ++ hex window
  | destroyingWindow window => "destroying native window " ++ hex window
  | unknownInstance handle => "destroying unknown instance " ++ hex handle
  | surfacesLeft handle count => "instance " ++ hex handle ++ s!" destroyed with {count} live surfaces"
  | foreignSurface surface handle =>
    "surface " ++ hex surface ++ " does not belong to instance " ++ hex handle
  | stub op arguments =>
    "stub: " ++ op.command ++ " " ++ ", ".intercalate (arguments.map Argument.text)
  | enumerateCalled layer room => "layer_name " ++ labelText layer ++ ", properties " ++ capacityText room
  | layerRejected layer => "layer enumeration not supported from a driver: " ++ layer.quoted
  | enumerated result copied => "result " ++ result.text ++ s!", extensions copied {copied}"
  | addressCalled handle name => hex handle ++ ", " ++ name.quoted
  | presentationCalled device queueFamily => hex device ++ s!" {queueFamily}"
  | libraryLoaded name => "loaded native Vulkan library from: " ++ name
  | libraryFailed name reason => "failed to load " ++ name ++ ": " ++ reason
  | bindingsResolved => "native Vulkan bindings resolved"
  | bindingsUnavailable error => "native Vulkan bindings unavailable: " ++ error.message
  | defaultConfiguration error => "using default configuration: " ++ error.message
  | windowSystemKept => "host window ops already registered, ignoring"
  | windowSystemMissing => "host window ops not registered"
  | otherDriverInstalled => "a different driver is already installed"

/-- The line in a log. -/
def line (notice : Notice) : String := notice.level.text ++ " " ++ notice.text

/-- The lines of the notices that are at least as severe as the level. -/
def lines (least : Level) (notices : List Notice) : List String :=
  (notices.filter fun notice => least.severity ≤ notice.level.severity).map line

end Notice
end SurfaceBridge
