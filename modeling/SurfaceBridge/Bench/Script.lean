import SurfaceBridge.Driver.Call

/-! A native driver and a window system that answer from a script. Handles and windows are numbered in the
order in which they are handed out. -/
namespace SurfaceBridge.Bench

structure Script where
  createInstance : ResultCode := .success
  createSurface : ResultCode := .success
  presentation : UInt32 := 1
  /-- The next handle; instances and native surfaces share the numbering. -/
  nextHandle : UInt64 := 0x1000
  nextWindow : Window := 0x400001
  /-- Whether a failing creation uses up a handle and writes it. -/
  writeOnFail : Bool := false
  failWindow : Bool := false
  /-- The windows whose parent is not the desktop. -/
  children : List HostWindow := []
  /-- What is answered for the other windows when their parent is asked for; zero means no. -/
  desktop : UInt32 := 1
  deriving DecidableEq

/-- The window system that the script plays. -/
def windows : WindowSystem := { display := 0xd15, visual := 33 }

namespace Script

/-- The only name that has an address. -/
def knownEntry : Label := .ofText "vkFakeEntry"

private def written (script : Script) (code : ResultCode) : Option UInt64 :=
  if code = .success ∨ script.writeOnFail then some script.nextHandle else none

private def address (name : Label) : Option UInt64 := if name = knownEntry then some 1 else none

/-- The answers that a call meets. -/
def answers (script : Script) (call : Call) : Answers :=
  let window := if script.failWindow then none else some script.nextWindow
  match call with
  | .createInstance .. =>
    { code := script.createInstance, written := script.written script.createInstance }
  | .createWin32Surface _ parent _ =>
    { code := script.createSurface
      written := script.written script.createSurface
      desktop := parent ∉ script.children ∧ script.desktop ≠ 0
      window }
  | .getDeviceProcAddr _ name | .getInstanceProcAddr _ name => { address := address name }
  | .presentationSupport .. => { supported := script.presentation }
  | _ => {}

/-- The numbering after an event has used some of it up. -/
def advance (script : Script) : Event → Script
  | .createInstance _ _ _ (some _) | .createXlibSurface _ _ _ _ (some _) =>
    { script with nextHandle := script.nextHandle + 1 }
  | .createChildWindow _ _ (some _) => { script with nextWindow := script.nextWindow + 1 }
  | _ => script

/-- What the script's side saw of an event. A window that the driver took for a failure was handed out. -/
def witness (script : Script) : Event → Event
  | .createChildWindow parent visual none =>
    .createChildWindow parent visual (if script.failWindow then none else some script.nextWindow)
  | event => event

/-- What the script's side saw of some events, and the script after them. -/
def record (script : Script) (events : List Event) : List Event × Script :=
  let seen := events.map script.witness
  (seen, seen.foldl advance script)

end Script
end SurfaceBridge.Bench
