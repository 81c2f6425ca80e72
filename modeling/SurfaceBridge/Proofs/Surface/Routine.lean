import SurfaceBridge.Driver.Basic
import SurfaceBridge.Proofs.Handle.Refinement

/-! Calls on the store of surfaces, taken apart into their accesses. A call holds the store's lock during one access
at a time only; between two of its accesses others may have theirs. -/
namespace SurfaceBridge
open Handle

/-- A call that works on the store. -/
inductive StoreCall where
  /-- Takes one surface out, on behalf of an instance. -/
  | take (owner : InstanceHandle) (handle : SurfaceHandle)
  /-- Stores a surface on a window, then asks the native driver for it. -/
  | create (owner : InstanceHandle) (window : Window) (answers : Answers)
  /-- Takes out all surfaces of an instance. -/
  | drain (owner : InstanceHandle)

/-- What a call comes to. -/
inductive StoreOutcome where
  | taken (result : Except DriverError Surface) (log : List Notice)
  /-- A creation that the native driver refuses drops the surface that it takes back. -/
  | created (result : Except DriverError SurfaceHandle) (dropped : Option Surface)
  | drained (left : List Surface)
  deriving DecidableEq

/-- The surfaces that a call got out of the store. -/
def StoreOutcome.surfaces : StoreOutcome → List Surface
  | taken (.ok surface) _ => [surface]
  | taken (.error _) _ => []
  | created _ dropped => dropped.toList
  | drained left => left

/-- What a call still has to do: its next access, and what it does with the answer. -/
inductive Routine where
  | ended (outcome : StoreOutcome)
  | access (operation : Operation Surface Bool) (next : Answer Surface Bool → Routine)

namespace Routine

/-- The surfaces that a call has got so far: none before its last access. -/
def surfaces : Routine → List Surface
  | ended outcome => outcome.surfaces
  | access .. => []

/-- The call without interruption, from a store to the next. -/
def run : Routine → SurfaceStore → StoreOutcome × SurfaceStore
  | ended outcome, store => (outcome, store)
  | access operation next, store => (next (store.perform operation).1).run (store.perform operation).2

/-- The call ends after at most so many accesses, whatever they are answered. -/
def Within : Routine → Nat → Prop
  | ended _, _ => True
  | access .., 0 => False
  | access _ next, n + 1 => ∀ answer, (next answer).Within n

/-- The end of a take: the owner was right when it was asked for. -/
def removal (handle : SurfaceHandle) : Routine :=
  access (.remove handle) fun
    | .taken (some surface) => ended (.taken (.ok surface) [])
    | _ => ended (.taken (.error (.invalidHandle .ofSurface handle)) [])

/-- The end of a creation whose surface is stored under the handle. -/
def settling (answers : Answers) (handle : SurfaceHandle) : Routine :=
  if answers.code = .success then
    access (.update handle fun surface => (true, { surface with native := answers.handle })) fun _ =>
      ended (.created (.ok handle) none)
  else
    access (.remove handle) fun
      | .taken dropped => ended (.created (.error (.native answers.code)) dropped)
      | _ => ended (.created (.error (.native answers.code)) none)

end Routine

namespace StoreCall
open Routine

def routine : StoreCall → Routine
  | take owner handle =>
    let invalid := DriverError.invalidHandle .ofSurface handle
    access (.read handle fun surface => surface.owner = owner) fun
      | .result (some true) => removal handle
      | .result (some false) => ended (.taken (.error invalid) [.foreignSurface handle owner])
      | _ => ended (.taken (.error invalid) [])
  | create owner window answers =>
    access (.insert { owner, window, native := 0 }) fun
      | .handle handle => settling answers handle
      | _ => ended (.created (.error .outOfHostMemory) none)
  | drain owner =>
    access (.drain fun surface => surface.owner = owner) fun
      | .drained left => ended (.drained left)
      | _ => ended (.drained [])

/-- No call has more than two accesses. -/
theorem routine_within (call : StoreCall) : call.routine.Within 2 := by
  cases call with
  | take owner handle =>
    intro answer
    dsimp only
    split
    · intro answer
      dsimp only
      split <;> exact trivial
    · exact trivial
    · exact trivial
  | create owner window answers =>
    intro answer
    dsimp only
    split
    · rw [settling]
      split
      · exact fun _ => trivial
      · intro answer
        dsimp only
        split <;> exact trivial
    · exact trivial
  | drain owner =>
    intro answer
    dsimp only
    split <;> exact trivial

/-- A take that nobody interrupts is the store's. -/
theorem run_take (store : SurfaceStore) (owner : InstanceHandle) (handle : SurfaceHandle) :
    (take owner handle).routine.run store =
      match store.take owner handle with
      | (.ok (surface, rest), log) => (.taken (.ok surface) log, rest)
      | (.error error, log) => (.taken (.error error) log, store) := by
  simp only [routine, run, Arena.perform, SurfaceStore.take]
  cases found : store.get? handle with
  | none => rfl
  | some surface =>
    by_cases own : surface.owner = owner
    · obtain ⟨rest, removed⟩ := Arena.remove?_of_get? found
      simp [own, removal, run, Arena.perform, removed]
    · simp [own, run]

theorem run_drain (store : SurfaceStore) (owner : InstanceHandle) :
    (drain owner).routine.run store = ((.drained (store.drainFor owner).1), (store.drainFor owner).2) :=
  rfl

/-- A creation that nobody interrupts is the driver's. -/
theorem run_create (driver : Driver) {owner : InstanceHandle} {answers : Answers} {window : Window}
    (parent : HostWindow) (allocator : Allocator) (live : owner ∈ driver.instances)
    (desktop : answers.desktop = true) (placed : answers.window = some window) :
    let step := driver.createWin32Surface owner parent allocator answers
    ∃ dropped, (create owner window answers).routine.run driver.surfaces =
      (.created step.result dropped, step.driver.surfaces) := by
  simp only [Driver.createWin32Surface, Driver.check, if_pos live, desktop, placed, routine, run, Arena.perform]
  cases driver.surfaces.insert { owner, window, native := 0 } with
  | none => exact ⟨none, rfl⟩
  | some stored =>
    obtain ⟨handle, stored⟩ := stored
    by_cases success : answers.code = .success
    · exact ⟨none, by simp [settling, success, run, Arena.perform]⟩
    · cases removed : stored.remove? handle with
      | none => exact ⟨none, by simp [settling, success, run, Arena.perform, removed]⟩
      | some taken => exact ⟨some taken.1, by simp [settling, success, run, Arena.perform, removed]⟩

end StoreCall
end SurfaceBridge
