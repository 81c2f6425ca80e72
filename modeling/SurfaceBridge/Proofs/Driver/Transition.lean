import SurfaceBridge.Driver.Call
import SurfaceBridge.Proofs.Handle.Map

/-! The driver as a transition system: every way a call can go, with what decides it and what it emits. All
later statements about runs are read off this relation; the operations themselves are opened here only. -/
namespace SurfaceBridge

/-- Whether the call creates or destroys an instance or a surface. -/
def Call.isLifecycle : Call → Bool
  | createInstance .. | createWin32Surface .. | destroyInstance .. | destroySurface .. => true
  | _ => false

/-- Whether the event only asks the native driver something. -/
def Event.isQuery : Event → Bool
  | getDeviceProcAddr .. | getInstanceProcAddr .. | presentationSupport .. => true
  | _ => false

namespace Driver
open Handle

/-- What the window system is asked before a native surface is. -/
def windowEvents (driver : Driver) (parent : HostWindow) (window : Option Window) : List Event :=
  [.parentIsDesktop parent, .createChildWindow parent driver.windows.visual window]

/-- The request for a native surface, with its answer. -/
def surfaceRequest (driver : Driver) (owner : InstanceHandle) (window : Window) (answers : Answers) :
    Event :=
  .createXlibSurface owner { display := driver.windows.display, window } .absent answers.code answers.written

/-- A native surface goes first, then its window. -/
def teardown (surface : Surface) : List Event :=
  [.destroySurface surface.owner surface.native .absent, .destroyWindow surface.window]

/-- What holds of every teardown and of the last event holds of all events that destroy an instance. -/
theorem forall_mem_teardowns {P : Event → Prop} (torn : ∀ surface, ∀ event ∈ teardown surface, P event)
    (surfaces : List Surface) {last : Event} (gone : P last) :
    ∀ event ∈ surfaces.flatMap teardown ++ [last], P event := by
  intro event member
  rcases List.mem_append.mp member with inner | final
  · obtain ⟨surface, _, inner⟩ := List.mem_flatMap.mp inner
    exact torn surface event inner
  · rwa [List.mem_singleton.mp final]

inductive Transition (driver : Driver) (answers : Answers) :
    Call → Driver → Except DriverError Reply → List Event → Prop where
  | instanceCreated (info allocator) : answers.code = .success →
      Transition driver answers (.createInstance info allocator)
        { driver with instances := driver.instances.insert answers.handle }
        (.ok (.handle answers.handle))
        [.createInstance (Translation.ofInfo info).native .absent answers.code answers.written]
  | instanceFailed (info allocator) : answers.code ≠ .success →
      Transition driver answers (.createInstance info allocator) driver (.error (.native answers.code))
        [.createInstance (Translation.ofInfo info).native .absent answers.code answers.written]
  | creatorDead (owner parent allocator) : owner ∉ driver.instances →
      Transition driver answers (.createWin32Surface owner parent allocator) driver
        (.error (.invalidHandle .ofInstance owner)) []
  | childRefused (owner parent allocator) : owner ∈ driver.instances → answers.desktop = false →
      Transition driver answers (.createWin32Surface owner parent allocator) driver
        (.error .incompatibleDriver) [.parentIsDesktop parent]
  | windowFailed (owner parent allocator) : owner ∈ driver.instances → answers.desktop = true →
      answers.window = none →
      Transition driver answers (.createWin32Surface owner parent allocator) driver
        (.error .outOfHostMemory) (driver.windowEvents parent none)
  | storeFull (owner parent allocator window) : owner ∈ driver.instances → answers.desktop = true →
      answers.window = some window → driver.surfaces.insert ⟨owner, window, 0⟩ = none →
      Transition driver answers (.createWin32Surface owner parent allocator) driver
        (.error .outOfHostMemory) (driver.windowEvents parent (some window) ++ [.destroyWindow window])
  | surfaceFailed (owner parent allocator window rest index) : owner ∈ driver.instances →
      answers.desktop = true → answers.window = some window → answers.code ≠ .success →
      driver.surfaces.Forfeits rest index →
      Transition driver answers (.createWin32Surface owner parent allocator)
        { driver with surfaces := rest } (.error (.native answers.code))
        (driver.windowEvents parent (some window) ++
          [driver.surfaceRequest owner window answers, .destroyWindow window])
  | surfaceCreated (owner parent allocator window stored index) : owner ∈ driver.instances →
      answers.desktop = true → answers.window = some window → answers.code = .success →
      driver.surfaces.Stores ⟨owner, window, answers.handle⟩ stored index →
      Transition driver answers (.createWin32Surface owner parent allocator)
        { driver with surfaces := stored }
        (.ok (.handle (Arena.handle index (driver.surfaces.slotAt index).generation)))
        (driver.windowEvents parent (some window) ++ [driver.surfaceRequest owner window answers])
  | instanceNull (allocator) :
      Transition driver answers (.destroyInstance 0 allocator) driver (.ok .done) []
  | instanceUnknown (handle allocator) : handle ≠ 0 → handle ∉ driver.instances →
      Transition driver answers (.destroyInstance handle allocator) driver
        (.error (.invalidHandle .ofInstance handle)) []
  | instanceDestroyed (handle allocator rest) : handle ≠ 0 → handle ∈ driver.instances →
      driver.surfaces.Drains (fun surface => surface.owner = handle) rest →
      Transition driver answers (.destroyInstance handle allocator)
        { driver with instances := driver.instances.erase handle, surfaces := rest } (.ok .done)
        ((driver.surfaces.values.filter fun surface => surface.owner = handle).flatMap teardown ++
          [.destroyInstance handle .absent])
  | destroyerDead (owner handle allocator) : owner ∉ driver.instances →
      Transition driver answers (.destroySurface owner handle allocator) driver
        (.error (.invalidHandle .ofInstance owner)) []
  | surfaceNull (owner allocator) : owner ∈ driver.instances →
      Transition driver answers (.destroySurface owner 0 allocator) driver (.ok .done) []
  | surfaceUnknown (owner handle allocator) : owner ∈ driver.instances → handle ≠ 0 →
      (∀ surface, driver.surfaces.get? handle = some surface → surface.owner ≠ owner) →
      Transition driver answers (.destroySurface owner handle allocator) driver
        (.error (.invalidHandle .ofSurface handle)) []
  | surfaceDestroyed (allocator surface rest index) : surface.owner ∈ driver.instances →
      driver.surfaces.Retires surface rest index →
      Transition driver answers (.destroySurface surface.owner
          (Arena.handle index (driver.surfaces.slotAt index).generation) allocator)
        { driver with surfaces := rest } (.ok .done) (teardown surface)
  | other (call result events) : call.isLifecycle = false → (∀ event ∈ events, event.isQuery) →
      Transition driver answers call driver result events

private theorem createInstance_transition (driver : Driver) (info : InstanceInfo) (allocator : Allocator)
    (answers : Answers) :
    let step := driver.step (.createInstance info allocator) answers
    Transition driver answers (.createInstance info allocator) step.driver step.result step.events := by
  simp only [step, createInstance, Step.map]
  split
  · rename_i success
    exact .instanceCreated info allocator success
  · rename_i failed
    exact .instanceFailed info allocator failed

private theorem createWin32Surface_transition {driver : Driver} (sound : driver.surfaces.WellFormed)
    (owner : InstanceHandle) (parent : HostWindow) (allocator : Allocator) (answers : Answers) :
    let step := driver.step (.createWin32Surface owner parent allocator) answers
    Transition driver answers (.createWin32Surface owner parent allocator) step.driver step.result
      step.events := by
  simp only [step, createWin32Surface, Step.map]
  by_cases live : owner ∈ driver.instances
  case neg =>
    simp only [check, live, if_false]
    exact .creatorDead owner parent allocator live
  simp only [check, live, if_true]
  cases desktop : answers.desktop with
  | false => exact .childRefused owner parent allocator live desktop
  | true =>
    cases made : answers.window with
    | none => exact .windowFailed owner parent allocator live desktop made
    | some window =>
      cases done : driver.surfaces.insert ⟨owner, window, 0⟩ with
      | none =>
        simpa [done, windowEvents, Except.map] using
          Transition.storeFull owner parent allocator window live desktop made done
      | some stored =>
        obtain ⟨word, stored⟩ := stored
        by_cases success : answers.code = .success
        · have filled := Arena.insert_modify sound
            (fun surface => { surface with native := answers.handle }) done
          obtain ⟨index, named, stores⟩ := Arena.insert_spec sound filled
          have path := Transition.surfaceCreated owner parent allocator window _ index live desktop made
            success stores
          rw [← named] at path
          simpa [done, success, windowEvents, surfaceRequest, Except.map] using path
        · obtain ⟨rest, index, taken, forfeits⟩ := Arena.remove?_insert sound done
          have path := Transition.surfaceFailed owner parent allocator window rest index live desktop made
            success forfeits
          simpa [done, success, taken, windowEvents, surfaceRequest, Except.map] using path

private theorem destroyInstance_transition {driver : Driver} (sound : driver.surfaces.WellFormed)
    (handle : InstanceHandle) (allocator : Allocator) (answers : Answers) :
    let step := driver.step (.destroyInstance handle allocator) answers
    Transition driver answers (.destroyInstance handle allocator) step.driver step.result step.events := by
  simp only [step, destroyInstance, Step.map]
  by_cases null : handle = 0
  · subst null
    exact .instanceNull allocator
  by_cases live : handle ∈ driver.instances
  · have path : Transition driver answers _ _ _ _ := .instanceDestroyed handle allocator _ null live
      (Arena.drain_spec sound fun surface => surface.owner = handle)
    have owned : (driver.surfaces.values.filter fun surface => surface.owner = handle).flatMap teardown =
        (driver.surfaces.values.filter fun surface => surface.owner = handle).flatMap fun surface =>
          [.destroySurface handle surface.native .absent, .destroyWindow surface.window] := by
      apply List.flatMap_congr
      intro surface member
      rw [teardown, of_decide_eq_true (List.mem_filter.mp member).2]
    rw [owned] at path
    simpa [null, live, SurfaceStore.drainFor, Arena.drain_fst, Except.map] using path
  · simp only [null, live, if_false]
    exact .instanceUnknown handle allocator null live

private theorem destroySurface_transition {driver : Driver} (sound : driver.surfaces.WellFormed)
    (owner : InstanceHandle) (handle : SurfaceHandle) (allocator : Allocator) (answers : Answers) :
    let step := driver.step (.destroySurface owner handle allocator) answers
    Transition driver answers (.destroySurface owner handle allocator) step.driver step.result
      step.events := by
  simp only [step, destroySurface, Step.map]
  by_cases live : owner ∈ driver.instances
  case neg =>
    simp only [check, live, if_false]
    exact .destroyerDead owner handle allocator live
  simp only [check, live, if_true]
  by_cases null : handle = 0
  · subst null
    exact .surfaceNull owner allocator live
  simp only [null, if_false]
  cases found : driver.surfaces.get? handle with
  | none =>
    simp only [SurfaceStore.take, found]
    exact .surfaceUnknown owner handle allocator live null (by simp [found])
  | some surface =>
    by_cases own : surface.owner = owner
    · subst own
      obtain ⟨rest, taken⟩ := Arena.remove?_of_get? found
      obtain ⟨index, rfl, retires⟩ := Arena.remove?_spec sound taken
      simpa [SurfaceStore.take, found, taken, teardown, Except.map] using
        Transition.surfaceDestroyed allocator surface rest index live retires
    · simp only [SurfaceStore.take, found, own, if_false]
      exact .surfaceUnknown owner handle allocator live null (by simp [found, own])

/-- Every call goes one of these ways. -/
theorem step_transition {driver : Driver} (sound : driver.surfaces.WellFormed) (call : Call)
    (answers : Answers) :
    let step := driver.step call answers
    Transition driver answers call step.driver step.result step.events := by
  cases call with
  | createInstance info allocator => exact createInstance_transition driver info allocator answers
  | createWin32Surface owner parent allocator =>
    exact createWin32Surface_transition sound owner parent allocator answers
  | destroyInstance handle allocator => exact destroyInstance_transition sound handle allocator answers
  | destroySurface owner handle allocator =>
    exact destroySurface_transition sound owner handle allocator answers
  | getDeviceProcAddr device name =>
    exact .other _ _ _ rfl (by simp [step, Step.map, getDeviceProcAddr, Event.isQuery])
  | getInstanceProcAddr handle name =>
    exact .other _ _ _ rfl (by simp [step, Step.map, getInstanceProcAddr, Event.isQuery])
  | presentationSupport device queueFamily =>
    exact .other _ _ _ rfl (by simp [step, Step.map, presentationSupport, Event.isQuery])
  | _ => exact .other _ _ _ rfl (by simp [step, Step.map, stub, enumerateExtensions])

end Driver
end SurfaceBridge
