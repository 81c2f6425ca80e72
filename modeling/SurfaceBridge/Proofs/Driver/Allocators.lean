import SurfaceBridge.Proofs.Driver.History

/-! Allocation callbacks. A call that brings them is warned once that they are not used, and otherwise goes as if it
had brought none; the native driver never sees any. -/
namespace SurfaceBridge

namespace Call

/-- The allocator that a call brings. -/
def allocator : Call → Allocator
  | createInstance _ allocator | createSwapchain _ allocator | createWin32Surface _ _ allocator
  | destroyInstance _ allocator | destroySurface _ _ allocator | destroySwapchain _ _ allocator => allocator
  | _ => .absent

/-- The call with another allocator, if it brings one at all. -/
def withAllocator (allocator : Allocator) : Call → Call
  | createInstance info _ => createInstance info allocator
  | createSwapchain device _ => createSwapchain device allocator
  | createWin32Surface owner parent _ => createWin32Surface owner parent allocator
  | destroyInstance handle _ => destroyInstance handle allocator
  | destroySurface owner handle _ => destroySurface owner handle allocator
  | destroySwapchain device swapchain _ => destroySwapchain device swapchain allocator
  | call => call

@[simp] theorem withAllocator_allocator (call : Call) : call.withAllocator call.allocator = call := by
  cases call <;> rfl

end Call

/-- The allocator that the native driver receives. -/
def Event.allocator? : Event → Option Allocator
  | createInstance _ allocator _ _ | destroyInstance _ allocator | createXlibSurface _ _ allocator _ _
  | destroySurface _ _ allocator => some allocator
  | _ => none

namespace Driver

/-- An operation that shows its allocator only at the start of its log: in the line that says how it was called, and
in a warning if callbacks were given. -/
def Oblivious {α : Type} (called : Bool → Notice) (operation : Allocator → Step α) : Prop :=
  ∃ rest, .allocatorIgnored ∉ rest ∧ ∀ allocator, operation allocator =
    { operation .absent with log := called allocator.isPresent :: allocatorNotices allocator ++ rest }

theorem Oblivious.map {α β : Type} {called : Bool → Notice} {operation : Allocator → Step α}
    (oblivious : Oblivious called operation) (f : α → β) :
    Oblivious called fun allocator => (operation allocator).map f := by
  obtain ⟨rest, clean, same⟩ := oblivious
  exact ⟨rest, clean, fun allocator => congrArg (Step.map f) (same allocator)⟩

theorem Oblivious.count {α : Type} {called : Bool → Notice} {operation : Allocator → Step α}
    (oblivious : Oblivious called operation) (other : ∀ present, called present ≠ .allocatorIgnored)
    (allocator : Allocator) :
    (operation allocator).log.count .allocatorIgnored = if allocator = .callbacks then 1 else 0 := by
  obtain ⟨rest, clean, same⟩ := oblivious
  rw [same allocator, List.cons_append, List.count_cons_of_ne (other _), List.count_append,
    List.count_eq_zero_of_not_mem clean]
  cases allocator <;> rfl

variable (driver : Driver) (answers : Answers)

theorem createInstance_oblivious (info : InstanceInfo) :
    Oblivious .createInstanceCalled fun allocator => driver.createInstance info allocator answers := by
  let translation := Translation.ofInfo info
  let told := translation.notices ++
    [.creatingInstance info.extensionNames.length translation.substitutions translation.dropped.length]
  have clean : .allocatorIgnored ∉ told := by simp [told, Translation.notices]
  simp only [createInstance]
  split
  · exact ⟨told ++ [.createdInstance answers.handle], by simpa using clean,
      fun _ => by simp [told, translation]⟩
  · exact ⟨told, clean, fun _ => by simp [told, translation]⟩

theorem createWin32Surface_oblivious (owner : InstanceHandle) (parent : HostWindow) :
    Oblivious (.createSurfaceCalled owner) fun allocator =>
      driver.createWin32Surface owner parent allocator answers := by
  simp only [createWin32Surface]
  cases driver.check owner with
  | error e => exact ⟨[.rejected e], by simp, fun _ => rfl⟩
  | ok _ =>
    cases answers.desktop with
    | false => exact ⟨[.childWindowRejected], by simp, fun _ => rfl⟩
    | true =>
      cases answers.window with
      | none => exact ⟨[.windowFailed parent], by simp, fun _ => rfl⟩
      | some window =>
        simp only [Bool.not_true, Bool.false_eq_true, if_false]
        cases driver.surfaces.insert ⟨owner, window, 0⟩ with
        | none => exact ⟨[.destroyingWindow window], by simp, fun _ => rfl⟩
        | some stored =>
          simp only
          split
          · exact ⟨[.createdSurface stored.1 window], by simp, fun _ => rfl⟩
          · cases stored.2.remove? stored.1 with
            | none => exact ⟨[.nativeSurfaceFailed answers.code], by simp, fun _ => rfl⟩
            | some taken =>
              exact ⟨[.nativeSurfaceFailed answers.code, .destroyingWindow taken.1.window], by simp,
                fun _ => by simp⟩

theorem destroyInstance_oblivious (handle : InstanceHandle) :
    Oblivious (.destroyInstanceCalled handle) fun allocator => driver.destroyInstance handle allocator := by
  simp only [destroyInstance]
  split
  · exact ⟨[], by simp, fun _ => by simp⟩
  · split
    · exact ⟨(if (driver.surfaces.drainFor handle).1.isEmpty then []
          else [Notice.surfacesLeft handle (driver.surfaces.drainFor handle).1.length]) ++
        (driver.surfaces.drainFor handle).1.map fun surface => .destroyingWindow surface.window,
        by split <;> simp, fun _ => by simp⟩
    · exact ⟨[.unknownInstance handle], by simp, fun _ => rfl⟩

/-- Taking a surface out of the store says nothing of allocators. -/
theorem take_clean (store : SurfaceStore) (owner : InstanceHandle) (handle : SurfaceHandle) :
    .allocatorIgnored ∉ (store.take owner handle).2 := by
  simp only [SurfaceStore.take]
  split
  · exact List.not_mem_nil
  · split
    · split <;> exact List.not_mem_nil
    · simp

theorem destroySurface_oblivious (owner : InstanceHandle) (handle : SurfaceHandle) :
    Oblivious (.destroySurfaceCalled owner handle) fun allocator =>
      driver.destroySurface owner handle allocator := by
  simp only [destroySurface]
  cases driver.check owner with
  | error e => exact ⟨[.rejected e], by simp, fun _ => rfl⟩
  | ok _ =>
    by_cases null : handle = 0
    · simp only [null, if_true]
      exact ⟨[], List.not_mem_nil, fun _ => by simp⟩
    · have clean := take_clean driver.surfaces owner handle
      simp only [null, if_false]
      generalize driver.surfaces.take owner handle = taken at clean
      obtain ⟨result, notices⟩ := taken
      cases result with
      | error e => exact ⟨notices ++ [.rejected e], by simpa using clean, fun _ => by simp⟩
      | ok taken =>
        exact ⟨notices ++ [.destroyingWindow taken.1.window], by simpa using clean, fun _ => by simp⟩

theorem step_oblivious {call : Call} (lifecycle : call.isLifecycle) :
    ∃ called : Bool → Notice, (∀ present, called present ≠ .allocatorIgnored) ∧
      Oblivious called fun allocator => driver.step (call.withAllocator allocator) answers := by
  cases call with
  | createInstance info =>
    exact ⟨.createInstanceCalled, nofun,
      (driver.createInstance_oblivious answers info).map (Except.map Reply.handle)⟩
  | createWin32Surface owner parent =>
    exact ⟨.createSurfaceCalled owner, nofun,
      (driver.createWin32Surface_oblivious answers owner parent).map (Except.map Reply.handle)⟩
  | destroyInstance handle =>
    exact ⟨.destroyInstanceCalled handle, nofun,
      (driver.destroyInstance_oblivious handle).map (Except.map fun _ => Reply.done)⟩
  | destroySurface owner handle =>
    exact ⟨.destroySurfaceCalled owner handle, nofun,
      (driver.destroySurface_oblivious owner handle).map (Except.map fun _ => Reply.done)⟩
  | _ => cases lifecycle

/-- A call goes the same way with any other allocator. -/
theorem step_withAllocator (call : Call) (allocator : Allocator) :
    let changed := driver.step (call.withAllocator allocator) answers
    let given := driver.step call answers
    changed.driver = given.driver ∧ changed.result = given.result ∧ changed.events = given.events := by
  cases lifecycle : call.isLifecycle with
  | true =>
    obtain ⟨_, _, _, _, same⟩ := driver.step_oblivious answers lifecycle
    have own : driver.step (call.withAllocator call.allocator) answers = _ := same call.allocator
    have other : driver.step (call.withAllocator allocator) answers = _ := same allocator
    rw [Call.withAllocator_allocator] at own
    rw [own, other]
    exact ⟨rfl, rfl, rfl⟩
  | false =>
    cases call with
    | createInstance | createWin32Surface | destroyInstance | destroySurface => cases lifecycle
    | _ => exact ⟨rfl, rfl, rfl⟩

/-- A creation or a destruction with callbacks is warned once, and no other call is. -/
theorem count_allocatorIgnored (call : Call) :
    (driver.step call answers).log.count .allocatorIgnored =
      if call.isLifecycle ∧ call.allocator = .callbacks then 1 else 0 := by
  cases lifecycle : call.isLifecycle with
  | true =>
    obtain ⟨_, other, oblivious⟩ := driver.step_oblivious answers lifecycle
    simpa using oblivious.count other call.allocator
  | false =>
    cases call with
    | createInstance | createWin32Surface | destroyInstance | destroySurface => cases lifecycle
    | enumerateExtensions layer buffer => cases layer <;> cases buffer <;> rfl
    | _ => rfl

/-- Runs that differ only in the allocators that their calls bring. -/
theorem run_withAllocator (calls : List (Call × Allocator × Answers)) :
    let given := calls.map fun call => (call.1, call.2.2)
    let changed := calls.map fun call => (call.1.withAllocator call.2.1, call.2.2)
    driver.after changed = driver.after given ∧
      (driver.run changed).map (·.result) = (driver.run given).map (·.result) ∧
      (driver.run changed).map (·.events) = (driver.run given).map (·.events) := by
  induction calls generalizing driver with
  | nil => exact ⟨rfl, rfl, rfl⟩
  | cons first calls ih =>
    obtain ⟨call, allocator, answers⟩ := first
    obtain ⟨state, result, events⟩ := driver.step_withAllocator answers call allocator
    obtain ⟨after, results, others⟩ := ih (driver.step call answers).driver
    simp only [List.map_cons, after_cons, run, state, result, events, after, results, others, and_self]

variable {driver answers}

/-- The native driver receives no callbacks. -/
theorem Transition.no_callbacks {next : Driver} {call : Call} {result : Except DriverError Reply}
    {events : List Event} (path : Transition driver answers call next result events) :
    ∀ event ∈ events, event.allocator? ≠ some .callbacks := by
  cases path with
  | instanceDestroyed =>
    exact forall_mem_teardowns (by simp [teardown, Event.allocator?]) _ (by simp [Event.allocator?])
  | other _ _ _ _ queries =>
    intro event member
    cases event with
    | getDeviceProcAddr | getInstanceProcAddr | presentationSupport => simp [Event.allocator?]
    | _ => cases queries _ member
  | _ => simp [windowEvents, surfaceRequest, teardown, Event.allocator?]

theorem no_callbacks_trace (windows : WindowSystem) (calls : List (Call × Answers)) :
    ∀ event ∈ (fresh windows).trace calls, event.allocator? ≠ some .callbacks := by
  induction calls using List.reverseRecOn with
  | nil => exact List.forall_mem_nil _
  | append_singleton calls last ih =>
    rw [trace_concat]
    exact List.forall_mem_append.mpr ⟨ih, (transition_after windows calls last.1 last.2).no_callbacks⟩

/-- Whatever allocators the calls of a run bring, the results are the same, and so are the events and the live
instances and surfaces; the native driver receives no callbacks; and a call that creates or destroys something is
warned exactly once if it brings callbacks, and not at all otherwise. -/
theorem allocators_make_no_difference (windows : WindowSystem) (calls : List (Call × Allocator × Answers)) :
    let given := calls.map fun call => (call.1, call.2.2)
    let changed := calls.map fun call => (call.1.withAllocator call.2.1, call.2.2)
    (fresh windows).after changed = (fresh windows).after given ∧
    ((fresh windows).run changed).map (·.result) = ((fresh windows).run given).map (·.result) ∧
    ((fresh windows).run changed).map (·.events) = ((fresh windows).run given).map (·.events) ∧
    (∀ event ∈ (fresh windows).trace given, event.allocator? ≠ some .callbacks) ∧
    ((fresh windows).run given).map (fun step => step.log.count .allocatorIgnored) =
      given.map fun call => if call.1.isLifecycle ∧ call.1.allocator = .callbacks then 1 else 0 := by
  intro given changed
  obtain ⟨state, results, events⟩ := (fresh windows).run_withAllocator calls
  refine ⟨state, results, events, no_callbacks_trace windows given, ?_⟩
  generalize given = given, fresh windows = driver
  induction given generalizing driver with
  | nil => rfl
  | cons first given ih =>
    rw [run, List.map_cons, List.map_cons, count_allocatorIgnored, ih]

end Driver
end SurfaceBridge
