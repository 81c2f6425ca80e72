import SurfaceBridge.Proofs.Driver.Teardown

/-! Failed calls are atomic: a call that answers an error changes nothing that callers can see, and takes back all
that it asked for. The store itself may differ, since a slot gives up its next handle when the native driver fails
after the surface was stored. -/
namespace SurfaceBridge.Driver
open Handle

/-- The same instances are live, and every word stands for the same surface, or for none. -/
structure SameView (driver next : Driver) : Prop where
  windows : next.windows = driver.windows
  instances : next.instances = driver.instances
  surfaces : ∀ word, next.surfaces.get? word = driver.surfaces.get? word

theorem SameView.refl (driver : Driver) : SameView driver driver := ⟨rfl, rfl, fun _ => rfl⟩

namespace Transition

variable {driver next : Driver} {call : Call} {answers : Answers} {error : DriverError} {events : List Event}

theorem sameView (path : Transition driver answers call next (.error error) events)
    (lifecycle : call.isLifecycle) : SameView driver next := by
  cases path with
  | surfaceFailed _ _ _ _ _ _ _ _ _ _ forfeits => exact ⟨rfl, rfl, forfeits.get?_eq⟩
  | other _ _ _ query => rw [query] at lifecycle; cases lifecycle
  | _ => exact .refl driver

/-- A call that fails destroys nothing of the native driver's. -/
theorem failed_spares (path : Transition driver answers call next (.error error) events)
    (lifecycle : call.isLifecycle) {event : Event} (member : event ∈ events) :
    event.destroyedInstance? = none ∧ event.destroyedSurface? = none := by
  cases path with
  | other _ _ _ query => rw [query] at lifecycle; cases lifecycle
  | creatorDead | instanceUnknown | destroyerDead | surfaceUnknown => cases member
  | instanceFailed | childRefused =>
    rw [List.mem_singleton.mp member]
    exact ⟨rfl, rfl⟩
  | windowFailed | storeFull | surfaceFailed =>
    -- These are requests of the creation's own, and at most its window goes.
    simp only [windowEvents, surfaceRequest, List.cons_append, List.nil_append, List.mem_cons,
      List.not_mem_nil, or_false] at member
    rcases member with rfl | rfl | rfl | rfl <;> exact ⟨rfl, rfl⟩

/-- A window that goes in a call that fails was made in that call. -/
theorem failed_release (path : Transition driver answers call next (.error error) events)
    (lifecycle : call.isLifecycle) (sound : driver.surfaces.WellFormed)
    (room : driver.surfaces.live < Arena.slotLimit) {before rest : List Event} {window : Window}
    (split : events = before ++ .destroyWindow window :: rest) :
    ∃ parent, .createChildWindow parent driver.windows.visual (some window) ∈ before := by
  cases path.release sound room split with
  | torn handle surface _ _ found gone _ _ =>
    rw [(path.sameView lifecycle).surfaces, found] at gone
    cases gone
  | refused parent owner failed => exact ⟨parent, by simp [windowEvents]⟩

/-- How far a creation came that failed, with what it asked for on the way. -/
theorem failed_creation {owner : InstanceHandle} {parent : HostWindow} {allocator : Allocator}
    (path : Transition driver answers (.createWin32Surface owner parent allocator) next (.error error) events)
    (sound : driver.surfaces.WellFormed) (room : driver.surfaces.live < Arena.slotLimit) :
    owner ∉ driver.instances ∧ error = .invalidHandle .ofInstance owner ∧ events = [] ∨
      owner ∈ driver.instances ∧ answers.desktop = false ∧ error = .incompatibleDriver ∧
        events = [.parentIsDesktop parent] ∨
      owner ∈ driver.instances ∧ answers.desktop = true ∧ answers.window = none ∧
        error = .outOfHostMemory ∧ events = driver.windowEvents parent none ∨
      ∃ window, owner ∈ driver.instances ∧ answers.desktop = true ∧ answers.window = some window ∧
        answers.code ≠ .success ∧ error = .native answers.code ∧
        events = driver.windowEvents parent (some window) ++
          [driver.surfaceRequest owner window answers, .destroyWindow window] := by
  cases path with
  | creatorDead _ _ _ dead => exact .inl ⟨dead, rfl, rfl⟩
  | childRefused _ _ _ live child => exact .inr (.inl ⟨live, child, rfl, rfl⟩)
  | windowFailed _ _ _ live desktop missing => exact .inr (.inr (.inl ⟨live, desktop, missing, rfl, rfl⟩))
  | storeFull _ _ _ _ _ _ _ full => exact absurd ((Arena.insert_eq_none_iff sound).mp full) room.ne
  | surfaceFailed _ _ _ window _ _ live desktop made failed _ =>
    exact .inr (.inr (.inr ⟨window, live, desktop, made, failed, rfl, rfl⟩))
  | other _ _ _ query => cases query

end Transition

/-- A call that fails while the store has room leaves the instances and the meaning of every handle as they were,
destroys neither an instance nor a native surface, and no window but its own. The creation of a surface stops at
the first refusal, and its last one, the native driver's, takes the window back. -/
theorem failed_call_atomic (windows : WindowSystem) (calls : List (Call × Answers)) (call : Call)
    (answers : Answers) (error : DriverError) (lifecycle : call.isLifecycle)
    (room : ((fresh windows).after calls).surfaces.live < Arena.slotLimit)
    (failed : (((fresh windows).after calls).step call answers).result = .error error) :
    let driver := (fresh windows).after calls
    let step := driver.step call answers
    SameView driver step.driver ∧
    (∀ handle allocator, .destroyInstance handle allocator ∉ step.events) ∧
    (∀ owner surface allocator, .destroySurface owner surface allocator ∉ step.events) ∧
    (∀ before window rest, step.events = before ++ .destroyWindow window :: rest →
      ∃ parent, .createChildWindow parent driver.windows.visual (some window) ∈ before) ∧
    ∀ owner parent allocator, call = .createWin32Surface owner parent allocator →
      owner ∉ driver.instances ∧ error = .invalidHandle .ofInstance owner ∧ step.events = [] ∨
      owner ∈ driver.instances ∧ answers.desktop = false ∧ error = .incompatibleDriver ∧
        step.events = [.parentIsDesktop parent] ∨
      owner ∈ driver.instances ∧ answers.desktop = true ∧ answers.window = none ∧
        error = .outOfHostMemory ∧ step.events =
          [.parentIsDesktop parent, .createChildWindow parent driver.windows.visual none] ∨
      ∃ window, owner ∈ driver.instances ∧ answers.desktop = true ∧ answers.window = some window ∧
        answers.code ≠ .success ∧ error = .native answers.code ∧ step.events =
          [.parentIsDesktop parent, .createChildWindow parent driver.windows.visual (some window),
            .createXlibSurface owner { display := driver.windows.display, window } .absent answers.code
              answers.written,
            .destroyWindow window] := by
  intro driver step
  have sound := wellFormed_after windows calls
  have path := transition_after windows calls call answers
  simp only at path
  rw [failed] at path
  refine ⟨path.sameView lifecycle, ?_, ?_, fun _ _ _ => path.failed_release lifecycle sound room, ?_⟩
  · intro handle allocator member
    cases (path.failed_spares lifecycle member).1
  · intro owner surface allocator member
    cases (path.failed_spares lifecycle member).2
  · rintro owner parent allocator rfl
    exact path.failed_creation sound room

/-- A surface that is live, and one that was destroyed: its slot is vacant in its second generation. -/
def vacatedSlot : List (Call × Answers) := [
  (.createInstance {} .absent, { written := some 16 }),
  (.createWin32Surface 16 7 .absent, { written := some 32, window := some 5 }),
  (.createWin32Surface 16 7 .absent, { written := some 33, window := some 6 }),
  (.destroySurface 16 2 .absent, {})]

theorem failed_call_atomic_of_vacatedSlot :
    let driver := (fresh ⟨3, 4, 0⟩).after vacatedSlot
    let next : Call × Answers :=
      (.createWin32Surface 16 8 .absent, { code := .outOfHostMemory, written := some 34, window := some 9 })
    let step := driver.step next.1 next.2
    (next.1.isLifecycle ∧ driver.surfaces.live < Arena.slotLimit ∧
      step.result = .error (.native .outOfHostMemory)) ∧
    step.driver ≠ driver ∧ SameView driver step.driver ∧
    (∀ owner surface allocator, .destroySurface owner surface allocator ∉ step.events) ∧
    step.events = [.parentIsDesktop 8, .createChildWindow 8 4 (some 9),
      .createXlibSurface 16 { display := 3, window := 9 } .absent .outOfHostMemory (some 34),
      .destroyWindow 9] := by
  intro driver next step
  have room : driver.surfaces.live < Arena.slotLimit := by decide
  have failed : step.result = .error (.native .outOfHostMemory) := by decide
  have atomic := failed_call_atomic ⟨3, 4, 0⟩ vacatedSlot next.1 next.2 _ rfl room failed
  exact ⟨⟨rfl, room, failed⟩, by decide, atomic.1, atomic.2.2.1, by decide⟩

end SurfaceBridge.Driver
