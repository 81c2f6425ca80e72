import SurfaceBridge.Proofs.Driver.History
import SurfaceBridge.Proofs.Handle.Issue

/-! Validity of surface handles over whole runs. A slot's generation counts its retirements, so a handle is
never issued twice until a slot has been retired 2^32 times; a handle is accepted exactly while the surface
that it was issued for is outstanding. -/
namespace SurfaceBridge.Driver
open Handle

/-- How often a slot was retired during a run: how many calls left it in another generation. -/
def retirements (driver : Driver) (index : Nat) : List (Call × Answers) → Nat
  | [] => 0
  | (call, answers) :: rest =>
    let next := (driver.step call answers).driver
    (if (next.surfaces.slotAt index).generation = (driver.surfaces.slotAt index).generation then 0 else 1) +
      next.retirements index rest

theorem retirements_concat (driver : Driver) (index : Nat) (calls : List (Call × Answers)) (call : Call)
    (answers : Answers) :
    driver.retirements index (calls ++ [(call, answers)]) = driver.retirements index calls +
      if (((driver.after calls).step call answers).driver.surfaces.slotAt index).generation =
        ((driver.after calls).surfaces.slotAt index).generation then 0 else 1 := by
  induction calls generalizing driver with
  | nil =>
    rw [List.nil_append]
    exact Nat.add_comm _ 0
  | cons first calls ih =>
    simp only [List.cons_append, retirements, ih, Nat.add_assoc]
    rfl

/-- A slot is retired at most once in a call. -/
theorem retirements_le_length (driver : Driver) (index : Nat) (calls : List (Call × Answers)) :
    driver.retirements index calls ≤ calls.length := by
  induction calls generalizing driver with
  | nil => exact Nat.le_refl 0
  | cons first calls ih =>
    have rest := ih (driver.step first.1 first.2).driver
    simp only [retirements, List.length_cons]
    split <;> omega

/-- In one call a slot either stays in its generation and keeps a value it has, or is retired. -/
theorem Transition.slotAt_generation {driver next : Driver} {call : Call} {answers : Answers}
    {result : Except DriverError Reply} {events : List Event}
    (path : Transition driver answers call next result events) (index : Nat) :
    ((next.surfaces.slotAt index).generation = (driver.surfaces.slotAt index).generation ∧
        ((driver.surfaces.slotAt index).value.isSome → (next.surfaces.slotAt index).value.isSome)) ∨
      (next.surfaces.slotAt index).generation = (driver.surfaces.slotAt index).generation + 1 := by
  cases path with
  | surfaceFailed _ _ _ _ _ _ _ _ _ _ forfeits =>
    rw [forfeits.slots]
    split
    · rename_i same
      exact .inr (by rw [same]; rfl)
    · exact .inl ⟨rfl, id⟩
  | surfaceCreated _ _ _ _ _ _ _ _ _ _ stores => exact (stores.follows index).generation
  | instanceDestroyed _ _ _ _ _ drains => exact (drains.follows index).generation
  | surfaceDestroyed _ _ _ _ _ retires => exact (retires.follows index).generation
  | _ => exact .inl ⟨rfl, id⟩

/-- A handle is answered only for a vacant slot, in the generation that the slot is in. -/
theorem Transition.stores_of_returned {driver next : Driver} {owner : InstanceHandle} {parent : HostWindow}
    {allocator : Allocator} {answers : Answers} {handle : SurfaceHandle} {events : List Event}
    (path : Transition driver answers (.createWin32Surface owner parent allocator) next
      (.ok (.handle handle)) events) :
    ∃ surface index, handle = Arena.handle index (driver.surfaces.slotAt index).generation ∧
      driver.surfaces.Stores surface next.surfaces index := by
  cases path with
  | surfaceCreated _ _ _ _ _ index _ _ _ _ stores => exact ⟨_, index, rfl, stores⟩
  | other _ _ _ query => cases query

/-- The count goes up exactly when the generation does. -/
theorem advances_after (windows : WindowSystem) (calls : List (Call × Answers)) (call : Call)
    (answers : Answers) :
    ((fresh windows).after calls).surfaces.Advances
      ((fresh windows).after (calls ++ [(call, answers)])).surfaces
      (fun index => (fresh windows).retirements index calls)
      fun index => (fresh windows).retirements index (calls ++ [(call, answers)]) := by
  intro index
  simp only [after_concat, retirements_concat]
  rcases (transition_after windows calls call answers).slotAt_generation index with ⟨same, keeps⟩ | retired
  · exact .inl ⟨by rw [if_pos same, Nat.add_zero], same, keeps⟩
  · have differs (generation : UInt32) : generation + 1 ≠ generation := by
      intro same
      have equal := congrArg UInt32.toNat same
      rw [UInt32.toNat_add] at equal
      simp only [UInt32.reduceToNat] at equal
      omega
    exact .inr ⟨by rw [if_neg (retired ▸ differs _)], retired⟩

/-- The generation of a slot is its number of retirements, as a word. -/
theorem countedBy_after (windows : WindowSystem) (calls : List (Call × Answers)) :
    ((fresh windows).after calls).surfaces.CountedBy
      fun index => (fresh windows).retirements index calls := by
  induction calls using List.reverseRecOn with
  | nil => exact Arena.countedBy_empty
  | append_singleton calls last ih => exact ih.advance (advances_after windows calls last.1 last.2)

/-- Every handle that was answered is used up. -/
theorem used_of_returned (windows : WindowSystem) (calls : List (Call × Answers)) (entry : Entry)
    (member : entry ∈ (fresh windows).history calls) (handle : SurfaceHandle)
    (returns : entry.Returns handle) :
    ((fresh windows).after calls).surfaces.Used
      (fun index => (fresh windows).retirements index calls) handle := by
  induction calls using List.reverseRecOn with
  | nil => simp [history] at member
  | append_singleton calls last ih =>
    obtain ⟨call, answers⟩ := last
    rw [history_concat, List.mem_append, List.mem_singleton] at member
    rcases member with early | rfl
    · exact (ih early).advance (advances_after windows calls call answers)
    · obtain ⟨owner, parent, allocator, rfl, answered⟩ := returns
      have path := transition_after windows calls (.createWin32Surface owner parent allocator) answers
      simp only at path answered
      rw [answered] at path
      obtain ⟨surface, index, rfl, stores⟩ := path.stores_of_returned
      have live := stores.get?_eq (wellFormed_after windows calls)
        (Arena.handle index (((fresh windows).after calls).surfaces.slotAt index).generation)
      rw [if_pos rfl, ← after_concat] at live
      exact (countedBy_after windows _).used (wellFormed_after windows _).size_le live

/-- As long as no slot comes around to a generation again, an answered handle is new. -/
theorem returned_handle_new (windows : WindowSystem) (calls : List (Call × Answers))
    (wrapless : ∀ index, (fresh windows).retirements index calls < 2 ^ 32) {owner : InstanceHandle}
    {parent : HostWindow} {allocator : Allocator} {answers : Answers} {handle : SurfaceHandle}
    (answered : (((fresh windows).after calls).step (.createWin32Surface owner parent allocator)
      answers).result = .ok (.handle handle)) :
    handle ≠ 0 ∧ ∀ entry ∈ (fresh windows).history calls, ¬ entry.Returns handle := by
  have path := transition_after windows calls (.createWin32Surface owner parent allocator) answers
  simp only at path
  rw [answered] at path
  obtain ⟨surface, index, rfl, stores⟩ := path.stores_of_returned
  refine ⟨Arena.handle_ne_zero stores.fits _, fun entry member returns => ?_⟩
  have used := used_of_returned windows calls entry member _ returns
  exact used.ne_vacant (countedBy_after windows calls) (wrapless index) stores.fits stores.vacant rfl

/-- What a destruction answers and emits, by what its handle means to the driver. -/
theorem Transition.destroySurface_outcome {driver next : Driver} {owner : InstanceHandle}
    {handle : SurfaceHandle} {allocator : Allocator} {answers : Answers}
    {result : Except DriverError Reply} {events : List Event} (sound : driver.surfaces.WellFormed)
    (path : Transition driver answers (.destroySurface owner handle allocator) next result events) :
    owner ∉ driver.instances ∧ result = .error (.invalidHandle .ofInstance owner) ∧ events = [] ∨
      owner ∈ driver.instances ∧ handle = 0 ∧ result = .ok .done ∧ events = [] ∨
      owner ∈ driver.instances ∧ handle ≠ 0 ∧
        (∀ surface, driver.surfaces.get? handle = some surface → surface.owner ≠ owner) ∧
        result = .error (.invalidHandle .ofSurface handle) ∧ events = [] ∨
      ∃ surface, owner ∈ driver.instances ∧ handle ≠ 0 ∧ surface.owner = owner ∧
        driver.surfaces.get? handle = some surface ∧ result = .ok .done ∧ events = teardown surface := by
  cases path with
  | destroyerDead _ _ _ dead => exact .inl ⟨dead, rfl, rfl⟩
  | surfaceNull _ _ live => exact .inr (.inl ⟨live, rfl, rfl, rfl⟩)
  | surfaceUnknown _ _ _ live nonzero unknown =>
    exact .inr (.inr (.inl ⟨live, nonzero, unknown, rfl, rfl⟩))
  | surfaceDestroyed _ surface _ index live retires =>
    exact .inr (.inr (.inr ⟨surface, live, Arena.handle_ne_zero (retires.fits sound) _, rfl,
      retires.found sound, rfl, rfl⟩))
  | other _ _ _ query => cases query

/-- Along every run, new handles are never null and never repeat an earlier one; a destruction succeeds
exactly for the null handle and for the handles outstanding on a live instance; it then releases what the
creation obtained, and in all other cases it does nothing and names what it refused. -/
theorem surface_handle_validity (windows : WindowSystem) (calls : List (Call × Answers)) :
    let driver := (fresh windows).after calls
    let history := (fresh windows).history calls
    ((∀ index, (fresh windows).retirements index calls < 2 ^ 32) →
      ∀ owner parent allocator answers handle,
        (driver.step (.createWin32Surface owner parent allocator) answers).result = .ok (.handle handle) →
        handle ≠ 0 ∧ ∀ entry ∈ history, ¬ entry.Returns handle) ∧
    ∀ owner handle allocator answers,
      let step := driver.step (.destroySurface owner handle allocator) answers
      (step.result = .ok .done ↔ owner ∈ driver.instances ∧
        (handle = 0 ∨ ∃ surface, surface.owner = owner ∧ Outstanding history handle surface)) ∧
      (step.result = .ok .done → handle ≠ 0 → ∃ surface, surface.owner = owner ∧
        Outstanding history handle surface ∧
        (∀ other, Outstanding history handle other → other = surface) ∧
        step.events =
          [.destroySurface owner surface.native .absent, .destroyWindow surface.window]) ∧
      (handle = 0 ∨ step.result ≠ .ok .done → step.events = []) ∧
      (step.result ≠ .ok .done → step.result = .error
        (if owner ∈ driver.instances then .invalidHandle .ofSurface handle
          else .invalidHandle .ofInstance owner)) := by
  refine ⟨fun wrapless _ _ _ _ _ answered => returned_handle_new windows calls wrapless answered, ?_⟩
  intro owner handle allocator answers
  simp only [← get?_iff_outstanding]
  rcases (transition_after windows calls (.destroySurface owner handle allocator)
    answers).destroySurface_outcome (wellFormed_after windows calls) with
    ⟨dead, result, events⟩ | ⟨live, rfl, result, events⟩ | ⟨live, nonzero, unknown, result, events⟩ |
    ⟨surface, live, nonzero, rfl, found, result, events⟩
  · simp [result, events, dead]
  · simp [result, events, live]
  · have none_owned : ¬ ∃ surface, surface.owner = owner ∧
        ((fresh windows).after calls).surfaces.get? handle = some surface :=
      fun ⟨surface, own, found⟩ => unknown surface found own
    simp [result, events, live, nonzero, none_owned]
  · simp [result, events, live, nonzero, found, teardown]

/-- An instance, a surface on it, and the surface's destruction: the next surface gets the same slot. -/
def slotReuse : List (Call × Answers) := [
  (.createInstance {} .absent, { written := some 16 }),
  (.createWin32Surface 16 7 .absent, { written := some 32, window := some 5 }),
  (.destroySurface 16 1 .absent, {})]

theorem surface_handle_validity_of_slotReuse :
    let driver := (fresh ⟨3, 4, 0⟩).after slotReuse
    let history := (fresh ⟨3, 4, 0⟩).history slotReuse
    let next : Call × Answers :=
      (.createWin32Surface 16 8 .absent, { written := some 33, window := some 6 })
    let later := (fresh ⟨3, 4, 0⟩).after (slotReuse ++ [next])
    ((∀ index, (fresh ⟨3, 4, 0⟩).retirements index slotReuse < 2 ^ 32) ∧
      (driver.step next.1 next.2).result = .ok (.handle 0x100000001) ∧
      (0x100000001 : UInt64) ≠ 0 ∧ ∀ entry ∈ history, ¬ entry.Returns 0x100000001) ∧
    (later.step (.destroySurface 16 0x100000001 .absent) {}).result = .ok .done ∧
    ∃ surface, surface.owner = 16 ∧
      Outstanding ((fresh ⟨3, 4, 0⟩).history (slotReuse ++ [next])) 0x100000001 surface ∧
      (later.step (.destroySurface 16 0x100000001 .absent) {}).events =
        [.destroySurface 16 surface.native .absent, .destroyWindow surface.window] := by
  intro driver history next later
  have few (index : Nat) : (fresh ⟨3, 4, 0⟩).retirements index slotReuse < 2 ^ 32 :=
    (retirements_le_length _ index slotReuse).trans_lt (by decide)
  have answered : (driver.step next.1 next.2).result = .ok (.handle 0x100000001) := by decide
  have new := (surface_handle_validity ⟨3, 4, 0⟩ slotReuse).1 few _ _ _ _ _ answered
  have done : (later.step (.destroySurface 16 0x100000001 .absent) {}).result = .ok .done := by decide
  obtain ⟨_, releases, _⟩ :=
    (surface_handle_validity ⟨3, 4, 0⟩ (slotReuse ++ [next])).2 16 0x100000001 .absent {}
  obtain ⟨surface, own, outstanding, _, events⟩ := releases done (by decide)
  exact ⟨⟨few, answered, new⟩, done, surface, own, outstanding, events⟩

end SurfaceBridge.Driver
