import SurfaceBridge.Proofs.Driver.Transition
import SurfaceBridge.Proofs.Since

/-! Runs of a fresh driver: how they grow by one call, where an event of the trace comes from, and which
surfaces are outstanding by the calls and their results alone. The store holds exactly those. -/
namespace SurfaceBridge

/-- A call of a run, the answers it met, and its result. -/
structure Entry where
  call : Call
  answers : Answers
  result : Except DriverError Reply

namespace Entry

/-- The call answered with the handle of a new surface. -/
def Returns (entry : Entry) (handle : SurfaceHandle) : Prop :=
  ∃ owner parent allocator, entry.call = .createWin32Surface owner parent allocator ∧
    entry.result = .ok (.handle handle)

/-- The call answered with the handle and obtained this window and this native surface. -/
def Creates (entry : Entry) (handle : SurfaceHandle) (surface : Surface) : Prop :=
  ∃ parent allocator, entry.call = .createWin32Surface surface.owner parent allocator ∧
    entry.result = .ok (.handle handle) ∧ entry.answers.window = some surface.window ∧
    entry.answers.handle = surface.native

/-- The call destroyed the surface by its handle, or drained it with its instance. Destroying the null
instance succeeds and drains nothing. -/
def Ends (entry : Entry) (handle : SurfaceHandle) (owner : InstanceHandle) : Prop :=
  (∃ caller allocator, entry.call = .destroySurface caller handle allocator ∧ entry.result = .ok .done) ∨
    ∃ allocator, owner ≠ 0 ∧ entry.call = .destroyInstance owner allocator ∧ entry.result = .ok .done

end Entry

/-- Some call created the surface, and no later call destroyed or drained it. -/
def Outstanding (history : List Entry) (handle : SurfaceHandle) (surface : Surface) : Prop :=
  ∃ before entry after, history = before ++ entry :: after ∧ entry.Creates handle surface ∧
    ∀ later ∈ after, ¬ later.Ends handle surface.owner

theorem not_outstanding_nil (handle : SurfaceHandle) (surface : Surface) :
    ¬ Outstanding [] handle surface :=
  Since.not_nil

theorem outstanding_concat (history : List Entry) (entry : Entry) (handle : SurfaceHandle)
    (surface : Surface) :
    Outstanding (history ++ [entry]) handle surface ↔
      entry.Creates handle surface ∨
        Outstanding history handle surface ∧ ¬ entry.Ends handle surface.owner :=
  Since.concat history entry

namespace Driver
open Handle

/-- A driver that was not called yet. -/
def fresh (windows : WindowSystem) : Driver := { windows }

/-- The calls of a run with their results. -/
def history (driver : Driver) (calls : List (Call × Answers)) : List Entry :=
  List.zipWith (fun call step => ⟨call.1, call.2, step.result⟩) calls (driver.run calls)

variable (driver : Driver) (calls later : List (Call × Answers)) (call : Call) (answers : Answers)

theorem after_cons :
    driver.after ((call, answers) :: calls) = (driver.step call answers).driver.after calls := rfl

theorem trace_cons :
    driver.trace ((call, answers) :: calls) =
      (driver.step call answers).events ++ (driver.step call answers).driver.trace calls := rfl

theorem history_cons :
    driver.history ((call, answers) :: calls) =
      ⟨call, answers, (driver.step call answers).result⟩ ::
        (driver.step call answers).driver.history calls := rfl

theorem after_append : driver.after (calls ++ later) = (driver.after calls).after later :=
  List.foldl_append

theorem run_append :
    driver.run (calls ++ later) = driver.run calls ++ (driver.after calls).run later := by
  induction calls generalizing driver with
  | nil => rfl
  | cons first calls ih =>
    obtain ⟨firstCall, firstAnswers⟩ := first
    simp only [List.cons_append, run, ih]
    rfl

theorem length_run : (driver.run calls).length = calls.length := by
  induction calls generalizing driver with
  | nil => rfl
  | cons first calls ih => simp [run, ih]

theorem trace_append :
    driver.trace (calls ++ later) = driver.trace calls ++ (driver.after calls).trace later := by
  simp only [trace, run_append, List.flatMap_append]

theorem history_append :
    driver.history (calls ++ later) = driver.history calls ++ (driver.after calls).history later := by
  simp only [history, run_append]
  exact List.zipWith_append (driver.length_run calls).symm

@[simp] theorem after_concat :
    driver.after (calls ++ [(call, answers)]) = ((driver.after calls).step call answers).driver :=
  driver.after_append calls [(call, answers)]

@[simp] theorem trace_concat :
    driver.trace (calls ++ [(call, answers)]) =
      driver.trace calls ++ ((driver.after calls).step call answers).events := by
  rw [trace_append]
  simp [trace, run]

@[simp] theorem history_concat :
    driver.history (calls ++ [(call, answers)]) =
      driver.history calls ++ [⟨call, answers, ((driver.after calls).step call answers).result⟩] :=
  driver.history_append calls [(call, answers)]

variable {driver calls call answers}

/-- An event that occurs only at the end of a list has everything else before it. -/
theorem split_last {β : Type} {front inner tail : List β} {last event : β}
    (split : front ++ [last] = inner ++ event :: tail) (absent : event ∉ front) :
    inner = front ∧ last = event ∧ tail = [] := by
  rcases List.append_eq_append_iff.mp split with ⟨middle, rfl, here⟩ | ⟨middle, rfl, here⟩
  · cases middle with
    | nil =>
      obtain ⟨rfl, rfl⟩ := List.cons.inj here
      exact ⟨List.append_nil _, rfl, rfl⟩
    | cons first middle => simp at here
  · cases middle with
    | nil =>
      obtain ⟨rfl, rfl⟩ := List.cons.inj here
      exact ⟨(List.append_nil _).symm, rfl, rfl⟩
    | cons first middle =>
      obtain ⟨rfl, _⟩ := List.cons.inj here
      exact absurd (by simp) absent

/-- Every event of a trace belongs to one call of the run. -/
theorem trace_split {before rest : List Event} {event : Event}
    (split : driver.trace calls = before ++ event :: rest) :
    ∃ done call answers later inner tail, calls = done ++ (call, answers) :: later ∧
      ((driver.after done).step call answers).events = inner ++ event :: tail ∧
      before = driver.trace done ++ inner := by
  induction calls using List.reverseRecOn generalizing rest with
  | nil => simp [trace, run] at split
  | append_singleton calls last ih =>
    obtain ⟨call', answers'⟩ := last
    rw [trace_concat] at split
    rcases List.append_eq_append_iff.mp split with ⟨inner, rfl, here⟩ | ⟨tail, early, here⟩
    · exact ⟨calls, call', answers', [], inner, rest, rfl, here, rfl⟩
    · cases tail with
      | nil =>
        rw [List.append_nil] at early
        exact ⟨calls, call', answers', [], [], rest, rfl, here.symm, by rw [early, List.append_nil]⟩
      | cons first tail =>
        obtain ⟨rfl, _⟩ := List.cons.inj here
        obtain ⟨done, call, answers, later, inner, tail, rfl, events, before⟩ := ih early
        exact ⟨done, call, answers, later ++ [(call', answers')], inner, tail, by simp, events, before⟩

namespace Transition

variable {next : Driver} {result : Except DriverError Reply} {events : List Event}

theorem wellFormed (path : Transition driver answers call next result events)
    (sound : driver.surfaces.WellFormed) : next.surfaces.WellFormed := by
  cases path with
  | surfaceFailed _ _ _ _ _ _ _ _ _ _ forfeits => exact forfeits.wellFormed
  | surfaceCreated _ _ _ _ _ _ _ _ _ _ stores => exact stores.wellFormed
  | instanceDestroyed _ _ _ _ _ drains => exact drains.wellFormed
  | surfaceDestroyed _ _ _ _ _ retires => exact retires.wellFormed
  | _ => exact sound

/-- A handle resolves after a call if the call created it, or if it resolved before and the call did not
end it. -/
theorem get?_iff (path : Transition driver answers call next result events)
    (sound : driver.surfaces.WellFormed) (handle : SurfaceHandle) (surface : Surface) :
    next.surfaces.get? handle = some surface ↔
      Entry.Creates ⟨call, answers, result⟩ handle surface ∨
        driver.surfaces.get? handle = some surface ∧
          ¬ Entry.Ends ⟨call, answers, result⟩ handle surface.owner := by
  cases path with
  | surfaceFailed _ _ _ _ _ _ _ _ _ _ forfeits =>
    rw [forfeits.get?_eq]
    simp [Entry.Creates, Entry.Ends]
  | surfaceCreated owner _ _ window _ _ _ _ made _ stores =>
    rw [stores.get?_eq sound]
    obtain ⟨owner', window', native'⟩ := surface
    split
    · rename_i named
      subst named
      simp [Entry.Creates, Entry.Ends, stores.fresh sound, made, eq_comm]
    · rename_i other
      simp [Entry.Creates, Entry.Ends, Ne.symm other]
  | instanceNull allocator =>
    have lasting :
        ¬ Entry.Ends ⟨.destroyInstance 0 allocator, answers, .ok .done⟩ handle surface.owner := by
      rintro (⟨_, _, other, _⟩ | ⟨_, nonzero, same, _⟩)
      · cases other
      · exact nonzero (Call.destroyInstance.inj same).1.symm
    simp [Entry.Creates, lasting]
  | instanceDestroyed target allocator _ nonzero _ drains =>
    rw [drains.get?_eq sound, Option.filter_eq_some_iff]
    have ends : Entry.Ends ⟨.destroyInstance target allocator, answers, .ok .done⟩ handle
        surface.owner ↔ surface.owner = target := by
      constructor
      · rintro (⟨_, _, other, _⟩ | ⟨_, _, same, _⟩)
        · cases other
        · cases same
          rfl
      · rintro rfl
        exact .inr ⟨_, nonzero, rfl, rfl⟩
    simp [Entry.Creates, ends]
  | surfaceNull owner allocator =>
    by_cases null : handle = 0
    · subst null
      simp [Entry.Creates]
    · simp [Entry.Creates, Entry.Ends, Ne.symm null]
  | surfaceDestroyed _ _ _ _ _ retires =>
    rw [retires.get?_eq sound]
    split
    · rename_i named
      simp [Entry.Creates, Entry.Ends, named]
    · rename_i other
      simp [Entry.Creates, Entry.Ends, Ne.symm other]
  | other _ _ _ query =>
    cases call <;> simp_all [Entry.Creates, Entry.Ends, Call.isLifecycle]
  | _ => simp [Entry.Creates, Entry.Ends]

end Transition

theorem wellFormed_after (windows : WindowSystem) (calls : List (Call × Answers)) :
    ((fresh windows).after calls).surfaces.WellFormed := by
  induction calls using List.reverseRecOn with
  | nil => exact Arena.wellFormed_empty
  | append_singleton calls last ih =>
    obtain ⟨call, answers⟩ := last
    rw [after_concat]
    exact (step_transition ih call answers).wellFormed ih

/-- What a call of a reachable driver can do. -/
theorem transition_after (windows : WindowSystem) (calls : List (Call × Answers)) (call : Call)
    (answers : Answers) :
    let driver := (fresh windows).after calls
    let step := driver.step call answers
    Transition driver answers call step.driver step.result step.events :=
  step_transition (wellFormed_after windows calls) call answers

/-- The store of a reachable driver is the map of its outstanding surfaces. -/
theorem get?_iff_outstanding (windows : WindowSystem) (calls : List (Call × Answers))
    (handle : SurfaceHandle) (surface : Surface) :
    ((fresh windows).after calls).surfaces.get? handle = some surface ↔
      Outstanding ((fresh windows).history calls) handle surface := by
  induction calls using List.reverseRecOn with
  | nil =>
    refine iff_of_false ?_ (not_outstanding_nil handle surface)
    rw [(Arena.get?_eq_some_iff (wellFormed_after windows []).size_le)]
    rintro ⟨_, _, _, occupied⟩
    cases occupied
  | append_singleton calls last ih =>
    obtain ⟨call, answers⟩ := last
    rw [history_concat, outstanding_concat, after_concat, ← ih]
    exact (transition_after windows calls call answers).get?_iff (wellFormed_after windows calls)
      handle surface

end Driver
end SurfaceBridge
