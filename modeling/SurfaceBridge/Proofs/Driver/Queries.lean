import SurfaceBridge.Proofs.Driver.History

/-! Calls that only ask. By its table of support the driver has nine entry points that are not implemented, one that
it answers by itself and three that it passes on; calls of these leave no trace in what the others do. -/
namespace SurfaceBridge

/-- Whether an entry point only asks: it is not implemented, or it changes neither instances nor surfaces. -/
def EntryPoint.onlyAsks (op : EntryPoint) : Bool :=
  op.support = .stub ∨ op ∈ [.enumerateInstanceExtensionProperties, .getDeviceProcAddr, .getInstanceProcAddr,
    .getPhysicalDeviceWin32PresentationSupport]

theorem Call.onlyAsks_eq (call : Call) : call.entryPoint.onlyAsks = !call.isLifecycle := by
  cases call <;> rfl

/-- What the outside world answers to a call, by all that left the driver before it. -/
abbrev World := List Event → Call → Answers

/-- Questions make no difference to what a creation or a destruction is answered. -/
def World.IgnoresQueries (world : World) : Prop :=
  ∀ past call, call.isLifecycle → world past call = world (past.filter fun event => !event.isQuery) call

namespace Driver
open Handle

/-- The calls of a run with the answers that a world has for them, after the events so far. -/
def meet (driver : Driver) (world : World) : List Event → List Call → List (Call × Answers)
  | _, [] => []
  | past, call :: calls =>
    let step := driver.step call (world past call)
    (call, world past call) :: step.driver.meet world (past ++ step.events) calls

/-- A call that only asks leaves the driver as it is, and only asks the native driver. -/
theorem step_of_query (driver : Driver) {call : Call} (query : call.isLifecycle = false) (answers : Answers) :
    (driver.step call answers).driver = driver ∧
      ∀ event ∈ (driver.step call answers).events, event.isQuery = true := by
  cases call with
  | createInstance | createWin32Surface | destroyInstance | destroySurface => cases query
  | getDeviceProcAddr | getInstanceProcAddr | presentationSupport =>
    exact ⟨rfl, List.forall_mem_singleton.mpr rfl⟩
  | _ => exact ⟨rfl, List.forall_mem_nil _⟩

/-- The other calls ask the native driver nothing. -/
theorem Transition.no_query {driver next : Driver} {call : Call} {answers : Answers}
    {result : Except DriverError Reply} {events : List Event}
    (path : Transition driver answers call next result events) (lifecycle : call.isLifecycle = true) :
    ∀ event ∈ events, event.isQuery = false := by
  cases path with
  | instanceDestroyed => exact forall_mem_teardowns (by simp [teardown, Event.isQuery]) _ rfl
  | other _ _ _ query => rw [query] at lifecycle; cases lifecycle
  | _ => simp [windowEvents, surfaceRequest, teardown, Event.isQuery]

/-- The events of a call that are no questions: all of them, or none. -/
theorem step_events_filter {driver : Driver} (sound : driver.surfaces.WellFormed) (call : Call)
    (answers : Answers) :
    (driver.step call answers).events.filter (fun event => !event.isQuery) =
      if call.isLifecycle then (driver.step call answers).events else [] := by
  cases lifecycle : call.isLifecycle with
  | true =>
    have silent := (step_transition sound call answers).no_query lifecycle
    exact List.filter_eq_self.mpr fun event member => by simp [silent event member]
  | false =>
    have queries := (driver.step_of_query lifecycle answers).2
    exact List.filter_eq_nil_iff.mpr fun event member => by simp [queries event member]

/-- Without the calls that only ask, a run comes to the same driver, with the same results and the same other
events. -/
theorem run_without_queries {driver : Driver} (sound : driver.surfaces.WellFormed)
    (calls : List (Call × Answers)) :
    driver.after (calls.filter fun call => call.1.isLifecycle) = driver.after calls ∧
      driver.trace (calls.filter fun call => call.1.isLifecycle) =
        (driver.trace calls).filter (fun event => !event.isQuery) ∧
      driver.history (calls.filter fun call => call.1.isLifecycle) =
        (driver.history calls).filter fun entry => entry.call.isLifecycle := by
  induction calls generalizing driver with
  | nil => exact ⟨rfl, rfl, rfl⟩
  | cons first calls ih =>
    obtain ⟨call, answers⟩ := first
    obtain ⟨state, events, entries⟩ := ih ((step_transition sound call answers).wellFormed sound)
    rw [after_cons, trace_cons, history_cons, List.filter_append, step_events_filter sound]
    cases lifecycle : call.isLifecycle with
    | true =>
      simp only [List.filter_cons, lifecycle, if_true, after_cons, trace_cons, history_cons, state, events,
        entries, and_self]
    | false =>
      rw [(driver.step_of_query lifecycle answers).1] at state events entries ⊢
      simp only [List.filter_cons, lifecycle, Bool.false_eq_true, if_false, List.nil_append, state, events,
        entries, and_self]

/-- If questions make no difference to a world, then the calls that remain meet the same answers without them. -/
theorem meet_filter {world : World} (deaf : world.IgnoresQueries) {driver : Driver}
    (sound : driver.surfaces.WellFormed) {past other : List Event}
    (same : past.filter (fun event => !event.isQuery) = other.filter fun event => !event.isQuery)
    (calls : List Call) :
    driver.meet world other (calls.filter fun call => call.isLifecycle) =
      (driver.meet world past calls).filter fun call => call.1.isLifecycle := by
  induction calls generalizing driver past other with
  | nil => rfl
  | cons call calls ih =>
    cases lifecycle : call.isLifecycle with
    | true =>
      have answers : world other call = world past call := by
        rw [deaf past call lifecycle, deaf other call lifecycle, same]
      have later := (step_transition sound call (world past call)).wellFormed sound
      simp only [meet, List.filter_cons, lifecycle, if_true, answers]
      rw [ih later]
      rw [List.filter_append, List.filter_append, same]
    | false =>
      obtain ⟨kept, queries⟩ := driver.step_of_query lifecycle (world past call)
      have silent : (driver.step call (world past call)).events.filter (fun event => !event.isQuery) = [] :=
        List.filter_eq_nil_iff.mpr fun event member => by simp [queries event member]
      simp only [meet, List.filter_cons, lifecycle, Bool.false_eq_true, if_false, kept]
      exact ih sound (by rw [List.filter_append, silent, List.append_nil, same])

/-- If questions make no difference to what the world answers to creations and destructions, then leaving out all
calls that only ask changes no result of the others, nor the live instances and surfaces at the end, nor the
events besides the questions. Each call that is left out is either not implemented, and says so without an event,
or is answered without one, or is passed on as it is, and its answer is the native driver's. -/
theorem queries_do_not_interfere (windows : WindowSystem) (world : World) (deaf : world.IgnoresQueries)
    (calls : List Call) :
    let met := (fresh windows).meet world [] calls
    let kept := (fresh windows).meet world [] (calls.filter fun call => !call.entryPoint.onlyAsks)
    (fresh windows).history kept =
      ((fresh windows).history met).filter (fun entry => !entry.call.entryPoint.onlyAsks) ∧
    (fresh windows).after kept = (fresh windows).after met ∧
    (fresh windows).trace kept = ((fresh windows).trace met).filter (fun event => !event.isQuery) ∧
    ∀ (driver : Driver) (answers : Answers),
      (∀ call, call.entryPoint.support = .stub →
        (driver.step call answers).result = .error (.notImplemented call.entryPoint) ∧
          (driver.step call answers).events = []) ∧
      (∀ layer buffer, (driver.step (.enumerateExtensions layer buffer) answers).events = []) ∧
      (∀ device name, let step := driver.step (.getDeviceProcAddr device name) answers
        step.events = [.getDeviceProcAddr device name] ∧ step.result = .ok (.address answers.address)) ∧
      (∀ handle name, let step := driver.step (.getInstanceProcAddr handle name) answers
        step.events = [.getInstanceProcAddr handle name] ∧ step.result = .ok (.address answers.address)) ∧
      ∀ device queueFamily, let step := driver.step (.presentationSupport device queueFamily) answers
        step.events =
            [.presentationSupport device queueFamily driver.windows.display driver.windows.visual] ∧
          step.result = .ok (.supported (answers.supported ≠ 0)) := by
  intro met kept
  have remains : kept = met.filter fun call => call.1.isLifecycle := by
    simp only [kept, Call.onlyAsks_eq, Bool.not_not]
    exact meet_filter deaf (wellFormed_after windows []) rfl calls
  obtain ⟨state, events, entries⟩ := run_without_queries (wellFormed_after windows []) met
  rw [← remains] at state events entries
  refine ⟨?_, state, events, ?_⟩
  · simp only [Call.onlyAsks_eq, Bool.not_not]
    exact entries
  · refine fun driver answers => ⟨fun call stub => ?_, fun _ _ => rfl, fun _ _ => ⟨rfl, rfl⟩,
      fun _ _ => ⟨rfl, rfl⟩, fun _ _ => ⟨rfl, rfl⟩⟩
    cases call with
    | createInstance | createWin32Surface | destroyInstance | destroySurface | enumerateExtensions
    | getDeviceProcAddr | getInstanceProcAddr | presentationSupport => cases stub
    | _ => exact ⟨rfl, rfl⟩

/-- A world that numbers what it creates by the events that are no questions, and addresses by all events. -/
def numberingWorld : World := fun past call =>
  let made := (past.filter fun event => !event.isQuery).length
  if call.isLifecycle then { written := some (.ofNat (16 + made)), window := some (.ofNat made) }
  else { address := some (.ofNat past.length) }

/-- The life of an instance and of a surface on it, with calls that only ask in between. -/
def askedBetween : List Call := [
  .getInstanceProcAddr 0 (.ofText "vkCreateInstance"), .createInstance {} .absent,
  .presentationSupport 9 0, .createWin32Surface 16 7 .absent, .surfaceCapabilities 9 1,
  .getDeviceProcAddr 9 (.ofText "vkQueuePresentKHR"), .destroySurface 16 1 .absent, .queuePresent 9,
  .enumerateExtensions none none, .createWin32Surface 16 7 .absent, .destroyInstance 16 .absent]

theorem queries_do_not_interfere_of_askedBetween :
    let met := (fresh ⟨3, 4, 0⟩).meet numberingWorld [] askedBetween
    let kept := (fresh ⟨3, 4, 0⟩).meet numberingWorld []
      (askedBetween.filter fun call => !call.entryPoint.onlyAsks)
    (numberingWorld.IgnoresQueries ∧ met.length = 11 ∧ kept.length = 5) ∧
    (fresh ⟨3, 4, 0⟩).after kept = (fresh ⟨3, 4, 0⟩).after met ∧
    (fresh ⟨3, 4, 0⟩).trace kept =
      ((fresh ⟨3, 4, 0⟩).trace met).filter (fun event => !event.isQuery) ∧
    ((fresh ⟨3, 4, 0⟩).trace kept).length = 12 := by
  intro met kept
  have deaf : numberingWorld.IgnoresQueries := by
    intro past call lifecycle
    simp only [numberingWorld, lifecycle, if_true, List.filter_filter, Bool.and_self]
  obtain ⟨_, state, events, _⟩ := queries_do_not_interfere ⟨3, 4, 0⟩ numberingWorld deaf askedBetween
  exact ⟨⟨deaf, by decide +kernel, by decide +kernel⟩, state, events, by decide +kernel⟩

end Driver
end SurfaceBridge
