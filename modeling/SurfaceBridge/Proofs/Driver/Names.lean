import SurfaceBridge.Proofs.Driver.History
import SurfaceBridge.Proofs.Handle.Naturality

/-! Windows and native surfaces are only names to the driver. It keeps those that a creation was answered, and hands
them back when the surface goes; so a run can be sketched with each surface known by the call that created it, and
the sketch fits whatever the names are. -/
namespace SurfaceBridge

/-- Answers to a call that differ in names alone: in the window, and in the native surface if one is asked for. -/
structure Answers.Alike (call : Call) (answers other : Answers) : Prop where
  code : other.code = answers.code
  written : call.entryPoint ≠ .createWin32Surface → other.written = answers.written
  desktop : other.desktop = answers.desktop
  window : other.window.isSome = answers.window.isSome
  address : other.address = answers.address
  supported : other.supported = answers.supported

/-- The native surface that a creation obtained. A failing one obtains none, whatever it wrote. -/
def Answers.obtained (answers : Answers) : NativeSurface :=
  if answers.code = .success then answers.handle else 0

namespace Event

/-- The event without the names of windows and native surfaces. -/
def anonymous : Event → Event
  | createXlibSurface owner info allocator code _ =>
    createXlibSurface owner { info with window := 0 } allocator code none
  | destroySurface owner _ allocator => destroySurface owner 0 allocator
  | createChildWindow parent visual window => createChildWindow parent visual (window.map fun _ => 0)
  | destroyWindow _ => destroyWindow 0
  | event => event

/-- The names in the event, if it has any, are the ones that the creation of a surface was answered. -/
def NamedBy (call : Call) (answers : Answers) : Event → Prop
  | createXlibSurface owner info _ _ written => ∃ parent allocator,
    call = .createWin32Surface owner parent allocator ∧ answers.window = some info.window ∧
      answers.written = written
  | destroySurface owner surface _ => ∃ parent allocator,
    call = .createWin32Surface owner parent allocator ∧ answers.code = .success ∧ answers.handle = surface
  | createChildWindow parent _ window => ∃ owner allocator,
    call = .createWin32Surface owner parent allocator ∧ answers.window = window
  | destroyWindow window => ∃ owner parent allocator,
    call = .createWin32Surface owner parent allocator ∧ answers.window = some window
  | _ => True

def Nameless (event : Event) : Prop :=
  event.anonymous = event ∧ ∀ call answers, event.NamedBy call answers

end Event

/-- Which call of a run created a surface, and on which instance. -/
structure Origin where
  position : Nat
  owner : InstanceHandle

namespace Origin

variable (calls : List Call) (answers : Nat → Answers) (origin : Origin)

/-- The surface, with the names that its creation was answered. -/
def surface : Surface where
  owner := origin.owner
  window := (answers origin.position).window.getD 0
  native := (answers origin.position).obtained

@[simp] theorem owner_surface : (origin.surface answers).owner = origin.owner := rfl

/-- A call of the run did create a surface there. -/
def Made : Prop := ∃ parent allocator,
  calls[origin.position]? = some (.createWin32Surface origin.owner parent allocator) ∧
    (answers origin.position).code = .success ∧ (answers origin.position).window.isSome

end Origin

/-- What a caller sees of a call: its result, the live instances, and how many surfaces are live. -/
def Step.seen (step : Step (Except DriverError Reply)) : Except DriverError Reply × List InstanceHandle × Nat :=
  (step.result, step.driver.instances, step.driver.surfaces.live)

namespace Driver
open Handle

/-- The calls of a run, each with its answers. -/
def answered (calls : List Call) (answers : Nat → Answers) : List (Call × Answers) :=
  calls.mapIdx fun n call => (call, answers n)

/-- Answers to the calls of a run that differ in names alone. -/
def AllAlike (calls : List Call) (answers other : Nat → Answers) : Prop :=
  ∀ n call, calls[n]? = some call → (answers n).Alike call (other n)

/-- Each event has its names from the call at the position beside it. -/
def Named (calls : List Call) (answers : Nat → Answers) : List Nat → List Event → Prop :=
  List.Forall₂ fun n event => ∃ call, calls[n]? = some call ∧ event.NamedBy call (answers n)

theorem AllAlike.refl (calls : List Call) (answers : Nat → Answers) : AllAlike calls answers answers :=
  fun _ _ _ => ⟨rfl, fun _ => rfl, rfl, rfl, rfl, rfl⟩

/-- A driver whose surfaces are known by their origins. -/
structure Plan where
  instances : List InstanceHandle
  origins : Arena Origin

def Plan.driver (plan : Plan) (windows : WindowSystem) (answers : Nat → Answers) : Driver where
  windows := windows
  instances := plan.instances
  surfaces := plan.origins.map (·.surface answers)

/-- What happens, without names: the driver afterwards, a result, the events, and for each event the call that it
has its names from. -/
structure Sketch (ρ : Type) extends Plan where
  result : ρ
  shape : List Event
  creations : List Nat

/-- The sketch with the names that some answers give. -/
structure Sketch.Fits {ρ : Type} (sketch : Sketch ρ) (windows : WindowSystem) (calls : List Call)
    (answers : Nat → Answers) (driver : Driver) (result : ρ) (events : List Event) : Prop where
  driver : driver = sketch.driver windows answers
  result : result = sketch.result
  shape : events.map Event.anonymous = sketch.shape
  names : Named calls answers sketch.creations events

/-- One sketch of a call fits all answers that differ in names alone. -/
def Sketchable (windows : WindowSystem) (calls : List Call) (answers : Nat → Answers) (n : Nat) (plan : Plan)
    (call : Call) : Prop :=
  ∃ sketch : Sketch (Except DriverError Reply),
    (∀ origin ∈ sketch.origins.values, origin.Made calls answers) ∧
    ∀ other, AllAlike calls answers other →
      let step := (plan.driver windows other).step call (other n)
      sketch.Fits windows calls other step.driver step.result step.events

variable {windows : WindowSystem} {calls : List Call} {answers : Nat → Answers} {n : Nat} {plan : Plan}

/-- A call without names in its events that goes the same way under all names. -/
theorem nameless_sketchable {call : Call} (here : calls[n]? = some call) (next : Plan)
    (made : ∀ origin ∈ next.origins.values, origin.Made calls answers) (result : Except DriverError Reply)
    (events : List Event) (nameless : ∀ event ∈ events, event.Nameless)
    (goes : ∀ other, (answers n).Alike call (other n) →
      let step := (plan.driver windows other).step call (other n)
      step.driver = next.driver windows other ∧ step.result = result ∧ step.events = events) :
    Sketchable windows calls answers n plan call := by
  refine ⟨⟨next, result, events, events.map fun _ => n⟩, made, fun other alike => ?_⟩
  obtain ⟨reached, answered, asked⟩ := goes other (alike n call here)
  refine ⟨reached, answered, ?_, ?_⟩
  · rw [asked]
    exact (List.map_congr_left fun event member => (nameless event member).1).trans (List.map_id' events)
  · rw [asked, Named, List.forall₂_map_left_iff, List.forall₂_same]
    exact fun event member => ⟨call, here, (nameless event member).2 call (other n)⟩

/-- A call without events that is answered the same under all names, and leaves the driver as it is. -/
theorem silent_sketchable {call : Call} (here : calls[n]? = some call)
    (made : ∀ origin ∈ plan.origins.values, origin.Made calls answers) (result : Except DriverError Reply)
    (goes : ∀ other, let step := (plan.driver windows other).step call (other n)
      step.driver = plan.driver windows other ∧ step.result = result ∧ step.events = []) :
    Sketchable windows calls answers n plan call :=
  nameless_sketchable here plan made result [] (List.forall_mem_nil _) fun other _ => goes other

theorem createInstance_sketchable {info : InstanceInfo} {allocator : Allocator}
    (here : calls[n]? = some (.createInstance info allocator))
    (made : ∀ origin ∈ plan.origins.values, origin.Made calls answers) :
    Sketchable windows calls answers n plan (.createInstance info allocator) := by
  let event := Event.createInstance (Translation.ofInfo info).native .absent (answers n).code (answers n).written
  have nameless : ∀ asked ∈ [event], asked.Nameless :=
    List.forall_mem_singleton.mpr ⟨rfl, fun _ _ => trivial⟩
  by_cases success : (answers n).code = .success
  · refine nameless_sketchable here { plan with instances := plan.instances.insert (answers n).handle } made
      (.ok (.handle (answers n).handle)) [event] nameless fun other alike => ?_
    have handle : (other n).handle = (answers n).handle := by simp only [Answers.handle, alike.written nofun]
    simp only [step, Step.map, createInstance, alike.code, success, if_true, alike.written nofun, handle]
    exact ⟨rfl, rfl, by simp only [event, success]⟩
  · refine nameless_sketchable here plan made (.error (.native (answers n).code)) [event] nameless
      fun other alike => ?_
    simp [step, Step.map, createInstance, alike.code, success, alike.written nofun, event, Except.map, Plan.driver]

section Windowed

variable {owner : InstanceHandle} {parent : HostWindow} {allocator : Allocator}

theorem Named.windowed {window : Window} {creations : List Nat} {events : List Event}
    (rest : Named calls answers creations events)
    (here : calls[n]? = some (.createWin32Surface owner parent allocator))
    (given : (answers n).window = some window) :
    Named calls answers (n :: n :: creations)
      (.parentIsDesktop parent :: .createChildWindow parent windows.visual (some window) :: events) :=
  .cons ⟨_, here, trivial⟩ (.cons ⟨_, here, owner, allocator, rfl, given⟩ rest)

variable (sound : plan.origins.WellFormed)
  (here : calls[n]? = some (.createWin32Surface owner parent allocator))
  (made : ∀ origin ∈ plan.origins.values, origin.Made calls answers) (live : owner ∈ plan.instances)
  (desktop : (answers n).desktop = true) (windowed : (answers n).window.isSome)
include sound here made live desktop windowed

private theorem full_sketchable (full : plan.origins.insert ⟨n, owner⟩ = none) :
    Sketchable windows calls answers n plan (.createWin32Surface owner parent allocator) := by
  refine ⟨⟨plan, .error .outOfHostMemory, [.parentIsDesktop parent,
    .createChildWindow parent windows.visual (some 0), .destroyWindow 0], [n, n, n]⟩, made,
    fun other alike => ?_⟩
  obtain ⟨-, -, sameDesktop, sameWindow, -⟩ := alike n _ here
  obtain ⟨window, given⟩ := Option.isSome_iff_exists.mp (sameWindow.trans windowed)
  have full := Arena.insert_map_eq_none (·.surface other) sound full ⟨owner, window, 0⟩
  simp only [step, Step.map, createWin32Surface, check, Plan.driver, live, if_true, sameDesktop, desktop, given,
    full]
  exact ⟨rfl, rfl, rfl, .windowed (.cons ⟨_, here, owner, parent, allocator, rfl, given⟩ .nil) here given⟩

private theorem created_sketchable {word : SurfaceHandle} {stored : Arena Origin}
    (done : plan.origins.insert ⟨n, owner⟩ = some (word, stored)) (success : (answers n).code = .success) :
    Sketchable windows calls answers n plan (.createWin32Surface owner parent allocator) := by
  refine ⟨⟨{ plan with origins := stored }, .ok (.handle word), [.parentIsDesktop parent,
    .createChildWindow parent windows.visual (some 0),
    .createXlibSurface owner { display := windows.display, window := 0 } .absent .success none], [n, n, n]⟩, ?_,
    fun other alike => ?_⟩
  · obtain ⟨_, _, stores⟩ := Arena.insert_spec sound done
    intro origin member
    rcases List.mem_cons.mp (stores.values.mem_iff.mp member) with rfl | old
    · exact ⟨parent, allocator, here, success, windowed⟩
    · exact made origin old
  · obtain ⟨code, -, sameDesktop, sameWindow, -⟩ := alike n _ here
    obtain ⟨window, given⟩ := Option.isSome_iff_exists.mp (sameWindow.trans windowed)
    have surface : Origin.surface other ⟨n, owner⟩ = ⟨owner, window, (other n).handle⟩ := by
      simp [Origin.surface, Answers.obtained, given, code, success]
    have mapped := Arena.insert_map (·.surface other) plan.origins ⟨n, owner⟩
    rw [done, surface, Option.map_some, Prod.map, id] at mapped
    -- The surface is stored before its native name is known, and the name is filled in.
    obtain ⟨blank, taken, filled⟩ := Arena.insert_of_modify ((Arena.wellFormed_map _ _).mpr sound)
      (fun surface : Surface => { surface with native := (other n).handle }) ⟨owner, window, 0⟩ mapped
    simp only [step, Step.map, createWin32Surface, check, Plan.driver, live, if_true, sameDesktop, desktop, given,
      taken, code, success, filled, Bool.not_true, Bool.false_eq_true, if_false]
    exact ⟨rfl, rfl, rfl, .windowed (.cons ⟨_, here, parent, allocator, rfl, given, rfl⟩ .nil) here given⟩

private theorem refused_sketchable {word : SurfaceHandle} {stored : Arena Origin}
    (done : plan.origins.insert ⟨n, owner⟩ = some (word, stored)) (failed : (answers n).code ≠ .success) :
    Sketchable windows calls answers n plan (.createWin32Surface owner parent allocator) := by
  obtain ⟨rest, _, taken, forfeits⟩ := Arena.remove?_insert sound done
  refine ⟨⟨{ plan with origins := rest }, .error (.native (answers n).code), [.parentIsDesktop parent,
    .createChildWindow parent windows.visual (some 0),
    .createXlibSurface owner { display := windows.display, window := 0 } .absent (answers n).code none,
    .destroyWindow 0], [n, n, n, n]⟩,
    fun origin member => made origin (forfeits.values.mem_iff.mp member), fun other alike => ?_⟩
  obtain ⟨code, -, sameDesktop, sameWindow, -⟩ := alike n _ here
  obtain ⟨window, given⟩ := Option.isSome_iff_exists.mp (sameWindow.trans windowed)
  have surface : Origin.surface other ⟨n, owner⟩ = ⟨owner, window, 0⟩ := by
    simp [Origin.surface, Answers.obtained, given, code, failed]
  have mapped := Arena.insert_map (·.surface other) plan.origins ⟨n, owner⟩
  rw [done, surface, Option.map_some, Prod.map, id] at mapped
  have restored := Arena.remove?_map (·.surface other) stored word
  rw [taken, Option.map_some, Prod.map, surface] at restored
  simp only [step, Step.map, createWin32Surface, check, Plan.driver, live, if_true, sameDesktop, desktop, given,
    mapped, code, failed, restored, Bool.not_true, Bool.false_eq_true, if_false]
  exact ⟨rfl, rfl, rfl, .windowed (.cons ⟨_, here, parent, allocator, rfl, given, rfl⟩
    (.cons ⟨_, here, owner, parent, allocator, rfl, given⟩ .nil)) here given⟩

end Windowed

theorem createWin32Surface_sketchable {owner : InstanceHandle} {parent : HostWindow} {allocator : Allocator}
    (sound : plan.origins.WellFormed) (here : calls[n]? = some (.createWin32Surface owner parent allocator))
    (made : ∀ origin ∈ plan.origins.values, origin.Made calls answers) :
    Sketchable windows calls answers n plan (.createWin32Surface owner parent allocator) := by
  by_cases live : owner ∈ plan.instances
  case neg =>
    exact silent_sketchable here made (.error (.invalidHandle .ofInstance owner)) fun _ => by
      simp [step, Step.map, createWin32Surface, check, Plan.driver, live, Except.map]
  cases desktop : (answers n).desktop with
  | false =>
    refine nameless_sketchable here plan made (.error .incompatibleDriver) [.parentIsDesktop parent]
      (List.forall_mem_singleton.mpr ⟨rfl, fun _ _ => trivial⟩) fun other alike => ?_
    simp [step, Step.map, createWin32Surface, check, Plan.driver, live, alike.desktop, desktop, Except.map]
  | true =>
    cases windowed : (answers n).window with
    | none =>
      refine ⟨⟨plan, .error .outOfHostMemory, [.parentIsDesktop parent,
        .createChildWindow parent windows.visual none], [n, n]⟩, made, fun other alike => ?_⟩
      obtain ⟨-, -, sameDesktop, sameWindow, -⟩ := alike n _ here
      have failed : (other n).window = none := by simpa [windowed] using sameWindow
      simp only [step, Step.map, createWin32Surface, check, Plan.driver, live, if_true, sameDesktop, desktop,
        failed]
      exact ⟨rfl, rfl, rfl, .cons ⟨_, here, trivial⟩ (.cons ⟨_, here, owner, allocator, rfl, failed⟩ .nil)⟩
    | some window =>
      have windowed : (answers n).window.isSome := by rw [windowed]; rfl
      cases done : plan.origins.insert ⟨n, owner⟩ with
      | none => exact full_sketchable sound here made live desktop windowed done
      | some place =>
        by_cases success : (answers n).code = .success
        · exact created_sketchable sound here made live desktop windowed done success
        · exact refused_sketchable sound here made live desktop windowed done success

theorem AllAlike.made {other : Nat → Answers} (alike : AllAlike calls answers other) {origin : Origin}
    (made : origin.Made calls answers) : origin.Made calls other := by
  obtain ⟨parent, allocator, here, success, windowed⟩ := made
  obtain ⟨code, -, -, sameWindow, -⟩ := alike _ _ here
  exact ⟨parent, allocator, here, code.trans success, sameWindow.trans windowed⟩

/-- Surfaces of one instance are torn down under the names that their creations were answered. -/
theorem Named.teardown {owner : InstanceHandle} {creations : List Nat} {events : List Event}
    (rest : Named calls answers creations events) (left : List Origin)
    (made : ∀ origin ∈ left, origin.Made calls answers ∧ origin.owner = owner) :
    Named calls answers ((left.flatMap fun origin => [origin.position, origin.position]) ++ creations)
      (((left.map (·.surface answers)).flatMap fun surface =>
        [.destroySurface owner surface.native .absent, .destroyWindow surface.window]) ++ events) := by
  induction left with
  | nil => exact rest
  | cons origin left ih =>
    obtain ⟨⟨⟨parent, allocator, here, success, windowed⟩, rfl⟩, others⟩ := List.forall_mem_cons.mp made
    obtain ⟨window, given⟩ := Option.isSome_iff_exists.mp windowed
    refine .cons ⟨_, here, parent, allocator, rfl, success, ?_⟩
      (.cons ⟨_, here, origin.owner, parent, allocator, rfl, ?_⟩ (ih others))
    · simp [Origin.surface, Answers.obtained, success]
    · simp [Origin.surface, given]

theorem destroyInstance_sketchable {handle : InstanceHandle} {allocator : Allocator}
    (sound : plan.origins.WellFormed) (here : calls[n]? = some (.destroyInstance handle allocator))
    (made : ∀ origin ∈ plan.origins.values, origin.Made calls answers) :
    Sketchable windows calls answers n plan (.destroyInstance handle allocator) := by
  by_cases null : handle = 0
  · exact silent_sketchable here made (.ok .done) fun _ => by
      simp [step, Step.map, destroyInstance, null, Except.map]
  by_cases live : handle ∈ plan.instances
  case neg =>
    exact silent_sketchable here made (.error (.invalidHandle .ofInstance handle)) fun _ => by
      simp [step, Step.map, destroyInstance, Plan.driver, null, live, Except.map]
  let drained := plan.origins.drain fun origin => origin.owner = handle
  refine ⟨⟨⟨plan.instances.erase handle, drained.2⟩, .ok .done,
    (drained.1.flatMap fun _ => [.destroySurface handle 0 .absent, .destroyWindow 0]) ++
      [.destroyInstance handle .absent],
    (drained.1.flatMap fun origin => [origin.position, origin.position]) ++ [n]⟩,
    fun origin member => ?_, fun other alike => ?_⟩
  · rw [(Arena.drain_spec sound _).values] at member
    exact made origin (List.mem_of_mem_filter member)
  · have mapped : SurfaceStore.drainFor (plan.origins.map (·.surface other)) handle =
        (drained.1.map (·.surface other), drained.2.map (·.surface other)) :=
      Arena.drain_map (Origin.surface other) plan.origins fun surface => surface.owner = handle
    simp only [step, Step.map, destroyInstance, Plan.driver, null, live, if_false, if_true, mapped]
    refine ⟨rfl, rfl, ?_, ?_⟩
    · simp [List.map_flatMap, List.flatMap_map, Event.anonymous]
    · have last : Named calls other [n] [.destroyInstance handle .absent] := .cons ⟨_, here, trivial⟩ .nil
      refine last.teardown drained.1 fun origin member => ?_
      obtain ⟨held, own⟩ := List.mem_filter.mp member
      exact ⟨alike.made (made origin held), of_decide_eq_true own⟩

theorem destroySurface_sketchable {owner : InstanceHandle} {handle : SurfaceHandle} {allocator : Allocator}
    (sound : plan.origins.WellFormed) (here : calls[n]? = some (.destroySurface owner handle allocator))
    (made : ∀ origin ∈ plan.origins.values, origin.Made calls answers) :
    Sketchable windows calls answers n plan (.destroySurface owner handle allocator) := by
  by_cases live : owner ∈ plan.instances
  case neg =>
    exact silent_sketchable here made (.error (.invalidHandle .ofInstance owner)) fun _ => by
      simp [step, Step.map, destroySurface, check, Plan.driver, live, Except.map]
  by_cases null : handle = 0
  · exact silent_sketchable here made (.ok .done) fun _ => by
      simp [step, Step.map, destroySurface, check, Plan.driver, live, null, Except.map]
  have known (other : Nat → Answers) := Arena.get?_map (·.surface other) plan.origins handle
  cases found : plan.origins.get? handle with
  | none =>
    exact silent_sketchable here made (.error (.invalidHandle .ofSurface handle)) fun _ => by
      simp [step, Step.map, destroySurface, check, Plan.driver, live, null, SurfaceStore.take, known, found,
        Except.map]
  | some origin =>
    by_cases own : origin.owner = owner
    case neg =>
      exact silent_sketchable here made (.error (.invalidHandle .ofSurface handle)) fun _ => by
        simp [step, Step.map, destroySurface, check, Plan.driver, live, null, SurfaceStore.take, known, found, own,
          Except.map]
    obtain ⟨rest, taken⟩ := Arena.remove?_of_get? found
    obtain ⟨_, _, retires⟩ := Arena.remove?_spec sound taken
    refine ⟨⟨{ plan with origins := rest }, .ok .done, [.destroySurface owner 0 .absent, .destroyWindow 0],
      [origin.position, origin.position]⟩, fun kept member => ?_, fun other alike => ?_⟩
    · exact made kept (retires.values.mem_iff.mpr (List.mem_cons_of_mem _ member))
    · have removed := Arena.remove?_map (·.surface other) plan.origins handle
      rw [taken, Option.map_some, Prod.map] at removed
      have created := alike.made (made origin (retires.values.mem_iff.mpr List.mem_cons_self))
      have names : Named calls other _ _ := Named.teardown .nil [origin] (by simpa using ⟨created, own⟩)
      simp only [step, Step.map, destroySurface, check, Plan.driver, live, null, if_true, if_false,
        SurfaceStore.take, known, found, Option.map_some, Origin.owner_surface, own, removed]
      exact ⟨rfl, rfl, rfl, names⟩

theorem step_sketchable {call : Call} (sound : plan.origins.WellFormed) (here : calls[n]? = some call)
    (made : ∀ origin ∈ plan.origins.values, origin.Made calls answers) :
    Sketchable windows calls answers n plan call := by
  cases call with
  | createInstance => exact createInstance_sketchable here made
  | createWin32Surface => exact createWin32Surface_sketchable sound here made
  | destroyInstance => exact destroyInstance_sketchable sound here made
  | destroySurface => exact destroySurface_sketchable sound here made
  | getDeviceProcAddr device name =>
    exact nameless_sketchable here plan made (.ok (.address (answers n).address)) [.getDeviceProcAddr device name]
      (List.forall_mem_singleton.mpr ⟨rfl, fun _ _ => trivial⟩)
      fun other alike => ⟨rfl, by rw [← alike.address]; rfl, rfl⟩
  | getInstanceProcAddr handle name =>
    exact nameless_sketchable here plan made (.ok (.address (answers n).address))
      [.getInstanceProcAddr handle name] (List.forall_mem_singleton.mpr ⟨rfl, fun _ _ => trivial⟩)
      fun other alike => ⟨rfl, by rw [← alike.address]; rfl, rfl⟩
  | presentationSupport device queueFamily =>
    exact nameless_sketchable here plan made (.ok (.supported ((answers n).supported ≠ 0)))
      [.presentationSupport device queueFamily windows.display windows.visual]
      (List.forall_mem_singleton.mpr ⟨rfl, fun _ _ => trivial⟩)
      fun other alike => ⟨rfl, by rw [← alike.supported]; rfl, rfl⟩
  | enumerateExtensions layer buffer =>
    exact silent_sketchable here made
      ((plan.driver windows answers).step (.enumerateExtensions layer buffer) (answers n)).result
      fun _ => ⟨rfl, rfl, rfl⟩
  | _ => exact silent_sketchable here made (.error (.notImplemented _)) fun _ => ⟨rfl, rfl, rfl⟩

theorem take_answered (other : Nat → Answers) {call : Call} (here : calls[n]? = some call) :
    (answered calls other).take (n + 1) = (answered calls other).take n ++ [(call, other n)] := by
  rw [List.take_add_one, answered, List.getElem?_mapIdx, here]
  rfl

/-- One sketch of a run fits all answers that differ in names alone. -/
theorem run_sketchable (windows : WindowSystem) (calls : List Call) (answers : Nat → Answers) {n : Nat}
    (within : n ≤ calls.length) :
    ∃ sketch : Sketch (List (Except DriverError Reply × List InstanceHandle × Nat)),
      (∀ origin ∈ sketch.origins.values, origin.Made calls answers) ∧
      ∀ other, AllAlike calls answers other →
        let taken := (answered calls other).take n
        sketch.Fits windows calls other ((fresh windows).after taken)
          (((fresh windows).run taken).map Step.seen) ((fresh windows).trace taken) := by
  induction n with
  | zero =>
    refine ⟨⟨⟨[], {}⟩, [], [], []⟩, List.forall_mem_nil _, fun other _ => ⟨?_, rfl, rfl, .nil⟩⟩
    rw [Plan.driver, Arena.map_empty]
    rfl
  | succ n ih =>
    have here := List.getElem?_eq_getElem within
    obtain ⟨before, made, fits⟩ := ih (Nat.le_of_lt within)
    have sound : before.origins.WellFormed := by
      -- The origins lie in the slots of the run's own store, which is reachable.
      have reached := wellFormed_after windows ((answered calls answers).take n)
      rw [(fits answers (.refl calls answers)).driver] at reached
      exact (Arena.wellFormed_map _ _).mp reached
    obtain ⟨next, made, step⟩ := step_sketchable sound here made
    refine ⟨⟨next.toPlan, before.result ++ [(next.result, next.instances, next.origins.live)],
      before.shape ++ next.shape, before.creations ++ next.creations⟩, made, fun other alike => ?_⟩
    obtain ⟨driver, result, shape, names⟩ := fits other alike
    obtain ⟨driver', result', shape', names'⟩ := step other alike
    rw [← driver] at driver' result' shape' names'
    simp only [take_answered other here, after_concat, trace_concat, run_append]
    refine ⟨driver', ?_, ?_, List.rel_append names names'⟩
    · rw [List.map_append, result]
      simp [run, Step.seen, result', driver', Plan.driver, Arena.map]
    · rw [List.map_append, shape, shape']

/-- Two runs of the same calls whose answers differ in the names of windows and native surfaces alone: each call has
the same result, and leaves the same instances live and as many surfaces; the events are the same but for the names;
and the names in an event are in both runs the ones that the same call was answered, the creation of the surface. -/
theorem names_make_no_difference (windows : WindowSystem) (calls : List Call) (answers : Nat → Answers) :
    ∃ creations : List Nat, ∀ other, AllAlike calls answers other →
      let given := answered calls answers
      let changed := answered calls other
      ((fresh windows).run changed).map Step.seen = ((fresh windows).run given).map Step.seen ∧
      ((fresh windows).trace changed).map Event.anonymous =
        ((fresh windows).trace given).map Event.anonymous ∧
      Named calls answers creations ((fresh windows).trace given) ∧
      Named calls other creations ((fresh windows).trace changed) := by
  obtain ⟨sketch, _, fits⟩ := run_sketchable windows calls answers (Nat.le_refl calls.length)
  refine ⟨sketch.creations, fun other alike => ?_⟩
  obtain ⟨_, result, shape, names⟩ := fits answers (.refl calls answers)
  obtain ⟨_, result', shape', names'⟩ := fits other alike
  have whole (other : Nat → Answers) : (answered calls other).take calls.length = answered calls other :=
    List.take_of_length_le (by simp [answered])
  rw [whole] at result shape names result' shape' names'
  exact ⟨result'.trans result.symm, shape'.trans shape.symm, names, names'⟩

/-- An instance with two surfaces, of which one is destroyed by itself and one with the instance. -/
def twoSurfaces : List Call := [
  .createInstance {} .absent, .createWin32Surface 16 7 .absent, .createWin32Surface 16 7 .absent,
  .destroySurface 16 1 .absent, .destroyInstance 16 .absent]

def distinctNames : Nat → Answers
  | 1 => { written := some 21, window := some 31 }
  | 2 => { written := some 22, window := some 32 }
  | _ => { written := some 16 }

/-- Both surfaces are null, in the same window. -/
def sharedNames : Nat → Answers
  | 1 | 2 => { written := some 0, window := some 31 }
  | _ => { written := some 16 }

theorem names_make_no_difference_of_sharedNames :
    let given := (fresh ⟨3, 4, 0⟩).run (answered twoSurfaces distinctNames)
    let changed := (fresh ⟨3, 4, 0⟩).run (answered twoSurfaces sharedNames)
    (AllAlike twoSurfaces distinctNames sharedNames ∧
      given.map (·.events) ≠ changed.map (·.events)) ∧ changed.map Step.seen = given.map Step.seen := by
  intro given changed
  have alike : AllAlike twoSurfaces distinctNames sharedNames := by
    intro n call here
    match n with
    | 0 => exact ⟨rfl, fun _ => rfl, rfl, rfl, rfl, rfl⟩
    | 1 | 2 =>
      cases here
      exact ⟨rfl, fun other => absurd rfl other, rfl, rfl, rfl, rfl⟩
    | _ + 3 => exact ⟨rfl, fun _ => rfl, rfl, rfl, rfl, rfl⟩
  obtain ⟨_, same⟩ := names_make_no_difference ⟨3, 4, 0⟩ twoSurfaces distinctNames
  exact ⟨⟨alike, by decide⟩, (same sharedNames alike).1⟩

end Driver
end SurfaceBridge
