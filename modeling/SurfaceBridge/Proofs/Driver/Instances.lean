import SurfaceBridge.Proofs.Driver.Accounting
import Mathlib.Data.List.Infix

/-! The life of instances, as the trace tells it. The registry holds exactly the instances that stand: created, and
not destroyed since. A handle may stand again after its instance was destroyed, and no surface of the old instance
is left then. -/
namespace SurfaceBridge

/-- The event neither creates nor destroys an instance. -/
def Event.SparesInstances (event : Event) : Prop :=
  event.madeInstance? = none ∧ event.destroyedInstance? = none

/-- Some event created the instance, and no later event destroyed it. -/
def InstanceStands (events : List Event) (handle : InstanceHandle) : Prop :=
  ∃ before event after, events = before ++ event :: after ∧ event.madeInstance? = some handle ∧
    ∀ later ∈ after, ¬ later.destroyedInstance? = some handle

instance (handle : InstanceHandle) : DecidablePred fun events => InstanceStands events handle :=
  Since.decidable

/-- Every instance that the native driver reports as created is one that does not stand at that moment. -/
def CreatesAnew (trace : List Event) : Prop :=
  ∀ before event rest handle, trace = before ++ event :: rest → event.madeInstance? = some handle →
    ¬ InstanceStands before handle

theorem CreatesAnew.of_append {front back : List Event} (anew : CreatesAnew (front ++ back)) :
    CreatesAnew front := by
  rintro before event rest handle rfl
  exact anew before event (rest ++ back) handle (by simp)

namespace Driver
open Handle

/-- What a call did to the instances, and the events that tell of it. -/
inductive InstanceChange (driver next : Driver) : List Event → Prop where
  | kept (events) : (∀ event ∈ events, event.SparesInstances) → next.instances = driver.instances →
      InstanceChange driver next events
  | made (event handle) : event.madeInstance? = some handle → event.destroyedInstance? = none →
      next.instances = driver.instances.insert handle → InstanceChange driver next [event]
  | destroyed (front handle) : (∀ event ∈ front, event.SparesInstances) → handle ∈ driver.instances →
      next.instances = driver.instances.erase handle →
      InstanceChange driver next (front ++ [.destroyInstance handle .absent])

private theorem spares_of_isQuery {event : Event} (query : event.isQuery) : event.SparesInstances := by
  cases event with
  | getDeviceProcAddr | getInstanceProcAddr | presentationSupport => exact ⟨rfl, rfl⟩
  | _ => cases query

private theorem windowEvents_spare (driver : Driver) (parent : HostWindow) (window : Option Window) :
    ∀ event ∈ driver.windowEvents parent window, event.SparesInstances :=
  List.forall_mem_cons.mpr ⟨⟨rfl, rfl⟩, List.forall_mem_singleton.mpr ⟨rfl, rfl⟩⟩

private theorem teardown_spares (surface : Surface) : ∀ event ∈ teardown surface, event.SparesInstances :=
  List.forall_mem_cons.mpr ⟨⟨rfl, rfl⟩, List.forall_mem_singleton.mpr ⟨rfl, rfl⟩⟩

theorem Transition.instanceChange {driver next : Driver} {call : Call} {answers : Answers}
    {result : Except DriverError Reply} {events : List Event}
    (path : Transition driver answers call next result events) : InstanceChange driver next events := by
  cases path with
  | instanceCreated info allocator success =>
    exact .made _ _ (by rw [Event.madeInstance?, if_pos success]; rfl) rfl rfl
  | instanceFailed info allocator failed =>
    refine .kept _ (fun event member => ?_) rfl
    rw [List.mem_singleton.mp member]
    exact ⟨by rw [Event.madeInstance?, if_neg failed], rfl⟩
  | instanceDestroyed handle _ _ _ live _ =>
    refine .destroyed _ handle (fun event member => ?_) live rfl
    obtain ⟨surface, _, torn⟩ := List.mem_flatMap.mp member
    exact teardown_spares surface event torn
  | other _ _ _ _ queries =>
    exact .kept _ (fun event member => spares_of_isQuery (queries event member)) rfl
  | surfaceDestroyed _ surface _ _ _ _ => exact .kept _ (teardown_spares surface) rfl
  | childRefused => exact .kept _ (List.forall_mem_singleton.mpr ⟨rfl, rfl⟩) rfl
  | windowFailed _ parent _ _ _ _ => exact .kept _ (windowEvents_spare driver parent none) rfl
  | storeFull _ parent _ window | surfaceCreated _ parent _ window =>
    have asked := windowEvents_spare driver parent (some window)
    exact .kept _ (List.forall_mem_append.mpr ⟨asked, List.forall_mem_singleton.mpr ⟨rfl, rfl⟩⟩) rfl
  | surfaceFailed _ parent _ window =>
    have asked := windowEvents_spare driver parent (some window)
    refine .kept _ (List.forall_mem_append.mpr ⟨asked, ?_⟩) rfl
    exact List.forall_mem_cons.mpr ⟨⟨rfl, rfl⟩, List.forall_mem_singleton.mpr ⟨rfl, rfl⟩⟩
  | _ => exact .kept [] (List.forall_mem_nil _) rfl

namespace InstanceChange

variable {driver next : Driver} {events : List Event}

theorem nodup (change : InstanceChange driver next events) (distinct : driver.instances.Nodup) :
    next.instances.Nodup := by
  cases change with
  | kept _ _ same => rwa [same]
  | made _ handle _ _ grown => rw [grown]; exact distinct.insert
  | destroyed _ handle _ _ shrunk => rw [shrunk]; exact distinct.erase handle

/-- An instance is live after a call if the call created it, or if it was live and the call did not destroy it. -/
theorem mem_iff (change : InstanceChange driver next events) (distinct : driver.instances.Nodup)
    (handle : InstanceHandle) :
    handle ∈ next.instances ↔ InstanceStands events handle ∨
      handle ∈ driver.instances ∧ ∀ event ∈ events, ¬ event.destroyedInstance? = some handle := by
  cases change with
  | kept _ spares same =>
    have none_stands : ¬ InstanceStands events handle :=
      Since.not_of_unstarted fun event member => by simp [(spares event member).1]
    have none_destroyed : ∀ event ∈ events, ¬ event.destroyedInstance? = some handle :=
      fun event member => by simp [(spares event member).2]
    rw [same, or_iff_right none_stands, and_iff_left none_destroyed]
  | made event new made kept grown =>
    have stands : InstanceStands [event] handle ↔ handle = new := by
      refine (Since.cons event []).trans ?_
      rw [or_iff_right Since.not_nil, made, Option.some.injEq, eq_comm]
      simp
    rw [grown, List.mem_insert_iff, stands]
    simp [kept]
  | destroyed front gone spares _ shrunk =>
    have none_stands : ¬ InstanceStands (front ++ [.destroyInstance gone .absent]) handle := by
      refine Since.not_of_unstarted fun event member => ?_
      rcases List.mem_append.mp member with early | last
      · simp [(spares event early).1]
      · rw [List.mem_singleton.mp last]
        simp [Event.madeInstance?]
    have destroys : (∀ event ∈ front ++ [.destroyInstance gone .absent],
        ¬ event.destroyedInstance? = some handle) ↔ handle ≠ gone := by
      have early : ∀ event ∈ front, ¬ event.destroyedInstance? = some handle :=
        fun event member => by simp [(spares event member).2]
      rw [List.forall_mem_append, and_iff_right early]
      simp [Event.destroyedInstance?, eq_comm]
    rw [shrunk, distinct.mem_erase_iff, or_iff_right none_stands, destroys, and_comm]

/-- A call destroys only a live instance, and no other event before tells of one. -/
theorem destroys (change : InstanceChange driver next events) {inner tail : List Event}
    {handle : InstanceHandle} {allocator : Allocator}
    (split : events = inner ++ .destroyInstance handle allocator :: tail) :
    handle ∈ driver.instances ∧ ∀ event ∈ inner, event.SparesInstances := by
  have member : .destroyInstance handle allocator ∈ events := by
    rw [split]
    exact List.mem_append_right _ List.mem_cons_self
  cases change with
  | kept _ spares _ => cases (spares _ member).2
  | made event _ _ kept _ =>
    rw [← List.mem_singleton.mp member] at kept
    cases kept
  | destroyed front gone spares live _ =>
    have absent : .destroyInstance handle allocator ∉ front := fun early => by
      cases (spares _ early).2
    obtain ⟨rfl, same, _⟩ := split_last split absent
    cases same
    exact ⟨live, spares⟩

/-- The number of creations less that of destructions grows with the registry, as long as it is new what is
created. -/
theorem balance (change : InstanceChange driver next events)
    (anew : ∀ event rest handle, events = event :: rest → event.madeInstance? = some handle →
      handle ∉ driver.instances) (handle : InstanceHandle) :
    (events.filterMap Event.madeInstance?).count handle + driver.instances.count handle =
      (events.filterMap Event.destroyedInstance?).count handle + next.instances.count handle := by
  cases change with
  | kept _ spares same =>
    rw [List.filterMap_eq_nil_iff.mpr fun event member => (spares event member).1,
      List.filterMap_eq_nil_iff.mpr fun event member => (spares event member).2, same]
  | made event new made kept grown =>
    have absent := anew event [] new rfl made
    rw [grown, List.insert_of_not_mem absent, List.filterMap_cons_some made, List.filterMap_cons_none kept,
      List.count_cons, List.count_cons]
    simp only [List.filterMap_nil, List.count_nil]
    omega
  | destroyed front gone spares live shrunk =>
    have none_made : (front ++ [Event.destroyInstance gone .absent]).filterMap Event.madeInstance? = [] := by
      rw [List.filterMap_append,
        List.filterMap_eq_nil_iff.mpr fun event member => (spares event member).1]
      rfl
    have one_destroyed :
        (front ++ [Event.destroyInstance gone .absent]).filterMap Event.destroyedInstance? = [gone] := by
      rw [List.filterMap_append,
        List.filterMap_eq_nil_iff.mpr fun event member => (spares event member).2]
      rfl
    rw [none_made, one_destroyed, shrunk, List.count_nil, zero_add, ← List.count_append]
    exact (List.perm_cons_erase live).count_eq handle

end InstanceChange

theorem instances_nodup (windows : WindowSystem) (calls : List (Call × Answers)) :
    ((fresh windows).after calls).instances.Nodup := by
  induction calls using List.reverseRecOn with
  | nil => exact List.nodup_nil
  | append_singleton calls last ih =>
    rw [after_concat]
    exact (transition_after windows calls last.1 last.2).instanceChange.nodup ih

/-- The registry of a reachable driver holds the instances that stand by the trace. -/
theorem mem_instances_iff_stands (windows : WindowSystem) (calls : List (Call × Answers))
    (handle : InstanceHandle) :
    handle ∈ ((fresh windows).after calls).instances ↔
      InstanceStands ((fresh windows).trace calls) handle := by
  induction calls using List.reverseRecOn with
  | nil => exact iff_of_false List.not_mem_nil Since.not_nil
  | append_singleton calls last ih =>
    have step := (transition_after windows calls last.1 last.2).instanceChange.mem_iff
      (instances_nodup windows calls) handle
    rw [after_concat, trace_concat, step, ih]
    exact (Since.append _ _).symm

/-- Each call keeps the surfaces on live instances: a destroyed instance takes its surfaces with it. -/
theorem Transition.owner_live {driver next : Driver} {call : Call} {answers : Answers}
    {result : Except DriverError Reply} {events : List Event}
    (path : Transition driver answers call next result events)
    (owned : ∀ surface ∈ driver.surfaces.values, surface.owner ∈ driver.instances) {surface : Surface}
    (live : surface ∈ next.surfaces.values) : surface.owner ∈ next.instances := by
  cases path with
  | instanceCreated _ _ _ => exact List.mem_insert_of_mem (owned surface live)
  | surfaceFailed _ _ _ _ _ _ _ _ _ _ forfeits => exact owned surface (forfeits.values.mem_iff.mp live)
  | surfaceCreated _ _ _ _ _ _ alive _ _ _ stores =>
    rcases List.mem_cons.mp (stores.values.mem_iff.mp live) with rfl | old
    · exact alive
    · exact owned surface old
  | instanceDestroyed _ _ _ _ _ drains =>
    rw [drains.values] at live
    obtain ⟨old, other⟩ := List.mem_filter.mp live
    exact (List.mem_erase_of_ne (by simpa using other)).mpr (owned surface old)
  | surfaceDestroyed _ _ _ _ _ retires =>
    exact owned surface (retires.values.mem_iff.mpr (List.mem_cons_of_mem _ live))
  | _ => exact owned surface live

theorem owner_live_after (windows : WindowSystem) (calls : List (Call × Answers)) {surface : Surface}
    (live : surface ∈ ((fresh windows).after calls).surfaces.values) :
    surface.owner ∈ ((fresh windows).after calls).instances := by
  induction calls using List.reverseRecOn generalizing surface with
  | nil => cases live
  | append_singleton calls last ih =>
    rw [after_concat] at live ⊢
    exact (transition_after windows calls last.1 last.2).owner_live (fun _ => ih) live

/-- A surface that some handle reaches belongs to a live instance. -/
theorem owner_live_of_get? (windows : WindowSystem) (calls : List (Call × Answers)) {handle : SurfaceHandle}
    {surface : Surface} (found : ((fresh windows).after calls).surfaces.get? handle = some surface) :
    surface.owner ∈ ((fresh windows).after calls).instances :=
  owner_live_after windows calls
    ((Arena.mem_values_iff_get? (wellFormed_after windows calls).size_le).mpr ⟨handle, found⟩)

/-- What is destroyed was created, and not destroyed since. -/
theorem stands_of_destroyed (windows : WindowSystem) (calls : List (Call × Answers)) {before rest : List Event}
    {handle : InstanceHandle} {allocator : Allocator}
    (split : (fresh windows).trace calls = before ++ .destroyInstance handle allocator :: rest) :
    InstanceStands before handle := by
  obtain ⟨done, call, answers, later, inner, tail, -, events, rfl⟩ := trace_split split
  obtain ⟨live, spares⟩ := (transition_after windows done call answers).instanceChange.destroys events
  have silent : ∀ event ∈ inner, ¬ event.madeInstance? = some handle ∧
      ¬ event.destroyedInstance? = some handle :=
    fun event member => by simp [(spares event member).1, (spares event member).2]
  exact (Since.append_of_silent silent _).mpr ((mem_instances_iff_stands windows done handle).mp live)

theorem instance_balance (windows : WindowSystem) (calls : List (Call × Answers))
    (anew : CreatesAnew ((fresh windows).trace calls)) (handle : InstanceHandle) :
    (((fresh windows).trace calls).filterMap Event.madeInstance?).count handle =
      (((fresh windows).trace calls).filterMap Event.destroyedInstance?).count handle +
        ((fresh windows).after calls).instances.count handle := by
  induction calls using List.reverseRecOn with
  | nil => rfl
  | append_singleton calls last ih =>
    rw [trace_concat] at anew ⊢
    have before := ih anew.of_append
    have change := (transition_after windows calls last.1 last.2).instanceChange
    have step := change.balance (fun event rest new first made live =>
      anew _ event rest new (by rw [first]) made ((mem_instances_iff_stands windows calls new).mp live)) handle
    rw [after_concat, List.filterMap_append, List.filterMap_append, List.count_append, List.count_append]
    omega

/-- A creation that answers with a handle was reported by the native driver, in its only event. -/
theorem Transition.made_of_answered {driver next : Driver} {info : InstanceInfo} {allocator : Allocator}
    {answers : Answers} {owner : InstanceHandle} {events : List Event}
    (path : Transition driver answers (.createInstance info allocator) next (.ok (.handle owner)) events) :
    ∃ event, events = [event] ∧ event.madeInstance? = some owner := by
  cases path with
  | instanceCreated _ _ success => exact ⟨_, rfl, by rw [Event.madeInstance?, if_pos success]; rfl⟩
  | other _ _ _ query => cases query

/-- A surface that is live on an instance was created after the instance was, also if the instance's handle had
stood for another one earlier. -/
theorem surface_of_incarnation (windows : WindowSystem) (done later : List (Call × Answers))
    {info : InstanceInfo} {allocator : Allocator} {answers : Answers} {owner : InstanceHandle}
    (anew : CreatesAnew
      ((fresh windows).trace (done ++ (.createInstance info allocator, answers) :: later)))
    (created : (((fresh windows).after done).step (.createInstance info allocator) answers).result =
      .ok (.handle owner)) {handle : SurfaceHandle} {surface : Surface}
    (found : ((fresh windows).after (done ++ (.createInstance info allocator, answers) :: later)).surfaces.get?
      handle = some surface) (own : surface.owner = owner) :
    Outstanding (((fresh windows).after (done ++ [(.createInstance info allocator, answers)])).history later)
      handle surface := by
  rw [List.append_cons] at anew found
  rw [get?_iff_outstanding, history_append] at found
  rcases (Since.append _ _).mp found with here | ⟨early, _⟩
  · exact here
  · -- Otherwise the instance stood when it was created.
    exfalso
    have path := transition_after windows done (.createInstance info allocator) answers
    simp only at path
    rw [created] at path
    obtain ⟨event, events, made⟩ := path.made_of_answered
    rw [trace_append, trace_concat, events, List.append_assoc, List.singleton_append] at anew
    rw [history_concat] at early
    rcases (outstanding_concat _ _ _ _).mp early with ⟨_, _, other, _⟩ | ⟨old, _⟩
    · cases other
    · have live := owner_live_of_get? windows done ((get?_iff_outstanding windows done _ _).mpr old)
      rw [own] at live
      exact anew _ _ _ owner rfl made ((mem_instances_iff_stands windows done owner).mp live)

/-- Along every run each live surface belongs to a live instance, and an instance is destroyed only if it was
created, and not destroyed since. If the native driver creates only what does not stand already, then an instance
was created once more than destroyed if it is live, and equally often if not, and all surfaces on it are younger
than its last creation. -/
theorem instance_lifecycle (windows : WindowSystem) (calls : List (Call × Answers)) :
    let driver := (fresh windows).after calls
    let trace := (fresh windows).trace calls
    (∀ handle surface, driver.surfaces.get? handle = some surface → surface.owner ∈ driver.instances) ∧
    (∀ before handle allocator rest, trace = before ++ .destroyInstance handle allocator :: rest →
      InstanceStands before handle) ∧
    (CreatesAnew trace →
      (∀ handle, (trace.filterMap Event.madeInstance?).count handle =
        (trace.filterMap Event.destroyedInstance?).count handle +
          if handle ∈ driver.instances then 1 else 0) ∧
      ∀ done info allocator answers later owner,
        calls = done ++ (.createInstance info allocator, answers) :: later →
        (((fresh windows).after done).step (.createInstance info allocator) answers).result =
          .ok (.handle owner) →
        ∀ handle surface, driver.surfaces.get? handle = some surface → surface.owner = owner →
          Outstanding
            (((fresh windows).after (done ++ [(.createInstance info allocator, answers)])).history later)
            handle surface) := by
  refine ⟨fun _ _ => owner_live_of_get? windows calls, fun _ _ _ _ => stands_of_destroyed windows calls, ?_⟩
  refine fun anew => ⟨fun handle => ?_, ?_⟩
  · rw [instance_balance windows calls anew, (instances_nodup windows calls).count]
  · rintro done info allocator answers later owner rfl created handle surface found own
    exact surface_of_incarnation windows done later anew created found own

/-- An instance with a surface is destroyed, and the next instance gets the same handle from the native driver. -/
def reusedInstance : List (Call × Answers) := [
  (.createInstance {} .absent, { written := some 16 }),
  (.createWin32Surface 16 7 .absent, { written := some 32, window := some 5 }),
  (.destroyInstance 16 .absent, {}),
  (.createInstance {} .absent, { written := some 16 })]

theorem instance_lifecycle_of_reusedInstance :
    let next : Call × Answers :=
      (.createWin32Surface 16 7 .absent, { written := some 32, window := some 6 })
    let calls := reusedInstance ++ [next]
    let driver := (fresh ⟨3, 4, 0⟩).after calls
    let trace := (fresh ⟨3, 4, 0⟩).trace calls
    (CreatesAnew trace ∧ 16 ∈ driver.instances ∧ (trace.filterMap Event.madeInstance?).count 16 =
      (trace.filterMap Event.destroyedInstance?).count 16 + 1) ∧
    (trace = trace.take 6 ++ .destroyInstance 16 .absent :: trace.drop 7 ∧
      InstanceStands (trace.take 6) 16) ∧
    driver.surfaces.get? 1 = none ∧ driver.surfaces.get? 0x100000001 = some ⟨16, 6, 32⟩ ∧
      Outstanding (((fresh ⟨3, 4, 0⟩).after reusedInstance).history [next]) 0x100000001 ⟨16, 6, 32⟩ := by
  intro next calls driver trace
  have anew : CreatesAnew trace := by
    have each : ∀ before ∈ trace.inits, ∀ event ∈ (trace)[before.length]?,
        event.madeInstance? = none ∨ event.madeInstance? = some 16 ∧ ¬ InstanceStands before 16 := by
      decide +kernel
    intro before event rest handle split made
    have here : event ∈ (trace)[before.length]? := by simp [split]
    rcases each before ((List.mem_inits _ _).mpr ⟨_, split.symm⟩) event here with silent | ⟨named, stands⟩
    · cases made.symm.trans silent
    · rwa [Option.some.inj (made.symm.trans named)]
  have live : 16 ∈ driver.instances := by decide +kernel
  have split : trace = trace.take 6 ++ .destroyInstance 16 .absent :: trace.drop 7 := by decide +kernel
  have found : driver.surfaces.get? 0x100000001 = some ⟨16, 6, 32⟩ := by decide +kernel
  obtain ⟨_, stood, lives⟩ := instance_lifecycle ⟨3, 4, 0⟩ calls
  obtain ⟨count, young⟩ := lives anew
  have balance := count 16
  rw [if_pos live] at balance
  exact ⟨⟨anew, live, balance⟩, ⟨split, stood _ _ _ _ split⟩, by decide +kernel, found,
    young (reusedInstance.take 3) {} .absent { written := some 16 } [next] 16 rfl (by decide +kernel) _ _
      found rfl⟩

end Driver
end SurfaceBridge
