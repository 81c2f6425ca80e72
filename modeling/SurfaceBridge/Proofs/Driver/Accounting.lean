import SurfaceBridge.Proofs.Driver.History
import Mathlib.Algebra.Order.Group.Multiset
import Mathlib.Data.Multiset.Filter

/-! Conservation of native surfaces and of windows. An account reads its gains and losses off the trace and its
stock off the live surfaces; if every call is balanced, the account balances after every run. -/
namespace SurfaceBridge

namespace Event

/-- The surface that a successful request to the native driver produced. -/
def madeSurface? : Event → Option Surface
  | createXlibSurface owner info _ code written =>
    if code = .success then some ⟨owner, info.window, written.getD 0⟩ else none
  | _ => none

/-- The native surface that is destroyed, with the instance it is destroyed under. -/
def destroyedSurface? : Event → Option (InstanceHandle × NativeSurface)
  | destroySurface owner surface _ => some (owner, surface)
  | _ => none

/-- The instance that a successful request to the native driver produced. -/
def madeInstance? : Event → Option InstanceHandle
  | createInstance _ _ code written => if code = .success then some (written.getD 0) else none
  | _ => none

def destroyedInstance? : Event → Option InstanceHandle
  | destroyInstance handle _ => some handle
  | _ => none

def madeWindow? : Event → Option Window
  | createChildWindow _ _ window => window
  | _ => none

def destroyedWindow? : Event → Option Window
  | destroyWindow window => some window
  | _ => none

end Event

/-- The native surface with the instance that it belongs to. -/
def Surface.object (surface : Surface) : InstanceHandle × NativeSurface := (surface.owner, surface.native)

/-- Which events gain and lose something, and what a live surface holds of it. -/
structure Account (β : Type) where
  gained : Event → Option β
  lost : Event → Option β
  held : Surface → β

namespace Account
open Driver Handle

variable {β : Type} (account : Account β)

def gains (events : List Event) : Multiset β := events.filterMap account.gained

def losses (events : List Event) : Multiset β := events.filterMap account.lost

def stock (driver : Driver) : Multiset β := driver.surfaces.values.map account.held

/-- Each call gains what it loses and what the stock grows by. -/
def Balanced : Prop :=
  ∀ {driver next : Driver} {call answers result events}, driver.surfaces.WellFormed →
    Transition driver answers call next result events →
    account.gains events + account.stock driver = account.losses events + account.stock next

theorem gains_append (front back : List Event) :
    account.gains (front ++ back) = account.gains front + account.gains back := by
  simp [gains]

theorem losses_append (front back : List Event) :
    account.losses (front ++ back) = account.losses front + account.losses back := by
  simp [losses]

theorem gains_le_append (front back : List Event) : account.gains front ≤ account.gains (front ++ back) := by
  rw [gains_append]
  exact Multiset.le_add_right _ _

theorem losses_le_append (front back : List Event) :
    account.losses front ≤ account.losses (front ++ back) := by
  rw [losses_append]
  exact Multiset.le_add_right _ _

variable {account}

/-- What was gained over a run is what was lost and what is in stock. -/
theorem balance_after (balanced : account.Balanced) (windows : WindowSystem)
    (calls : List (Call × Answers)) :
    account.gains ((fresh windows).trace calls) =
      account.losses ((fresh windows).trace calls) + account.stock ((fresh windows).after calls) := by
  induction calls using List.reverseRecOn with
  | nil => rfl
  | append_singleton calls last ih =>
    obtain ⟨call, answers⟩ := last
    have step := balanced (wellFormed_after windows calls) (transition_after windows calls call answers)
    rw [trace_concat, after_concat, gains_append, losses_append, ih, add_assoc, add_assoc, ← step]
    congr 1
    exact add_comm _ _

theorem stock_stores {driver : Driver} {surface : Surface} {stored : SurfaceStore} {index : Nat}
    (stores : driver.surfaces.Stores surface stored index) :
    account.stock { driver with surfaces := stored } = account.held surface ::ₘ account.stock driver :=
  Multiset.coe_eq_coe.mpr (stores.values.map account.held)

theorem stock_retires {driver : Driver} {surface : Surface} {rest : SurfaceStore} {index : Nat}
    (retires : driver.surfaces.Retires surface rest index) :
    account.stock driver = account.held surface ::ₘ account.stock { driver with surfaces := rest } :=
  Multiset.coe_eq_coe.mpr (retires.values.map account.held)

theorem stock_forfeits {driver : Driver} {rest : SurfaceStore} {index : Nat}
    (forfeits : driver.surfaces.Forfeits rest index) :
    account.stock { driver with surfaces := rest } = account.stock driver :=
  Multiset.coe_eq_coe.mpr (forfeits.values.map account.held)

theorem stock_drains {driver : Driver} {p : Surface → Bool} {rest : SurfaceStore}
    (drains : driver.surfaces.Drains p rest) (instances : List InstanceHandle) :
    account.stock driver = ((driver.surfaces.values.filter p).map account.held : Multiset β) +
      account.stock { driver with instances, surfaces := rest } := by
  simp only [stock, drains.values, Multiset.coe_add, Multiset.coe_eq_coe, ← List.map_append]
  exact (List.filter_append_perm p driver.surfaces.values).symm.map account.held

theorem gains_eq_zero {events : List Event} (silent : ∀ event ∈ events, account.gained event = none) :
    account.gains events = 0 := by
  rw [gains, List.filterMap_eq_nil_iff.mpr silent, Multiset.coe_nil]

theorem losses_eq_zero {events : List Event} (silent : ∀ event ∈ events, account.lost event = none) :
    account.losses events = 0 := by
  rw [losses, List.filterMap_eq_nil_iff.mpr silent, Multiset.coe_nil]

theorem gains_teardown (gained : ∀ surface, (teardown surface).filterMap account.gained = [])
    (surfaces : List Surface) : account.gains (surfaces.flatMap teardown) = 0 := by
  rw [gains, List.filterMap_flatMap]
  simp [gained]

theorem losses_teardown
    (lost : ∀ surface, (teardown surface).filterMap account.lost = [account.held surface])
    (surfaces : List Surface) : account.losses (surfaces.flatMap teardown) = surfaces.map account.held := by
  rw [losses, List.filterMap_flatMap, List.map_eq_flatMap]
  simp only [lost]

/-- Draining loses what the drained surfaces hold, if each teardown loses what its surface holds. -/
theorem balance_drains {driver : Driver} {handle : InstanceHandle} {rest : SurfaceStore}
    (gained : ∀ surface, (teardown surface).filterMap account.gained = [])
    (lost : ∀ surface, (teardown surface).filterMap account.lost = [account.held surface])
    (silent : account.gained (.destroyInstance handle .absent) = none ∧
      account.lost (.destroyInstance handle .absent) = none)
    (drains : driver.surfaces.Drains (fun surface => surface.owner = handle) rest) :
    let left := driver.surfaces.values.filter fun surface => surface.owner = handle
    let events := left.flatMap teardown ++ [.destroyInstance handle .absent]
    account.gains events + account.stock driver = account.losses events +
      account.stock { driver with instances := driver.instances.erase handle, surfaces := rest } := by
  intro left events
  rw [gains_append, losses_append, gains_teardown gained, losses_teardown lost,
    gains_eq_zero (by simpa using silent.1), losses_eq_zero (by simpa using silent.2),
    stock_drains drains (driver.instances.erase handle)]
  simp only [zero_add, add_zero]
  rfl

end Account

/-- Native surfaces: made by successful requests, destroyed under an instance. -/
def nativeSurfaces : Account (InstanceHandle × NativeSurface) where
  gained event := event.madeSurface?.map Surface.object
  lost := Event.destroyedSurface?
  held := Surface.object

/-- Windows: made and destroyed by the window system. -/
def childWindows : Account Window where
  gained := Event.madeWindow?
  lost := Event.destroyedWindow?
  held := Surface.window

namespace Driver
open Account

/-- A question to the native driver moves nothing. -/
theorem silent_of_isQuery {event : Event} (query : event.isQuery) :
    event.madeSurface? = none ∧ event.destroyedSurface? = none ∧ event.madeWindow? = none ∧
      event.destroyedWindow? = none := by
  cases event with
  | getDeviceProcAddr | getInstanceProcAddr | presentationSupport => exact ⟨rfl, rfl, rfl, rfl⟩
  | _ => cases query

/-- A request makes a surface exactly if the native driver reports success. -/
theorem surfaceRequest_madeSurface? (driver : Driver) (owner : InstanceHandle) (window : Window)
    (answers : Answers) :
    (driver.surfaceRequest owner window answers).madeSurface? =
      if answers.code = .success then some ⟨owner, window, answers.handle⟩ else none := rfl

theorem nativeSurfaces_balanced : nativeSurfaces.Balanced := by
  intro driver next call answers result events sound path
  cases path with
  | surfaceFailed owner _ _ window _ _ _ _ _ failed forfeits =>
    have none_made : nativeSurfaces.gained (driver.surfaceRequest owner window answers) = none := by
      simp [nativeSurfaces, surfaceRequest_madeSurface?, failed]
    rw [stock_forfeits forfeits, gains_append, gains, gains, List.filterMap_cons_none none_made]
    rfl
  | surfaceCreated owner _ _ window _ _ _ _ _ success stores =>
    have made : nativeSurfaces.gained (driver.surfaceRequest owner window answers) =
        some (owner, answers.handle) := by
      simp [nativeSurfaces, surfaceRequest_madeSurface?, success, Surface.object]
    rw [stock_stores stores, gains_append, gains, gains, List.filterMap_cons_some made]
    rfl
  | instanceDestroyed handle _ _ _ _ drains =>
    exact balance_drains (fun _ => rfl) (fun _ => rfl) ⟨rfl, rfl⟩ drains
  | surfaceDestroyed _ _ _ _ _ retires =>
    rw [stock_retires retires]
    rfl
  | other _ _ _ _ queries =>
    have silent := fun event member => silent_of_isQuery (queries event member)
    rw [gains_eq_zero fun event member => by simp [nativeSurfaces, (silent event member).1],
      losses_eq_zero fun event member => (silent event member).2.1]
  | _ => rfl

theorem childWindows_balanced : childWindows.Balanced := by
  intro driver next call answers result events sound path
  cases path with
  | surfaceFailed _ _ _ _ _ _ _ _ _ failed forfeits =>
    rw [stock_forfeits forfeits]
    rfl
  | surfaceCreated owner _ _ window _ _ _ _ _ success stores =>
    rw [stock_stores stores]
    rfl
  | instanceDestroyed handle _ _ _ _ drains =>
    exact balance_drains (fun _ => rfl) (fun _ => rfl) ⟨rfl, rfl⟩ drains
  | surfaceDestroyed _ _ _ _ _ retires =>
    rw [stock_retires retires]
    rfl
  | other _ _ _ _ queries =>
    have silent := fun event member => silent_of_isQuery (queries event member)
    rw [gains_eq_zero fun event member => (silent event member).2.2.1,
      losses_eq_zero fun event member => (silent event member).2.2.2]
  | _ => rfl

/-- No call both makes and destroys native surfaces. -/
theorem Transition.native_one_sided {driver next : Driver} {call : Call} {answers : Answers}
    {result : Except DriverError Reply} {events : List Event}
    (path : Transition driver answers call next result events) :
    nativeSurfaces.gains events = 0 ∨ nativeSurfaces.losses events = 0 := by
  cases path with
  | surfaceDestroyed => exact .inl rfl
  | instanceDestroyed =>
    left
    rw [gains_append, gains_teardown (fun _ => rfl)]
    rfl
  | other _ _ _ _ queries =>
    exact .inr (losses_eq_zero fun event member => (silent_of_isQuery (queries event member)).2.1)
  | _ => exact .inr rfl

/-- At every moment of a run, also within a call, no native surface was destroyed more often than made. -/
theorem native_losses_le_gains (windows : WindowSystem) (calls : List (Call × Answers))
    {before : List Event} (initial : before <+: (fresh windows).trace calls) :
    nativeSurfaces.losses before ≤ nativeSurfaces.gains before := by
  have settled (calls : List (Call × Answers)) :
      nativeSurfaces.losses ((fresh windows).trace calls) ≤
        nativeSurfaces.gains ((fresh windows).trace calls) := by
    rw [balance_after nativeSurfaces_balanced]
    exact Multiset.le_add_right _ _
  obtain ⟨rest, whole⟩ := initial
  cases rest with
  | nil =>
    rw [List.append_nil] at whole
    rw [whole]
    exact settled calls
  | cons event rest =>
    obtain ⟨done, call, answers, later, inner, tail, -, events, rfl⟩ := trace_split whole.symm
    have within : nativeSurfaces.losses ((fresh windows).trace done ++ inner) ≤
        nativeSurfaces.losses ((fresh windows).trace (done ++ [(call, answers)])) := by
      rw [trace_concat, events, ← List.append_assoc]
      exact losses_le_append _ _ _
    rcases (transition_after windows done call answers).native_one_sided with no_gain | no_loss
    · calc
        _ ≤ _ := within
        _ ≤ nativeSurfaces.gains ((fresh windows).trace (done ++ [(call, answers)])) := settled _
        _ = nativeSurfaces.gains ((fresh windows).trace done) := by
          rw [trace_concat, gains_append, no_gain, add_zero]
        _ ≤ _ := gains_le_append _ _ _
    · calc
        _ ≤ _ := within
        _ = nativeSurfaces.losses ((fresh windows).trace done) := by
          rw [trace_concat, losses_append, no_loss, add_zero]
        _ ≤ nativeSurfaces.gains ((fresh windows).trace done) := settled done
        _ ≤ _ := gains_le_append _ _ _

/-- What a call adds to the store comes from a successful request in that call. -/
theorem Transition.values_made {driver next : Driver} {call : Call} {answers : Answers}
    {result : Except DriverError Reply} {events : List Event}
    (path : Transition driver answers call next result events) {surface : Surface}
    (live : surface ∈ next.surfaces.values) :
    surface ∈ driver.surfaces.values ∨ ∃ event ∈ events, event.madeSurface? = some surface := by
  cases path with
  | surfaceFailed _ _ _ _ _ _ _ _ _ _ forfeits => exact .inl (forfeits.values.mem_iff.mp live)
  | surfaceCreated owner _ _ window _ _ _ _ _ success stores =>
    rcases List.mem_cons.mp (stores.values.mem_iff.mp live) with rfl | old
    · refine .inr ⟨driver.surfaceRequest owner window answers, by simp, ?_⟩
      rw [surfaceRequest_madeSurface?, if_pos success]
    · exact .inl old
  | instanceDestroyed _ _ _ _ _ drains =>
    rw [drains.values] at live
    exact .inl (List.mem_filter.mp live).1
  | surfaceDestroyed _ _ _ _ _ retires =>
    exact .inl (retires.values.mem_iff.mpr (List.mem_cons_of_mem _ live))
  | _ => exact .inl live

theorem live_surface_made (windows : WindowSystem) (calls : List (Call × Answers)) {surface : Surface}
    (live : surface ∈ ((fresh windows).after calls).surfaces.values) :
    ∃ event ∈ (fresh windows).trace calls, event.madeSurface? = some surface := by
  induction calls using List.reverseRecOn with
  | nil => cases live
  | append_singleton calls last ih =>
    obtain ⟨call, answers⟩ := last
    rw [after_concat] at live
    rw [trace_concat]
    rcases (transition_after windows calls call answers).values_made live with old | ⟨event, here, made⟩
    · obtain ⟨event, early, made⟩ := ih old
      exact ⟨event, List.mem_append_left _ early, made⟩
    · exact ⟨event, List.mem_append_right _ here, made⟩

theorem eq_of_madeSurface? {event : Event} {surface : Surface} (made : event.madeSurface? = some surface) :
    ∃ info allocator written, event = .createXlibSurface surface.owner info allocator .success written ∧
      info.window = surface.window ∧ written.getD 0 = surface.native := by
  cases event with
  | createXlibSurface owner info allocator code written =>
    simp only [Event.madeSurface?, Option.ite_none_right_eq_some, Option.some.injEq] at made
    obtain ⟨rfl, rfl⟩ := made
    exact ⟨info, allocator, written, rfl, rfl, rfl⟩
  | _ => cases made

/-- After every run the native surfaces made are those destroyed, each under its own instance, and those that
live surfaces hold. None is destroyed before it is made or twice, and what a live surface holds is what the
native driver answered for its window. -/
theorem native_surface_accounting (windows : WindowSystem) (calls : List (Call × Answers)) :
    let driver := (fresh windows).after calls
    let trace := (fresh windows).trace calls
    nativeSurfaces.gains trace = nativeSurfaces.losses trace + nativeSurfaces.stock driver ∧
    (∀ before, before <+: trace → nativeSurfaces.losses before ≤ nativeSurfaces.gains before) ∧
    ∀ surface ∈ driver.surfaces.values, ∃ info allocator written,
      .createXlibSurface surface.owner info allocator .success written ∈ trace ∧
        info.window = surface.window ∧ written.getD 0 = surface.native := by
  refine ⟨balance_after nativeSurfaces_balanced windows calls,
    fun before => native_losses_le_gains windows calls, ?_⟩
  intro surface live
  obtain ⟨event, member, made⟩ := live_surface_made windows calls live
  obtain ⟨info, allocator, written, rfl, window, native⟩ := eq_of_madeSurface? made
  exact ⟨info, allocator, written, member, window, native⟩

/-- After every run the windows made are those destroyed and those that live surfaces own. If the driver is
dropped then, exactly the windows of the live surfaces are destroyed, in slot order and without a native
call, so that over the whole life every window made is destroyed once. -/
theorem window_accounting (windows : WindowSystem) (calls : List (Call × Answers)) :
    let driver := (fresh windows).after calls
    let trace := (fresh windows).trace calls
    childWindows.gains trace = childWindows.losses trace + childWindows.stock driver ∧
    driver.drop.1 = driver.surfaces.slots.toList.filterMap
      (fun slot => slot.value.map fun surface => .destroyWindow surface.window) ∧
    childWindows.gains (trace ++ driver.drop.1) = childWindows.losses (trace ++ driver.drop.1) := by
  intro driver trace
  have balance := balance_after childWindows_balanced windows calls
  have no_gain : childWindows.gains driver.drop.1 = 0 :=
    gains_eq_zero (by simp [drop, childWindows, Event.madeWindow?])
  have loss : childWindows.losses driver.drop.1 = childWindows.stock driver := by
    rw [losses, drop, List.filterMap_map]
    exact congrArg _ List.filterMap_some
  refine ⟨balance, ?_, ?_⟩
  · rw [drop, Handle.Arena.values, List.map_map, List.map_filterMap]
    rfl
  · rw [gains_append, losses_append, no_gain, loss, add_zero]
    exact balance

end Driver
end SurfaceBridge
