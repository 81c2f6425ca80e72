import SurfaceBridge.Proofs.Driver.Accounting
import Mathlib.Data.List.Infix
import Mathlib.Tactic.Abel

/-! The order of teardown, read off the trace: an instance goes after all native surfaces that were made on it,
and a window goes directly after the native surface of its object, or after the failed request for one. -/
namespace SurfaceBridge.Driver
open Account Handle

/-- A window that goes while surfaces are torn down is the window of one of them, and that one's native surface
went just before. -/
private theorem teardown_split {left : List Surface} {inner tail : List Event} {last : Event}
    {window : Window} (keeps : last ≠ .destroyWindow window)
    (split : left.flatMap teardown ++ [last] = inner ++ .destroyWindow window :: tail) :
    ∃ front surface back, left = front ++ surface :: back ∧ surface.window = window ∧
      inner = front.flatMap teardown ++ [.destroySurface surface.owner surface.native .absent] := by
  induction left generalizing inner with
  | nil =>
    obtain ⟨_, same, _⟩ := split_last split (by simp)
    exact absurd same keeps
  | cons surface left ih =>
    rw [List.flatMap_cons, teardown, List.append_assoc] at split
    cases inner with
    | nil => cases (List.cons.inj split).1
    | cons first inner =>
      obtain ⟨rfl, others⟩ := List.cons.inj split
      cases inner with
      | nil =>
        obtain ⟨same, _⟩ := List.cons.inj others
        exact ⟨[], surface, left, rfl, Event.destroyWindow.inj same, rfl⟩
      | cons second inner =>
        obtain ⟨rfl, later⟩ := List.cons.inj others
        obtain ⟨front, found, back, rfl, own, rfl⟩ := ih later
        exact ⟨surface :: front, found, back, rfl, own, rfl⟩

/-- What a call did before it destroys a window. -/
inductive Release (driver next : Driver) (answers : Answers) (window : Window) : List Event → Prop where
  | torn (handle surface front back) : driver.surfaces.get? handle = some surface →
      next.surfaces.get? handle = none → surface.window = window →
      driver.surfaces.values.Perm (front ++ surface :: back) →
      Release driver next answers window
        (front.flatMap teardown ++ [.destroySurface surface.owner surface.native .absent])
  | refused (parent owner) : answers.code ≠ .success →
      Release driver next answers window
        (driver.windowEvents parent (some window) ++ [driver.surfaceRequest owner window answers])

/-- A call of a driver with room destroys a window only in these ways. -/
theorem Transition.release {driver next : Driver} {call : Call} {answers : Answers}
    {result : Except DriverError Reply} {events : List Event} (sound : driver.surfaces.WellFormed)
    (room : driver.surfaces.live < Arena.slotLimit)
    (path : Transition driver answers call next result events) {inner tail : List Event} {window : Window}
    (split : events = inner ++ .destroyWindow window :: tail) :
    Release driver next answers window inner := by
  have member : .destroyWindow window ∈ events := by
    rw [split]
    exact List.mem_append_right _ List.mem_cons_self
  cases path with
  | storeFull _ _ _ _ _ _ _ full =>
    exact absurd ((Arena.insert_eq_none_iff sound).mp full) room.ne
  | surfaceFailed owner parent _ made _ _ _ _ _ failed _ =>
    rw [List.append_cons] at split
    obtain ⟨rfl, same, _⟩ := split_last split (by simp [windowEvents, surfaceRequest])
    obtain rfl := Event.destroyWindow.inj same
    exact .refused parent owner failed
  | instanceDestroyed handle _ _ _ _ drains =>
    obtain ⟨front, surface, back, left, own, rfl⟩ := teardown_split (by simp) split
    have leaves : surface ∈ driver.surfaces.values.filter fun surface => surface.owner = handle := by
      simp [left]
    obtain ⟨live, owned⟩ := List.mem_filter.mp leaves
    obtain ⟨word, found⟩ := (Arena.mem_values_iff_get? sound.size_le).mp live
    refine .torn word surface front
      (back ++ driver.surfaces.values.filter fun surface => !decide (surface.owner = handle)) found ?_ own ?_
    · rw [drains.get?_eq sound, found]
      simpa using owned
    · rw [← List.cons_append, ← List.append_assoc, ← left]
      exact (List.filter_append_perm _ _).symm
  | surfaceDestroyed _ surface _ _ _ retires =>
    change [_] ++ [_] = inner ++ _ at split
    obtain ⟨rfl, same, _⟩ := split_last split (by simp)
    refine .torn _ surface [] _ (retires.found sound) ?_ (Event.destroyWindow.inj same) retires.values
    rw [retires.get?_eq sound, if_pos rfl]
  | other _ _ _ _ queries => cases queries _ member
  | _ => simp [windowEvents, surfaceRequest] at member

/-- At a point of the trace: the surfaces, each made as it is, whose native surfaces are all that exist, and whose
windows are all that exist besides the given one. -/
structure Standing (before : List Event) (window : Window) (surfaces : List Surface) : Prop where
  made : ∀ surface ∈ surfaces, ∃ event ∈ before, event.madeSurface? = some surface
  native : nativeSurfaces.gains before = nativeSurfaces.losses before + ↑(surfaces.map Surface.object)
  windows : childWindows.gains before =
    childWindows.losses before + ({window} + ↑(surfaces.map Surface.window))

/-- Within a call an account balances with the surfaces not released yet. -/
private theorem balance_within {β : Type} {account : Account β} (balanced : account.Balanced)
    (windows : WindowSystem) (done : List (Call × Answers)) (released standing : List Surface)
    {inner : List Event} {extra : Multiset β}
    (values : ((fresh windows).after done).surfaces.values.Perm (released ++ standing))
    (within : account.gains inner + ↑(released.map account.held) = account.losses inner + extra) :
    account.gains ((fresh windows).trace done ++ inner) =
      account.losses ((fresh windows).trace done ++ inner) +
        (extra + ↑(standing.map account.held)) := by
  have stock : account.stock ((fresh windows).after done) =
      ↑(released.map account.held) + ↑(standing.map account.held) := by
    rw [Multiset.coe_add, ← List.map_append]
    exact Multiset.coe_eq_coe.mpr (values.map account.held)
  rw [gains_append, losses_append, balance_after balanced, stock]
  calc
    _ = account.losses ((fresh windows).trace done) +
        (account.gains inner + ↑(released.map account.held)) + ↑(standing.map account.held) := by abel
    _ = _ := by
      rw [within]
      abel

/-- When a window goes, its object has no native surface, and every other object still has both. -/
theorem Release.standing (windows : WindowSystem) (done : List (Call × Answers)) {next : Driver}
    {answers : Answers} {window : Window} {inner : List Event}
    (release : Release ((fresh windows).after done) next answers window inner) :
    ∃ surfaces, Standing ((fresh windows).trace done ++ inner) window surfaces := by
  have made {surface : Surface} (live : surface ∈ ((fresh windows).after done).surfaces.values) :
      ∃ event ∈ (fresh windows).trace done ++ inner, event.madeSurface? = some surface := by
    obtain ⟨event, early, made⟩ := live_surface_made windows done live
    exact ⟨event, List.mem_append_left _ early, made⟩
  cases release with
  | torn handle surface front back _ _ own values =>
    have split : ((fresh windows).after done).surfaces.values.Perm ((front ++ [surface]) ++ back) := by
      simpa using values
    refine ⟨back, fun other stands => made (values.mem_iff.mpr (by simp [stands])), ?_, ?_⟩
    · rw [← zero_add (Multiset.ofList _)]
      apply balance_within nativeSurfaces_balanced windows done _ back split
      rw [gains_append, losses_append, gains_teardown fun _ => rfl, losses_teardown fun _ => rfl,
        List.map_append, ← Multiset.coe_add, zero_add, add_zero]
      exact zero_add _
    · apply balance_within childWindows_balanced windows done _ back split
      rw [gains_append, losses_append, gains_teardown fun _ => rfl, losses_teardown fun _ => rfl,
        List.map_append, ← Multiset.coe_add, zero_add, ← own]
      have kept : childWindows.losses [.destroySurface surface.owner surface.native .absent] = 0 := rfl
      rw [kept, add_zero]
      exact zero_add _
  | refused parent owner failed =>
    refine ⟨((fresh windows).after done).surfaces.values, fun _ => made, ?_, ?_⟩
    · rw [← zero_add (Multiset.ofList _)]
      apply balance_within nativeSurfaces_balanced windows done [] _ (.refl _)
      have none_made : nativeSurfaces.gained
          (((fresh windows).after done).surfaceRequest owner window answers) = none := by
        simp [nativeSurfaces, surfaceRequest_madeSurface?, failed]
      rw [gains_append, gains, gains, List.filterMap_cons_none none_made]
      rfl
    · exact balance_within childWindows_balanced windows done [] _ (.refl _) rfl

/-- When an instance goes, it is the last thing its call does, and none of its surfaces is left. -/
theorem Transition.instance_gone {driver next : Driver} {call : Call} {answers : Answers}
    {result : Except DriverError Reply} {events : List Event}
    (path : Transition driver answers call next result events) {inner tail : List Event}
    {handle : InstanceHandle} {allocator : Allocator}
    (split : events = inner ++ .destroyInstance handle allocator :: tail) :
    tail = [] ∧ ∀ surface ∈ next.surfaces.values, surface.owner ≠ handle := by
  have member : .destroyInstance handle allocator ∈ events := by
    rw [split]
    exact List.mem_append_right _ List.mem_cons_self
  cases path with
  | instanceDestroyed target _ _ _ _ drains =>
    obtain ⟨_, same, none_later⟩ := split_last split (by simp [teardown])
    obtain ⟨rfl, _⟩ := Event.destroyInstance.inj same
    refine ⟨none_later, fun surface live => ?_⟩
    rw [drains.values] at live
    simpa using (List.mem_filter.mp live).2
  | other _ _ _ _ queries => cases queries _ member
  | _ => simp [windowEvents, surfaceRequest, teardown] at member

/-- Children go before their parent. -/
theorem native_surfaces_before_instance (windows : WindowSystem) (calls : List (Call × Answers))
    {before rest : List Event} {handle : InstanceHandle} {allocator : Allocator}
    (split : (fresh windows).trace calls = before ++ .destroyInstance handle allocator :: rest) :
    (nativeSurfaces.gains before).filter (fun made => made.1 = handle) =
      (nativeSurfaces.losses before).filter fun lost => lost.1 = handle := by
  obtain ⟨done, call, answers, later, inner, tail, -, events, rfl⟩ := trace_split split
  obtain ⟨rfl, gone⟩ := (transition_after windows done call answers).instance_gone events
  have balance := balance_after nativeSurfaces_balanced windows (done ++ [(call, answers)])
  have none_made : nativeSurfaces.gains [.destroyInstance handle allocator] = 0 := rfl
  have none_lost : nativeSurfaces.losses [.destroyInstance handle allocator] = 0 := rfl
  rw [trace_concat, events, ← List.append_assoc, gains_append, losses_append, none_made, none_lost, add_zero,
    add_zero] at balance
  have none_left : (nativeSurfaces.stock ((fresh windows).after (done ++ [(call, answers)]))).filter
      (fun held => held.1 = handle) = 0 := by
    rw [Multiset.filter_eq_nil, after_concat]
    intro held member
    obtain ⟨surface, live, rfl⟩ := List.mem_map.mp member
    exact gone surface live
  rw [balance, Multiset.filter_add, none_left, add_zero]

/-- The events are in the middle of a call that ends the surface. -/
def LeavesDuring (driver : Driver) (calls : List (Call × Answers)) (before events : List Event)
    (handle : SurfaceHandle) (surface : Surface) : Prop :=
  ∃ done last later inner tail, calls = done ++ last :: later ∧ before = driver.trace done ++ inner ∧
    ((driver.after done).step last.1 last.2).events = inner ++ events ++ tail ∧
    Outstanding (driver.history done) handle surface ∧
    ∀ other, ¬ Outstanding (driver.history (done ++ [last])) handle other

/-- While the store has room: an instance is destroyed only after all native surfaces that were made on it; a
window is destroyed only directly after the native surface of the same object, which goes in that call, or after
the request on it that failed; and at that moment no other window has lost its native surface, nor any native
surface its window. -/
theorem teardown_order (windows : WindowSystem) (calls : List (Call × Answers))
    (room : ∀ done, done <+: calls → ((fresh windows).after done).surfaces.live < Arena.slotLimit) :
    let trace := (fresh windows).trace calls
    (∀ before handle allocator rest, trace = before ++ .destroyInstance handle allocator :: rest →
      (nativeSurfaces.gains before).filter (fun made => made.1 = handle) =
        (nativeSurfaces.losses before).filter fun lost => lost.1 = handle) ∧
    ∀ before window rest, trace = before ++ .destroyWindow window :: rest →
      ((∃ earlier handle surface,
          before = earlier ++ [.destroySurface surface.owner surface.native .absent] ∧
          surface.window = window ∧
          (fresh windows).LeavesDuring calls earlier
            [.destroySurface surface.owner surface.native .absent, .destroyWindow window] handle surface) ∨
        ∃ earlier owner display code written, code ≠ .success ∧
          before = earlier ++ [.createXlibSurface owner { display, window } .absent code written]) ∧
      ∃ surfaces, Standing before window surfaces := by
  refine ⟨fun _ _ _ _ split => native_surfaces_before_instance windows calls split, ?_⟩
  intro before window rest split
  obtain ⟨done, call, answers, later, inner, tail, rfl, events, rfl⟩ := trace_split split
  have release := (transition_after windows done call answers).release (wellFormed_after windows done)
    (room done (List.prefix_append _ _)) events
  refine ⟨?_, release.standing⟩
  cases release with
  | torn handle surface front back found gone own _ =>
    refine .inl ⟨(fresh windows).trace done ++ front.flatMap teardown, handle, surface, by simp, own,
      done, (call, answers), later, front.flatMap teardown, tail, rfl, rfl, by simpa using events,
      (get?_iff_outstanding windows done handle surface).mp found, ?_⟩
    intro other
    rw [← get?_iff_outstanding, after_concat, gone]
    simp
  | refused parent owner failed =>
    exact .inr ⟨_, owner, _, answers.code, answers.written, failed, (List.append_assoc _ _ _).symm⟩

/-- Two surfaces on an instance, in the same window and with the same native surface, and a failed third one. -/
def crowdedInstance : List (Call × Answers) := [
  (.createInstance {} .absent, { written := some 16 }),
  (.createWin32Surface 16 7 .absent, { written := some 32, window := some 5 }),
  (.createWin32Surface 16 7 .absent, { code := .outOfHostMemory, window := some 6 }),
  (.createWin32Surface 16 8 .absent, { written := some 32, window := some 5 }),
  (.destroyInstance 16 .absent, {})]

theorem teardown_order_of_crowdedInstance :
    let trace := (fresh ⟨3, 4, 0⟩).trace crowdedInstance
    let before := trace.take 15
    ((∀ done, done <+: crowdedInstance →
        ((fresh ⟨3, 4, 0⟩).after done).surfaces.live < Arena.slotLimit) ∧
      trace = before ++ .destroyInstance 16 .absent :: [] ∧
      (nativeSurfaces.gains before).filter (fun made => made.1 = 16) =
        (nativeSurfaces.losses before).filter fun lost => lost.1 = 16) ∧
    trace = trace.take 14 ++ .destroyWindow 5 :: trace.drop 15 ∧
    ∃ surfaces, Standing (trace.take 14) 5 surfaces := by
  intro trace before
  have room : ∀ done, done <+: crowdedInstance →
      ((fresh ⟨3, 4, 0⟩).after done).surfaces.live < Arena.slotLimit := by
    have each : ∀ done ∈ crowdedInstance.inits,
        ((fresh ⟨3, 4, 0⟩).after done).surfaces.live < Arena.slotLimit := by decide
    exact fun done initial => each done ((List.mem_inits _ _).mpr initial)
  have last : trace = before ++ .destroyInstance 16 .absent :: [] := by decide
  have near : trace = trace.take 14 ++ .destroyWindow 5 :: trace.drop 15 := by decide
  have order := teardown_order ⟨3, 4, 0⟩ crowdedInstance room
  exact ⟨⟨room, last, order.1 _ _ _ _ last⟩, near, (order.2 _ _ _ near).2⟩

end SurfaceBridge.Driver
