import SurfaceBridge.Proofs.Driver.History

/-! What the log tells of a call's outcome. A call that fails reports it as an error, a call that succeeds reports
none, and an entry point that is not implemented warns instead. One failure goes unreported: the native driver's,
when it is asked for an instance. -/
namespace SurfaceBridge

/-- Whether a log has a line at the level of errors. -/
def Notice.reported (log : List Notice) : Bool := log.any fun notice => notice.level = .error

namespace Driver
open Handle Notice

/-- An outcome with its log: an error is reported exactly if there is one. -/
inductive Diagnosed {α : Type} : Except DriverError α → List Notice → Prop where
  | succeeded (value log) : reported log = false → Diagnosed (.ok value) log
  | failed (error log) : (∀ op, error ≠ .notImplemented op) → reported log = true →
      Diagnosed (.error error) log

theorem Diagnosed.map {α β : Type} {result : Except DriverError α} {log : List Notice}
    (diagnosed : Diagnosed result log) (f : α → β) : Diagnosed (result.map f) log := by
  cases diagnosed with
  | succeeded value _ quiet => exact .succeeded (f value) log quiet
  | failed error _ other told => exact .failed error log other told

@[simp] theorem reported_append (front back : List Notice) :
    reported (front ++ back) = (reported front || reported back) :=
  List.any_append

@[simp] theorem reported_cons (notice : Notice) (log : List Notice) :
    reported (notice :: log) = (decide (notice.level = .error) || reported log) := rfl

@[simp] theorem reported_nil : reported [] = false := rfl

@[simp] theorem reported_allocatorNotices (allocator : Allocator) :
    reported (allocatorNotices allocator) = false := by
  cases allocator <;> rfl

@[simp] theorem reported_map {α : Type} (f : α → Notice) (quiet : ∀ a, (f a).level ≠ .error)
    (values : List α) : reported (values.map f) = false := by
  simpa [reported] using fun a _ => quiet a

/-- The creation of an instance reports no error, not even the one it answers. -/
theorem createInstance_quiet (driver : Driver) (info : InstanceInfo) (allocator : Allocator) (answers : Answers) :
    reported (driver.createInstance info allocator answers).log = false := by
  have chain := reported_map Notice.chainDropped (by simp [level]) (Translation.ofInfo info).dropped
  simp only [createInstance, Translation.notices]
  split <;> simp [chain, level]

theorem createWin32Surface_diagnosed {driver : Driver} (sound : driver.surfaces.WellFormed)
    (room : driver.surfaces.live < Arena.slotLimit) (owner : InstanceHandle) (parent : HostWindow)
    (allocator : Allocator) (answers : Answers) :
    let step := driver.createWin32Surface owner parent allocator answers
    Diagnosed step.result step.log := by
  simp only [createWin32Surface]
  by_cases live : owner ∈ driver.instances
  case neg =>
    simp only [check, live, if_false]
    exact .failed _ _ (by simp) (by simp [level])
  simp only [check, live, if_true]
  cases answers.desktop with
  | false => exact .failed _ _ (by simp) (by simp [level])
  | true =>
    cases answers.window with
    | none => exact .failed _ _ (by simp) (by simp [level])
    | some window =>
      cases done : driver.surfaces.insert ⟨owner, window, 0⟩ with
      | none => exact absurd ((Arena.insert_eq_none_iff sound).mp done) room.ne
      | some stored =>
        simp only [Bool.not_true, Bool.false_eq_true, if_false, done]
        split
        · exact .succeeded _ _ (by simp [level])
        · cases stored.2.remove? stored.1 with
          | none => exact .failed _ _ (by simp) (by simp [level])
          | some taken => exact .failed _ _ (by simp) (by simp [level])

theorem destroyInstance_diagnosed (driver : Driver) (handle : InstanceHandle) (allocator : Allocator) :
    let step := driver.destroyInstance handle allocator
    Diagnosed step.result step.log := by
  simp only [destroyInstance]
  split
  · exact .succeeded _ _ (by simp [level])
  · split
    · have windows := reported_map (fun surface : Surface => Notice.destroyingWindow surface.window)
        (by simp [level]) (driver.surfaces.drainFor handle).1
      refine .succeeded _ _ ?_
      cases (driver.surfaces.drainFor handle).1.isEmpty <;> simp [level, windows]
    · exact .failed _ _ (by simp) (by simp [level])

theorem destroySurface_diagnosed (driver : Driver) (owner : InstanceHandle) (handle : SurfaceHandle)
    (allocator : Allocator) :
    let step := driver.destroySurface owner handle allocator
    Diagnosed step.result step.log := by
  simp only [destroySurface]
  by_cases live : owner ∈ driver.instances
  case neg =>
    simp only [check, live, if_false]
    exact .failed _ _ (by simp) (by simp [level])
  simp only [check, live, if_true]
  split
  · exact .succeeded _ _ (by simp [level])
  · simp only [SurfaceStore.take]
    cases driver.surfaces.get? handle with
    | none => exact .failed _ _ (by simp) (by simp [level])
    | some surface =>
      by_cases own : surface.owner = owner
      · simp only [own, if_true]
        cases driver.surfaces.remove? handle with
        | none => exact .failed _ _ (by simp) (by simp [level])
        | some taken => exact .succeeded _ _ (by simp [level])
      · simp only [own, if_false]
        exact .failed _ _ (by simp) (by simp [level])

theorem enumerateExtensions_diagnosed (driver : Driver) (layer : Option Label)
    (buffer : Option (List ExtensionProperties)) :
    let step := driver.enumerateExtensions layer buffer
    Diagnosed step.result.1 step.log := by
  cases layer with
  | some label => exact .failed _ _ (by simp) (by simp [enumerateExtensions, Extension.enumerate, level])
  | none =>
    cases buffer with
    | none => exact .succeeded _ _ (by simp [enumerateExtensions, Extension.enumerate, level])
    | some room => exact .succeeded _ _ (by simp [enumerateExtensions, Extension.enumerate, level])

/-- What a call of a driver with room logs: a warning with its name if it is not implemented, and no error;
otherwise an error exactly if it fails, except for the creation of an instance, which never logs one. -/
inductive Logs : Call → Except DriverError Reply → List Notice → Prop where
  | stub (call arguments) :
      Logs call (.error (.notImplemented call.entryPoint)) [.stub call.entryPoint arguments]
  | creation (info allocator result log) : (∀ op, result ≠ .error (.notImplemented op)) →
      reported log = false → Logs (.createInstance info allocator) result log
  | diagnosed (call result log) : call.entryPoint ≠ .createInstance → Diagnosed result log →
      Logs call result log

theorem step_logs {driver : Driver} (sound : driver.surfaces.WellFormed)
    (room : driver.surfaces.live < Arena.slotLimit) (call : Call) (answers : Answers) :
    Logs call (driver.step call answers).result (driver.step call answers).log := by
  cases call with
  | createInstance info allocator =>
    refine .creation info allocator _ _ (fun op => ?_) (driver.createInstance_quiet info allocator answers)
    simp only [step, Step.map, createInstance]
    split <;> simp [Except.map]
  | createWin32Surface owner parent allocator =>
    exact .diagnosed _ _ _ (by simp [Call.entryPoint])
      ((createWin32Surface_diagnosed sound room owner parent allocator answers).map _)
  | destroyInstance handle allocator =>
    exact .diagnosed _ _ _ (by simp [Call.entryPoint]) ((driver.destroyInstance_diagnosed handle allocator).map _)
  | destroySurface owner handle allocator =>
    exact .diagnosed _ _ _ (by simp [Call.entryPoint])
      ((driver.destroySurface_diagnosed owner handle allocator).map _)
  | enumerateExtensions layer buffer =>
    exact .diagnosed _ _ _ (by simp [Call.entryPoint]) ((driver.enumerateExtensions_diagnosed layer buffer).map _)
  | getDeviceProcAddr | getInstanceProcAddr | presentationSupport =>
    exact .diagnosed _ _ _ (by simp [Call.entryPoint]) (.succeeded _ _ rfl)
  | _ => exact .stub _ _

/-- While the store has room: a call that is not implemented warns once, with its name, and reports no error; any
other call that fails reports an error, except for the creation of an instance; and a call that succeeds reports
none. -/
theorem failures_diagnosed (windows : WindowSystem) (calls : List (Call × Answers)) (call : Call)
    (answers : Answers) (room : ((fresh windows).after calls).surfaces.live < Arena.slotLimit) :
    let step := ((fresh windows).after calls).step call answers
    (∀ op, step.result = .error (.notImplemented op) →
      (∃ warning arguments, step.log.filter (fun notice => notice.level = .warn) = [warning] ∧
        warning.text = "stub: " ++ op.command ++ " " ++ arguments) ∧
      ∀ notice ∈ step.log, notice.level ≠ .error) ∧
    (∀ error, step.result = .error error → (∀ op, error ≠ .notImplemented op) →
      ((∃ notice ∈ step.log, notice.level = .error) ↔ call.entryPoint ≠ .createInstance)) ∧
    ∀ reply, step.result = .ok reply → ∀ notice ∈ step.log, notice.level ≠ .error := by
  intro step
  have logs : Logs call step.result step.log := step_logs (wellFormed_after windows calls) room call answers
  generalize step.result = result, step.log = log at logs
  have quiet_iff : reported log = false ↔ ∀ notice ∈ log, notice.level ≠ .error := by simp [reported]
  have told_iff : reported log = true ↔ ∃ notice ∈ log, notice.level = .error := by simp [reported]
  rw [← quiet_iff, ← told_iff]
  cases logs with
  | stub call arguments =>
    refine ⟨?_, ?_, nofun⟩
    · rintro op ⟨⟩
      exact ⟨⟨_, _, rfl, rfl⟩, rfl⟩
    · rintro error ⟨⟩ other
      exact absurd rfl (other _)
  | creation info allocator result log other quiet =>
    refine ⟨fun op failed => absurd failed (other op), fun _ _ _ => ?_, fun _ _ => quiet⟩
    simp [quiet, Call.entryPoint]
  | diagnosed call result log another diagnosed =>
    cases diagnosed with
    | succeeded value _ quiet => exact ⟨nofun, nofun, fun _ _ => quiet⟩
    | failed error _ other told =>
      refine ⟨?_, fun _ _ _ => ?_, nofun⟩
      · rintro op ⟨⟩
        exact absurd rfl (other op)
      · simp [told, another]

/-- The native driver refuses a surface, and the log tells of it. -/
theorem failures_diagnosed_of_refusedSurface :
    let calls : List (Call × Answers) := [(.createInstance {} .absent, { written := some 16 })]
    let driver := (fresh ⟨3, 4, 0⟩).after calls
    let step := driver.step (.createWin32Surface 16 7 .absent) { code := .initializationFailed, window := some 5 }
    (driver.surfaces.live < Arena.slotLimit ∧ step.result = .error (.native .initializationFailed)) ∧
      ∃ notice ∈ step.log, notice.level = .error := by
  intro calls driver step
  have room : driver.surfaces.live < Arena.slotLimit := by decide
  have failed : step.result = .error (.native .initializationFailed) := by decide
  obtain ⟨_, failures, _⟩ := failures_diagnosed ⟨3, 4, 0⟩ calls (.createWin32Surface 16 7 .absent)
    { code := .initializationFailed, window := some 5 } room
  exact ⟨⟨room, failed⟩, (failures _ failed nofun).mpr nofun⟩

/-- The native driver refuses an instance, and nothing in the log tells of it. -/
theorem refused_instance_unreported :
    let driver := fresh ⟨3, 4, 0⟩
    let step := driver.step (.createInstance {} .absent) { code := .initializationFailed }
    driver.surfaces.live < Arena.slotLimit ∧ step.result = .error (.native .initializationFailed) ∧
      ¬ ∃ notice ∈ step.log, notice.level = .error := by
  decide

end Driver
end SurfaceBridge
