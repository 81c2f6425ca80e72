import SurfaceBridge.Proofs.Driver.Atomicity
import SurfaceBridge.Service

/-! Creations and destructions through the table run in step with those of the driver itself. A creation that lacks
its descriptor or a place for its handle never happens; any other call does what the driver's operation does, and
its code and what it writes tell how that went. -/
namespace SurfaceBridge

/-- Whether the call creates or destroys an instance or a surface. -/
def TableCall.isLifecycle : TableCall → Bool
  | createInstance .. | createWin32Surface .. | destroyInstance .. | destroySurface .. => true
  | _ => false

/-- The operation of the driver that a creation or a destruction stands for, unless a pointer that it needs is
null. -/
def TableCall.operation? : TableCall → Option Call
  | createInstance (some info) allocator true => some (.createInstance info allocator)
  | createWin32Surface owner (some parent) allocator true => some (.createWin32Surface owner parent allocator)
  | destroyInstance handle allocator => some (.destroyInstance handle allocator)
  | destroySurface owner handle allocator => some (.destroySurface owner handle allocator)
  | _ => none

theorem TableCall.call?_createInstance (info : Option InstanceInfo) (allocator : Allocator) (out : Bool) :
    (createInstance info allocator out).call? =
      (if out then info else none).map fun info => .createInstance info allocator := by
  cases info <;> cases out <;> rfl

theorem TableCall.call?_createWin32Surface (owner : InstanceHandle) (parent : Option HostWindow)
    (allocator : Allocator) (out : Bool) :
    (createWin32Surface owner parent allocator out).call? =
      (if out then parent else none).map fun parent => .createWin32Surface owner parent allocator := by
  cases parent <;> cases out <;> rfl

theorem TableCall.call?_eq_operation? {call : TableCall} (lifecycle : call.isLifecycle) :
    call.call? = call.operation? := by
  cases call with
  | createInstance info allocator out => cases info <;> cases out <;> rfl
  | createWin32Surface owner parent allocator out => cases parent <;> cases out <;> rfl
  | destroyInstance | destroySurface => rfl
  | _ => cases lifecycle

namespace Service

/-- A run of calls through the table: the service after it, and what left the driver. Without a driver nothing
happens. -/
def serve (service : Service) : List (TableCall × Answers) → Service × List Event
  | [] => (service, [])
  | (call, answers) :: rest =>
    match service.call? call answers with
    | none => service.serve rest
    | some (next, step) =>
      let (last, events) := next.serve rest
      (last, step.events ++ events)

/-- The operations behind a run of calls, with the answers that they meet. -/
def operations (source : DriverSource) (calls : List (TableCall × Answers)) : List (Call × Answers) :=
  calls.filterMap fun (call, answers) => call.operation?.map fun operation => (operation, heard source answers)

theorem call?_eq_serve (service : Service) (source : DriverSource) (driver : Driver) (call : TableCall)
    (answers : Answers) :
    let step := driver.serve call (heard source answers)
    { service with installed := some (source, driver) }.call? call answers =
      some ({ service with installed := some (source, step.driver) }, step) :=
  rfl

/-- A run through the table is the run of the operations behind it. -/
theorem serve_eq (service : Service) (source : DriverSource) (driver : Driver)
    {calls : List (TableCall × Answers)} (lifecycle : ∀ call ∈ calls, call.1.isLifecycle) :
    { service with installed := some (source, driver) }.serve calls =
      ({ service with installed := some (source, driver.after (operations source calls)) },
        driver.trace (operations source calls)) := by
  induction calls generalizing driver with
  | nil => rfl
  | cons first calls ih =>
    obtain ⟨call, answers⟩ := first
    have reaches := TableCall.call?_eq_operation? (lifecycle _ List.mem_cons_self)
    have rest := fun driver => ih driver fun call member => lifecycle call (List.mem_cons_of_mem _ member)
    simp only at reaches
    rw [serve, call?_eq_serve]
    simp only [rest, Driver.serve, reaches, operations, List.filterMap_cons]
    cases call.operation? with
    | none => rfl
    | some operation => rfl

end Service

namespace Driver
open Handle Service

/-- The code of a surface's creation: the first thing that is in its way decides. -/
def surfaceCode (driver : Driver) (owner : InstanceHandle) (answers : Answers) : ResultCode :=
  if owner ∉ driver.instances then .initializationFailed
  else if answers.desktop = false then .incompatibleDriver
  else if answers.window = none ∨ driver.surfaces.live = Arena.slotLimit then .outOfHostMemory
  else answers.code

/-- The handle is that of a live instance. -/
def HasInstance (driver : Driver) (handle : UInt64) : Prop := handle ∈ driver.instances

/-- The handle is that of a live surface. -/
def HasSurface (driver : Driver) (handle : UInt64) : Prop := (driver.surfaces.get? handle).isSome

/-- How a creation of the driver ended: it made something that the driver now knows, or it failed with an error of
the code and changed nothing that callers see. -/
def Settles (driver next : Driver) (result : Except DriverError Reply) (Live : Driver → UInt64 → Prop)
    (code : ResultCode) : Prop :=
  (∃ handle, result = .ok (.handle handle) ∧ Live next handle ∧ code = .success) ∨
    ∃ e, result = .error e ∧ e.code = code ∧ code ≠ .success ∧ SameView driver next

namespace Transition

variable {driver next : Driver} {answers : Answers} {result : Except DriverError Reply} {events : List Event}
  {allocator : Allocator}

theorem createInstance_settles {info : InstanceInfo}
    (path : Transition driver answers (.createInstance info allocator) next result events) :
    Settles driver next result HasInstance answers.code := by
  cases path with
  | instanceCreated _ _ success => exact .inl ⟨_, rfl, List.mem_insert_self, success⟩
  | instanceFailed _ _ failed => exact .inr ⟨_, rfl, rfl, failed, .refl driver⟩
  | other _ _ _ query => cases query

theorem createWin32Surface_settles {owner : InstanceHandle} {parent : HostWindow}
    (path : Transition driver answers (.createWin32Surface owner parent allocator) next result events)
    (sound : driver.surfaces.WellFormed) :
    Settles driver next result HasSurface (driver.surfaceCode owner answers) := by
  cases path with
  | creatorDead _ _ _ dead =>
    rw [surfaceCode, if_pos dead]
    exact .inr ⟨_, rfl, rfl, by decide, .refl driver⟩
  | childRefused _ _ _ live child =>
    rw [surfaceCode, if_neg (not_not.mpr live), if_pos child]
    exact .inr ⟨_, rfl, rfl, by decide, .refl driver⟩
  | windowFailed _ _ _ live desktop missing =>
    rw [surfaceCode, if_neg (not_not.mpr live), if_neg (by simp [desktop]), if_pos (.inl missing)]
    exact .inr ⟨_, rfl, rfl, by decide, .refl driver⟩
  | storeFull _ _ _ _ live desktop _ full =>
    rw [surfaceCode, if_neg (not_not.mpr live), if_neg (by simp [desktop]),
      if_pos (.inr ((Arena.insert_eq_none_iff sound).mp full))]
    exact .inr ⟨_, rfl, rfl, by decide, .refl driver⟩
  | surfaceFailed _ _ _ _ rest _ live desktop made failed forfeits =>
    have room := (forfeits.live_lt sound).ne
    rw [surfaceCode, if_neg (not_not.mpr live), if_neg (by simp [desktop]), if_neg (by simp [made, room])]
    exact .inr ⟨_, rfl, rfl, failed, rfl, rfl, forfeits.get?_eq⟩
  | surfaceCreated _ _ _ _ _ index live desktop made success stores =>
    have room := (stores.live_lt sound).ne
    rw [surfaceCode, if_neg (not_not.mpr live), if_neg (by simp [desktop]), if_neg (by simp [made, room])]
    have found := stores.get?_eq sound (Arena.handle index (driver.surfaces.slotAt index).generation)
    rw [if_pos rfl] at found
    exact .inl ⟨_, rfl, Option.isSome_iff_exists.mpr ⟨_, found⟩, success⟩
  | other _ _ _ query => cases query

theorem createWin32Surface_dead {owner : InstanceHandle} {parent : HostWindow}
    (path : Transition driver answers (.createWin32Surface owner parent allocator) next result events)
    (dead : owner ∉ driver.instances) : events = [] := by
  cases path with
  | creatorDead => rfl
  | other _ _ _ query => cases query
  | _ => contradiction

end Transition

/-- What the caller of the table finds after a creation. `direct` is the answer of the driver's own operation, if the
call got that far, and `Live` says which handles a driver knows. -/
structure Creation (driver : Driver) (step : Step TableReply) (direct : Option (Except DriverError UInt64))
    (Live : Driver → UInt64 → Prop) (code : ResultCode) (written : Option UInt64) : Prop where
  reply : step.result = .result code written
  success_iff : code = .success ↔ written.isSome
  written_iff : ∀ handle, written = some handle ↔ direct = some (.ok handle)
  live : ∀ handle, written = some handle → Live step.driver handle
  view : written = none → SameView driver step.driver

theorem serve_of_reaches {driver : Driver} {call : TableCall} {operation : Call} (answers : Answers)
    (reaches : call.call? = some operation) :
    driver.serve call answers = (driver.step operation answers).map call.reply := by
  rw [serve, reaches]

/-- A creation that lacks a pointer. -/
theorem creation_leftOut (driver : Driver) {call : TableCall} (answers : Answers) (Live : Driver → UInt64 → Prop)
    (absent : call.call? = none) (refused : call.refusal = .result .initializationFailed none) :
    Creation driver (driver.serve call answers) none Live .initializationFailed none ∧
      (driver.serve call answers).events = [] := by
  have served : driver.serve call answers = { driver := driver, result := call.refusal } := by
    rw [serve, absent]
  rw [served, refused]
  exact ⟨⟨rfl, by decide, by simp, by simp, fun _ => .refl driver⟩, rfl⟩

/-- A creation that reaches the driver. -/
theorem creation_of_settles {driver : Driver} {call : TableCall} {operation : Call} {answers : Answers}
    {made : Except DriverError UInt64} {Live : Driver → UInt64 → Prop} {code : ResultCode}
    (reaches : call.call? = some operation) (same : (driver.step operation answers).result = made.map .handle)
    (reports : ∀ e, call.reply (.error e) = .result e.code none)
    (settles : Settles driver (driver.step operation answers).driver (driver.step operation answers).result Live
      code) :
    ∃ written, Creation driver (driver.serve call answers) (some made) Live code written := by
  rw [serve_of_reaches answers reaches]
  cases made with
  | ok handle =>
    rcases settles with ⟨new, ok, live, rfl⟩ | ⟨e, failed, _⟩
    · obtain rfl : handle = new := Reply.handle.inj (Except.ok.inj (same.symm.trans ok))
      refine ⟨some handle, congrArg call.reply same, by simp, ?_, ?_, by simp⟩
      · simp
      · rintro _ ⟨⟩
        exact live
    · cases same.symm.trans failed
  | error e =>
    rcases settles with ⟨new, ok, _⟩ | ⟨e', failed, rfl, unsuccessful, view⟩
    · cases same.symm.trans ok
    · obtain rfl : e = e' := Except.error.inj (same.symm.trans failed)
      refine ⟨none, (congrArg call.reply same).trans (reports e), by simp [unsuccessful], ?_, ?_, fun _ => view⟩
      · simp
      · simp

/-- The creation of an instance through the table of a reachable driver. -/
theorem serve_createInstance (windows : WindowSystem) (direct : List (Call × Answers))
    (info : Option InstanceInfo) (allocator : Allocator) (out : Bool) (answers : Answers) :
    let driver := (fresh windows).after direct
    let step := driver.serve (.createInstance info allocator out) answers
    let given := if out then info else none
    (∃ written, Creation driver step (given.map fun info => (driver.createInstance info allocator answers).result)
      HasInstance (if given = none then .initializationFailed else answers.code) written) ∧
      (given = none → step.events = []) := by
  intro driver step given
  have reaches := TableCall.call?_createInstance info allocator out
  cases provided : given with
  | none =>
    have absent := reaches.trans (congrArg (Option.map _) provided)
    obtain ⟨creation, silent⟩ := creation_leftOut driver answers HasInstance absent rfl
    exact ⟨⟨none, creation⟩, fun _ => silent⟩
  | some info' =>
    have path := transition_after windows direct (.createInstance info' allocator) answers
    have served := reaches.trans (congrArg (Option.map _) provided)
    rw [if_neg (Option.some_ne_none info')]
    exact ⟨creation_of_settles served rfl (fun _ => rfl) path.createInstance_settles, by simp⟩

/-- The creation of a surface through the table of a reachable driver. -/
theorem serve_createWin32Surface (windows : WindowSystem) (direct : List (Call × Answers))
    (owner : InstanceHandle) (parent : Option HostWindow) (allocator : Allocator) (out : Bool)
    (answers : Answers) :
    let driver := (fresh windows).after direct
    let step := driver.serve (.createWin32Surface owner parent allocator out) answers
    let given := if out then parent else none
    (∃ written, Creation driver step
      (given.map fun parent => (driver.createWin32Surface owner parent allocator answers).result)
      HasSurface (if given = none then .initializationFailed else driver.surfaceCode owner answers) written) ∧
      (given = none ∨ owner ∉ driver.instances → step.events = []) := by
  intro driver step given
  have reaches := TableCall.call?_createWin32Surface owner parent allocator out
  cases provided : given with
  | none =>
    have absent := reaches.trans (congrArg (Option.map _) provided)
    obtain ⟨creation, silent⟩ := creation_leftOut driver answers HasSurface absent rfl
    exact ⟨⟨none, creation⟩, fun _ => silent⟩
  | some parent' =>
    have path := transition_after windows direct (.createWin32Surface owner parent' allocator) answers
    have served := reaches.trans (congrArg (Option.map _) provided)
    have settles := path.createWin32Surface_settles (wellFormed_after windows direct)
    rw [if_neg (Option.some_ne_none parent')]
    refine ⟨creation_of_settles served rfl (fun _ => rfl) settles, ?_⟩
    rintro (absent | dead)
    · cases absent
    · have whole : step.events = _ := congrArg Step.events (serve_of_reaches answers served)
      exact whole.trans (path.createWin32Surface_dead dead)

/-- A run of creations and destructions through the table does what the operations behind it do to the driver without
a table: the same events, and the same driver in the end. At any time a creation answers success exactly if the
operation did, exactly if it wrote a handle, and that handle is live then. Otherwise it wrote nothing, changed
nothing that callers see, and its code says why. -/
theorem table_simulates_driver (service : Service) (source : DriverSource) (windows : WindowSystem)
    (earlier : List (Call × Answers)) (calls : List (TableCall × Answers))
    (lifecycle : ∀ call ∈ calls, call.1.isLifecycle) :
    let placed := (fresh windows).after earlier
    let start : Service := { service with installed := some (source, placed) }
    let direct := operations source calls
    let driver := placed.after direct
    start.serve calls = ({ service with installed := some (source, driver) }, placed.trace direct) ∧
    (∀ info allocator out answers,
      let met := heard source answers
      let step := driver.serve (.createInstance info allocator out) met
      let given := if out then info else none
      (start.serve calls).1.call? (.createInstance info allocator out) answers =
        some ({ service with installed := some (source, step.driver) }, step) ∧
      (∃ written, Creation driver step (given.map fun info => (driver.createInstance info allocator met).result)
        HasInstance (if given = none then .initializationFailed else met.code) written) ∧
      (given = none → step.events = [])) ∧
    ∀ owner parent allocator out answers,
      let met := heard source answers
      let step := driver.serve (.createWin32Surface owner parent allocator out) met
      let given := if out then parent else none
      (start.serve calls).1.call? (.createWin32Surface owner parent allocator out) answers =
        some ({ service with installed := some (source, step.driver) }, step) ∧
      (∃ written, Creation driver step
        (given.map fun parent => (driver.createWin32Surface owner parent allocator met).result)
        HasSurface (if given = none then .initializationFailed else driver.surfaceCode owner met) written) ∧
      (given = none ∨ owner ∉ driver.instances → step.events = []) := by
  intro placed start direct driver
  have run := service.serve_eq source placed lifecycle
  have last : (start.serve calls).1 = { service with installed := some (source, driver) } :=
    congrArg Prod.fst run
  have whole : driver = (fresh windows).after (earlier ++ direct) := (after_append _ earlier direct).symm
  refine ⟨run, ?_, ?_⟩
  · intro info allocator out answers met step given
    have next := service.call?_eq_serve source driver (.createInstance info allocator out) answers
    have creation := serve_createInstance windows (earlier ++ direct) info allocator out met
    rw [← whole] at creation
    exact ⟨last ▸ next, creation⟩
  · intro owner parent allocator out answers met step given
    have next := service.call?_eq_serve source driver (.createWin32Surface owner parent allocator out) answers
    have creation := serve_createWin32Surface windows (earlier ++ direct) owner parent allocator out met
    rw [← whole] at creation
    exact ⟨last ▸ next, creation⟩

/-- A descriptor and a place for a handle are missing, a host's window function fails, and a slot is vacated. -/
def nullPointers : List (TableCall × Answers) := [
  (.createInstance none .absent true, { written := some 15 }),
  (.createInstance (some {}) .absent true, { written := some 16 }),
  (.createWin32Surface 16 (some 7) .absent false, { written := some 31, window := some 4 }),
  (.createWin32Surface 16 (some 7) .absent true, { written := some 32, window := some 0 }),
  (.createWin32Surface 16 (some 7) .callbacks true, { written := some 32, window := some 5 }),
  (.destroySurface 16 1 .absent, {})]

theorem table_simulates_driver_of_nullPointers :
    let start : Service := { installed := some (.built 0, fresh ⟨3, 4, 0⟩) }
    let direct := operations (.built 0) nullPointers
    let driver := (fresh ⟨3, 4, 0⟩).after direct
    let step := driver.serve (.createWin32Surface 16 (some 8) .absent true) { written := some 33, window := some 6 }
    (∀ call ∈ nullPointers, call.1.isLifecycle) ∧ direct.length = 4 ∧
    start.serve nullPointers = ({ installed := some (.built 0, driver) }, (fresh ⟨3, 4, 0⟩).trace direct) ∧
    Creation driver step (some (.ok 0x100000001)) HasSurface .success (some 0x100000001) := by
  intro start direct driver step
  have lifecycle : ∀ call ∈ nullPointers, call.1.isLifecycle := by decide
  obtain ⟨run, _, surfaces⟩ := table_simulates_driver {} (.built 0) ⟨3, 4, 0⟩ [] nullPointers lifecycle
  obtain ⟨_, ⟨written, creation⟩, _⟩ :=
    surfaces 16 (some 8) .absent true { written := some 33, window := some 6 }
  have answered : step.result = .result .success (some 0x100000001) := by decide +kernel
  obtain ⟨code, rfl⟩ := TableReply.result.inj (creation.reply.symm.trans answered)
  rw [code] at creation
  exact ⟨lifecycle, by decide, run, creation⟩

end Driver
end SurfaceBridge
