import SurfaceBridge.Proofs.Surface.Race

/-! A take removes its surface one access after it has asked for the owner, and anything may happen between the two.
Still no surface is taken twice, and none by a foreign instance: the handle names the same surface as long as it is
live, and never another one. -/
namespace SurfaceBridge.Race
open Handle

variable {ι : Type}

/-- What a call came to, by the accesses that it had. -/
inductive Concluded (i : ι) : StoreCall → List (Access ι) → StoreOutcome → Prop where
  | taken (owner handle accesses surface) : surface.owner = owner → grants accesses = [⟨i, handle, surface⟩] →
      Concluded i (.take owner handle) accesses (.taken (.ok surface) [])
  | refused (owner handle accesses log) : (∀ access ∈ accesses, access.Idle) →
      Concluded i (.take owner handle) accesses (.taken (.error (.invalidHandle .ofSurface handle)) log)
  | created (owner window answers accesses result dropped) :
      (grants accesses).map (·.surface) = dropped.toList →
      Concluded i (.create owner window answers) accesses (.created result dropped)
  | drained (owner accesses left) : (grants accesses).map (·.surface) = left →
      Concluded i (.drain owner) accesses (.drained left)

theorem Concluded.surfaces_eq {i : ι} {call : StoreCall} {accesses : List (Access ι)} {outcome : StoreOutcome}
    (concluded : Concluded i call accesses outcome) : outcome.surfaces = (grants accesses).map (·.surface) := by
  cases concluded with
  | taken _ _ _ _ _ granted =>
    rw [granted]
    rfl
  | refused _ _ _ _ idle =>
    rw [grants_idle idle]
    rfl
  | created _ _ _ _ _ _ granted => exact granted.symm
  | drained _ _ _ granted => exact granted.symm

/-- How far a call is, by the accesses that it had. A take that has asked for the owner relies on the handle: it
names a surface of that owner or none. -/
inductive Stage (ledger : Ledger Surface) (i : ι) : StoreCall → List (Access ι) → Routine → Prop where
  | begun (call) : Stage ledger i call [] call.routine
  | checked (owner handle accesses) : (∀ access ∈ accesses, access.Idle) → ledger.Keeps handle (·.owner = owner) →
      Stage ledger i (.take owner handle) accesses (.removal handle)
  | stored (owner window answers accesses handle) : grants accesses = [] →
      Stage ledger i (.create owner window answers) accesses (.settling answers handle)
  | ended (call accesses outcome) : Concluded i call accesses outcome → Stage ledger i call accesses (.ended outcome)

namespace Stage

variable {ledger next : Ledger Surface} {i : ι} {call : StoreCall} {accesses : List (Access ι)} {routine : Routine}
  {operation : Operation Surface Bool} {answer : Answer Surface Bool} {go : Answer Surface Bool → Routine}

/-- What another call does takes nothing from a stage, as long as the owners of surfaces stay. -/
theorem step (stage : Stage ledger i call accesses routine) (allowed : ledger.Allows operation answer next)
    (respects : ∀ owner, operation.Respects fun surface => surface.owner = owner) :
    Stage next i call accesses routine := by
  cases stage with
  | begun => exact .begun call
  | checked owner handle _ idle keeps =>
    exact .checked owner handle accesses idle (keeps.step allowed (respects owner))
  | stored owner window answers _ handle ungranted => exact .stored owner window answers accesses handle ungranted
  | ended _ _ outcome concluded => exact .ended call accesses outcome concluded

/-- No call changes anything of a surface but the native driver's handle. -/
theorem update_eq {handle : SurfaceHandle} {f : Surface → Bool × Surface}
    (stage : Stage ledger i call accesses (.access (.update handle f) go)) (surface : Surface) :
    ∃ native, (f surface).2 = { surface with native } := by
  generalize shape : Routine.access (.update handle f) go = routine at stage
  cases stage with
  | begun =>
    cases call <;> cases shape
  | checked => cases shape
  | stored owner window answers =>
    rw [Routine.settling] at shape
    split at shape
    · cases shape
      exact ⟨answers.handle, rfl⟩
    · cases shape
  | ended => cases shape

theorem respects (stage : Stage ledger i call accesses (.access operation go)) (owner : InstanceHandle) :
    operation.Respects fun surface => surface.owner = owner := by
  cases operation with
  | update handle f =>
    intro surface own
    obtain ⟨native, same⟩ := stage.update_eq surface
    rw [same]
    exact own
  | _ => exact trivial

theorem concluded {outcome : StoreOutcome} (stage : Stage ledger i call accesses (.ended outcome)) :
    Concluded i call accesses outcome := by
  generalize shape : Routine.ended outcome = routine at stage
  cases stage with
  | begun =>
    cases call <;> cases shape
  | checked => cases shape
  | stored owner window answers _ handle =>
    rw [Routine.settling] at shape
    split at shape <;> cases shape
  | ended _ _ _ concluded =>
    cases shape
    exact concluded

/-- What a call has to show is what it got. -/
theorem surfaces_eq (stage : Stage ledger i call accesses routine) :
    routine.surfaces = (grants accesses).map (·.surface) := by
  cases stage with
  | begun => cases call <;> rfl
  | checked _ _ _ idle =>
    rw [grants_idle idle]
    rfl
  | stored _ _ answers _ _ ungranted =>
    rw [ungranted, Routine.settling]
    split <;> rfl
  | ended _ _ _ concluded => exact concluded.surfaces_eq

section Turn

variable {store : SurfaceStore} {count : Nat → Nat}

/-- A take asks for the owner of its surface. -/
private theorem turn_take {owner : InstanceHandle} {handle : SurfaceHandle}
    (represents : store.Represents count ledger) (issued : ∀ word ∈ ledger.bound, word ∈ ledger.issued)
    (shape : (StoreCall.take owner handle).routine = .access operation go)
    (allowed : ledger.Allows operation (store.perform operation).1 next) :
    Stage next i (.take owner handle) [⟨i, store, operation⟩] (go (store.perform operation).1) := by
  cases shape
  have idle : ∀ access ∈ [(⟨i, store, .read handle fun surface => surface.owner = owner⟩ : Access ι)], access.Idle :=
    List.forall_mem_singleton.mpr (.of_read ..)
  cases found : store.get? handle with
  | none =>
    simp only [Arena.perform, found]
    exact .ended _ _ _ (.refused owner handle _ [] idle)
  | some surface =>
    by_cases own : surface.owner = owner
    · have keeps : ledger.Keeps handle (·.owner = owner) := by
        refine ⟨issued _ (represents.mem_bound found), fun value live => ?_⟩
        rw [← represents.agrees, found, Option.some.injEq] at live
        exact live ▸ own
      have kept := keeps.step allowed trivial
      simp only [Arena.perform, found, Option.map_some, decide_eq_true own]
      exact .checked owner handle _ idle kept
    · simp only [Arena.perform, found, Option.map_some, decide_eq_false own]
      exact .ended _ _ _ (.refused owner handle _ _ idle)

/-- A take removes its surface: what the handle names now is the owner's, if it names anything. -/
private theorem turn_removal {owner : InstanceHandle} {handle : SurfaceHandle}
    (represents : store.Represents count ledger) (idle : ∀ access ∈ accesses, access.Idle)
    (keeps : ledger.Keeps handle (·.owner = owner)) (shape : Routine.removal handle = .access operation go) :
    Stage next i (.take owner handle) (accesses ++ [⟨i, store, operation⟩]) (go (store.perform operation).1) := by
  cases shape
  rw [Arena.perform_remove]
  cases found : store.get? handle with
  | none =>
    refine .ended _ _ _ (.refused owner handle _ [] fun access member => ?_)
    rcases List.mem_append.mp member with before | now
    · exact idle access before
    · exact List.mem_singleton.mp now ▸ .of_dead i found
  | some surface =>
    have own : surface.owner = owner := keeps.2 surface (represents.agrees handle ▸ found)
    refine .ended _ _ _ (.taken owner handle _ surface own ?_)
    rw [grants_append, grants_idle idle, grants_singleton, Access.grants, Arena.leaving, found]
    rfl

private theorem turn_create {owner : InstanceHandle} {window : Window} {answers : Answers}
    (shape : (StoreCall.create owner window answers).routine = .access operation go) :
    Stage next i (.create owner window answers) [⟨i, store, operation⟩] (go (store.perform operation).1) := by
  cases shape
  simp only [Arena.perform]
  cases store.insert { owner, window, native := 0 } with
  | none => exact .ended _ _ _ (.created owner window answers _ _ none rfl)
  | some stored => exact .stored owner window answers _ stored.1 rfl

private theorem turn_settling {owner : InstanceHandle} {window : Window} {answers : Answers} {handle : SurfaceHandle}
    (ungranted : grants accesses = []) (shape : Routine.settling answers handle = .access operation go) :
    Stage next i (.create owner window answers) (accesses ++ [⟨i, store, operation⟩])
      (go (store.perform operation).1) := by
  rw [Routine.settling] at shape
  split at shape
  · cases shape
    refine .ended _ _ _ (.created owner window answers _ _ none ?_)
    rw [grants_append, ungranted]
    rfl
  · cases shape
    rw [Arena.perform_remove]
    refine .ended _ _ _ (.created owner window answers _ _ (store.get? handle) ?_)
    rw [grants_append, ungranted, grants_singleton, Access.grants, Arena.leaving]
    cases store.get? handle <;> rfl

private theorem turn_drain {owner : InstanceHandle}
    (shape : (StoreCall.drain owner).routine = .access operation go) :
    Stage next i (.drain owner) [⟨i, store, operation⟩] (go (store.perform operation).1) := by
  cases shape
  refine .ended _ _ _ (.drained owner _ (store.drain fun surface => surface.owner = owner).1 ?_)
  rw [grants_singleton, Access.map_surface_grants]
  exact (Arena.values_perform store (.drain _)).symm

/-- A call in its turn goes to its next stage. -/
theorem turn (stage : Stage ledger i call accesses (.access operation go))
    (represents : store.Represents count ledger) (issued : ∀ word ∈ ledger.bound, word ∈ ledger.issued)
    (allowed : ledger.Allows operation (store.perform operation).1 next) :
    Stage next i call (accesses ++ [⟨i, store, operation⟩]) (go (store.perform operation).1) := by
  generalize shape : Routine.access operation go = routine at stage
  cases stage with
  | begun =>
    rw [List.nil_append]
    cases call with
    | take => exact turn_take represents issued shape.symm allowed
    | create => exact turn_create shape.symm
    | drain => exact turn_drain shape.symm
  | checked _ _ _ idle keeps => exact turn_removal represents idle keeps shape.symm
  | stored _ _ _ _ _ ungranted => exact turn_settling ungranted shape.symm
  | ended => cases shape

end Turn

end Stage

/-- Every surface that is live after an access was stored under its handle, if that was so before. -/
theorem StoredAs.step {ledger next : Ledger Surface} {i : ι} {call : StoreCall} {accesses own : List (Access ι)}
    {store : SurfaceStore} {operation : Operation Surface Bool} {go : Answer Surface Bool → Routine}
    (stage : Stage ledger i call own (.access operation go))
    (allowed : ledger.Allows operation (store.perform operation).1 next)
    (storedAs : ∀ handle surface, ledger.bound.lookup handle = some surface → StoredAs accesses handle surface)
    {handle : SurfaceHandle} {surface : Surface} (found : next.bound.lookup handle = some surface) :
    StoredAs (accesses ++ [⟨i, store, operation⟩]) handle surface := by
  obtain ⟨inserts, answers⟩ | ⟨f, before, rfl, live, rfl⟩ | live := allowed.lookup_cases found
  · exact ⟨_, List.mem_append_right accesses (List.mem_singleton_self _), surface, ⟨inserts, answers⟩, rfl⟩
  · obtain ⟨native, updated⟩ := stage.update_eq before
    obtain ⟨access, member, stored, issues, same⟩ := storedAs handle before live
    refine ⟨access, List.mem_append_left _ member, stored, issues, ?_⟩
    rw [updated, same]
  · exact (storedAs handle surface live).append _

section Invariant

variable [DecidableEq ι]

/-- What holds of a race at any time. -/
structure Tracked (calls : ι → StoreCall) (race : Race ι) (accesses : List (Access ι)) (ledger : Ledger Surface) :
    Prop where
  represents : race.store.Represents (retirements accesses) ledger
  balanced : ledger.Balanced ((grants accesses).map (·.handle))
  issued : ∀ access ∈ accesses, ∀ handle surface, access.Issues handle surface → handle ∈ ledger.issued
  live : ∀ handle surface, ledger.bound.lookup handle = some surface → StoredAs accesses handle surface
  granted : ∀ grant ∈ grants accesses, StoredAs accesses grant.handle grant.surface
  stages : ∀ i, Stage ledger i (calls i) (accesses.filter (·.call = i)) (race.rest i)

theorem tracked_start (calls : ι → StoreCall) : Tracked calls (start calls) [] {} where
  represents := Arena.represents_empty
  balanced := Ledger.balanced_empty
  issued := by simp
  live handle surface found := by cases Finmap.notMem_empty (Finmap.mem_of_lookup_eq_some found)
  granted := by simp [grants]
  stages i := .begun (calls i)

theorem Tracked.turn {calls : ι → StoreCall} {race : Race ι} {accesses : List (Access ι)} {ledger : Ledger Surface}
    (tracked : Tracked calls race accesses ledger) (few : ∀ index, retirements accesses index < 2 ^ 32) (i : ι) :
    ∃ next, Tracked calls (race.turn i) (accesses ++ (race.access? i).toList) next := by
  have stage := tracked.stages i
  rw [Race.turn, access?]
  cases shape : race.rest i with
  | ended outcome => exact ⟨ledger, by simpa using tracked⟩
  | access operation go =>
    rw [shape] at stage
    obtain ⟨next, allowed, represents⟩ := tracked.represents.step few operation
    have change := Arena.perform_change tracked.represents.sound operation
    have counts : retirements (accesses ++ [⟨i, race.store, operation⟩]) = fun index =>
        retirements accesses index + race.store.retired operation index :=
      funext fun index => by simp [retirements]
    refine ⟨next, {
      represents := counts ▸ represents
      balanced := ?balanced
      issued := ?issued
      live := fun handle surface found => .step stage allowed tracked.live found
      granted := ?granted
      stages := ?stages }⟩
    case balanced =>
      have handles := tracked.represents.balanced represents change allowed tracked.balanced
      rw [← Access.map_handle_grants ⟨i, race.store, operation⟩, ← List.map_append] at handles
      rwa [Option.toList_some, grants_append, grants_singleton]
    case issued =>
      intro access member handle surface issues
      rcases List.mem_append.mp member with before | now
      · exact allowed.mem_issued_iff.mpr (.inr (tracked.issued access before handle surface issues))
      · cases List.mem_singleton.mp now
        exact allowed.mem_issued_iff.mpr (.inl issues.2)
    case granted =>
      intro grant member
      rw [Option.toList_some, grants_append, grants_singleton, List.mem_append] at member
      rcases member with before | now
      · exact (tracked.granted grant before).append _
      · obtain ⟨binding, leaves, rfl⟩ := List.mem_map.mp now
        obtain ⟨live, _⟩ := (change.mem_leaving_iff tracked.represents.sound).mp leaves
        exact (tracked.live _ _ (tracked.represents.agrees _ ▸ live)).append _
    case stages =>
      intro j
      by_cases same : j = i
      · subst same
        simpa using stage.turn tracked.represents tracked.balanced.issued allowed
      · -- The others only need that this call leaves the owners of surfaces alone.
        have others := (tracked.stages j).step allowed stage.respects
        simpa [same, Ne.symm same] using others

theorem tracked_after (calls : ι → StoreCall) (schedule : List ι)
    (few : ∀ index, retirements ((start calls).accesses schedule) index < 2 ^ 32) :
    ∃ ledger, Tracked calls ((start calls).after schedule) ((start calls).accesses schedule) ledger := by
  induction schedule using List.reverseRecOn with
  | nil => exact ⟨{}, tracked_start calls⟩
  | append_singleton schedule i ih =>
    simp only [accesses_concat, retirements_append] at few
    have few' (index : Nat) := (Nat.le_add_right ..).trans_lt (few index)
    obtain ⟨ledger, tracked⟩ := ih few'
    rw [after_concat, accesses_concat]
    exact tracked.turn few' i

/-- Calls that race on a new store, in any number and in any order of their accesses. No handle gives its surface away
twice, and an issued one has given it away exactly when it is not live any more; what a call got was stored under its
handle. A take ends after two turns at the most: either it has got the surface of its handle, which is its owner's and
which nobody else gets, or it names the handle as invalid and has changed nothing. -/
theorem takes_release_once (calls : ι → StoreCall) (schedule : List ι)
    (wrapless : ∀ index, retirements ((start calls).accesses schedule) index < 2 ^ 32) :
    let race := (start calls).after schedule
    let accesses := (start calls).accesses schedule
    let granted := grants accesses
    (granted.map (·.handle)).Nodup ∧
    (∀ access ∈ accesses, ∀ handle surface, access.Issues handle surface →
      (handle ∈ granted.map (·.handle) ↔ ¬ race.store.contains handle)) ∧
    (∀ grant ∈ granted, StoredAs accesses grant.handle grant.surface) ∧
    (∀ i, (race.rest i).surfaces = (granted.filter (·.call = i)).map (·.surface)) ∧
    ∀ i owner handle, calls i = .take owner handle →
      (2 ≤ schedule.count i → ∃ outcome, race.rest i = .ended outcome) ∧
      ∀ outcome, race.rest i = .ended outcome →
        (∃ surface, outcome = .taken (.ok surface) [] ∧ surface.owner = owner ∧ ⟨i, handle, surface⟩ ∈ granted ∧
          ∀ grant ∈ granted, grant.handle = handle → grant.call = i) ∨
        (∃ log, outcome = .taken (.error (.invalidHandle .ofSurface handle)) log) ∧
          ∀ access ∈ accesses, access.call = i → access.after = access.before := by
  intro race accesses granted
  obtain ⟨ledger, tracked⟩ := tracked_after calls schedule wrapless
  have concluded {i : ι} {outcome : StoreOutcome} (ended : race.rest i = .ended outcome) :
      Concluded i (calls i) (accesses.filter (·.call = i)) outcome :=
    (ended ▸ tracked.stages i).concluded
  refine ⟨tracked.balanced.nodup, ?_, tracked.granted, ?_, ?_⟩
  · intro access member handle surface issues
    have issued := tracked.issued access member handle surface issues
    rw [tracked.balanced.mem_iff, and_iff_right issued, ← tracked.represents.get?_eq_none_iff, Arena.contains,
      Option.not_isSome_iff_eq_none]
  · intro i
    rw [(tracked.stages i).surfaces_eq, grants_filter]
  · intro i owner handle take
    refine ⟨ended_after calls, fun outcome ended => ?_⟩
    have outcomes := concluded ended
    rw [take] at outcomes
    cases outcomes with
    | taken _ _ _ surface own granted' =>
      rw [grants_filter] at granted'
      have obtained : ⟨i, handle, surface⟩ ∈ granted := List.mem_of_mem_filter (granted' ▸ List.mem_singleton_self _)
      refine .inl ⟨surface, rfl, own, obtained, fun grant member same => ?_⟩
      have only := List.inj_on_of_nodup_map tracked.balanced.nodup member obtained same
      rw [only]
    | refused _ _ _ log idle =>
      exact .inr ⟨⟨log, rfl⟩, fun access member mine =>
        (idle access (List.mem_filter.mpr ⟨member, by simpa using mine⟩)).unchanged⟩

end Invariant

/-- Two takes race for one surface, and the slot gets another owner's surface between the two accesses of the one that
loses. -/
def contested : Fin 4 → StoreCall
  | 0 => .create 16 5 { written := some 32 }
  | 1 | 2 => .take 16 1
  | 3 => .create 17 6 { written := some 33 }

theorem takes_release_once_of_contested :
    let race := (start contested).after [0, 0, 1, 2, 2, 3, 1, 3]
    let accesses := (start contested).accesses [0, 0, 1, 2, 2, 3, 1, 3]
    (∀ index, retirements accesses index < 2 ^ 32) ∧
      race.rest 1 = .ended (.taken (.error (.invalidHandle .ofSurface 1)) []) ∧
      race.rest 2 = .ended (.taken (.ok ⟨16, 5, 32⟩) []) ∧
      race.rest 3 = .ended (.created (.ok 0x100000001) none) ∧
      grants accesses = [⟨2, 1, ⟨16, 5, 32⟩⟩] ∧
      ((grants accesses).map (·.handle)).Nodup ∧
      ∀ access ∈ accesses, access.call = 1 → access.after = access.before := by
  intro race accesses
  have few (index : Nat) : retirements accesses index < 2 ^ 32 :=
    (retirements_le_length accesses index).trans_lt (by decide +kernel)
  obtain ⟨nodup, _, _, _, takes⟩ := takes_release_once contested [0, 0, 1, 2, 2, 3, 1, 3] few
  have lost : race.rest 1 = .ended (.taken (.error (.invalidHandle .ofSurface 1)) []) := rfl
  obtain ⟨_, outcomes⟩ := takes 1 16 1 rfl
  refine ⟨few, lost, rfl, rfl, by decide +kernel, nodup, ?_⟩
  obtain ⟨_, taken, _⟩ | ⟨_, unchanged⟩ := outcomes _ lost
  · cases taken
  · exact unchanged

end SurfaceBridge.Race
