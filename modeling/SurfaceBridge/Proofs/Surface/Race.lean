import SurfaceBridge.Proofs.Handle.Custody
import SurfaceBridge.Proofs.Surface.Routine

/-! Calls that race on one store: their accesses come in the order of a schedule, one at a time, and each takes its
call one step further. -/
namespace SurfaceBridge
open Handle

/-- Calls on one store, with what each of them still has to do. -/
structure Race (ι : Type) where
  store : SurfaceStore := {}
  rest : ι → Routine

/-- One access of the store by a call. -/
structure Access (ι : Type) where
  call : ι
  /-- The store as the access meets it. -/
  before : SurfaceStore
  operation : Operation Surface Bool

/-- A surface that a call got out of the store, with the handle that it was live under. -/
structure Grant (ι : Type) where
  call : ι
  handle : SurfaceHandle
  surface : Surface
  deriving DecidableEq

variable {ι : Type}

namespace Access

def answer (access : Access ι) : Answer Surface Bool := (access.before.perform access.operation).1

/-- The store as the access leaves it. -/
def after (access : Access ι) : SurfaceStore := (access.before.perform access.operation).2

/-- The access stores the surface and is answered the handle. -/
def Issues (access : Access ι) (handle : SurfaceHandle) (surface : Surface) : Prop :=
  access.operation = .insert surface ∧ access.answer = .handle handle

def grants (access : Access ι) : List (Grant ι) :=
  (access.before.leaving access.operation).map fun binding => ⟨access.call, binding.1, binding.2⟩

theorem map_handle_grants (access : Access ι) :
    access.grants.map (·.handle) = (access.before.leaving access.operation).map Sigma.fst :=
  List.map_map ..

theorem map_surface_grants (access : Access ι) :
    access.grants.map (·.surface) = (access.before.leaving access.operation).map Sigma.snd :=
  List.map_map ..

/-- The access changes nothing and gets nothing. -/
structure Idle (access : Access ι) : Prop where
  unchanged : access.after = access.before
  ungranted : access.grants = []

theorem Idle.of_read (i : ι) (store : SurfaceStore) (handle : SurfaceHandle) (f : Surface → Bool) :
    (⟨i, store, .read handle f⟩ : Access ι).Idle where
  unchanged := rfl
  ungranted := rfl

theorem Idle.of_dead (i : ι) {store : SurfaceStore} {handle : SurfaceHandle} (dead : store.get? handle = none) :
    (⟨i, store, .remove handle⟩ : Access ι).Idle where
  unchanged := by simp [after, Arena.perform, Arena.remove?_of_get?_eq_none dead]
  ungranted := by simp [grants, Arena.leaving, dead]

end Access

namespace Race

section Turns

variable [DecidableEq ι]

/-- Calls that have not begun, on a new store. -/
def start (calls : ι → StoreCall) : Race ι := { rest := fun i => (calls i).routine }

/-- One call has its next access; if it has ended, nothing happens. -/
def turn (race : Race ι) (i : ι) : Race ι :=
  match race.rest i with
  | .ended _ => race
  | .access operation next =>
    { store := (race.store.perform operation).2
      rest := Function.update race.rest i (next (race.store.perform operation).1) }

/-- The access that a call would have in its turn. -/
def access? (race : Race ι) (i : ι) : Option (Access ι) :=
  match race.rest i with
  | .ended _ => none
  | .access operation _ => some ⟨i, race.store, operation⟩

/-- The race after turns in the order of a schedule. -/
def after (race : Race ι) (schedule : List ι) : Race ι := schedule.foldl turn race

/-- The accesses that the calls have along a schedule. -/
def accesses (race : Race ι) : List ι → List (Access ι)
  | [] => []
  | i :: schedule => (race.access? i).toList ++ (race.turn i).accesses schedule

theorem after_concat (race : Race ι) (schedule : List ι) (i : ι) :
    race.after (schedule ++ [i]) = (race.after schedule).turn i :=
  List.foldl_concat ..

theorem accesses_concat (race : Race ι) (schedule : List ι) (i : ι) :
    race.accesses (schedule ++ [i]) = race.accesses schedule ++ ((race.after schedule).access? i).toList := by
  induction schedule generalizing race with
  | nil => simp [accesses, after]
  | cons j schedule ih => simp [accesses, after, ih]

/-- A turn of the call brings its end nearer, and no other turn puts it off. -/
theorem within_turn {race : Race ι} {i : ι} {n : Nat} (within : (race.rest i).Within n) (j : ι) :
    ((race.turn j).rest i).Within (n - if j == i then 1 else 0) := by
  rw [turn]
  by_cases same : j = i
  · subst same
    cases shape : race.rest j with
    | ended outcome =>
      simp only [shape]
      exact trivial
    | access operation go =>
      rw [shape] at within
      cases n with
      | zero => exact within.elim
      | succ n => simpa using within _
  · cases race.rest j with
    | ended => simpa [same] using within
    | access => simpa [same, Function.update_of_ne (Ne.symm same)] using within

theorem within_after {race : Race ι} {i : ι} {n : Nat} (within : (race.rest i).Within n) (schedule : List ι) :
    ((race.after schedule).rest i).Within (n - schedule.count i) := by
  induction schedule generalizing race n with
  | nil => exact within
  | cons j schedule ih =>
    have later := ih (within_turn within j)
    rwa [Nat.sub_sub, Nat.add_comm, ← List.count_cons] at later

/-- A call that has had two turns has ended. -/
theorem ended_after (calls : ι → StoreCall) {schedule : List ι} {i : ι} (turns : 2 ≤ schedule.count i) :
    ∃ outcome, ((start calls).after schedule).rest i = .ended outcome := by
  have begun : ((start calls).rest i).Within 2 := (calls i).routine_within
  have within := within_after begun schedule
  rw [Nat.sub_eq_zero_of_le turns] at within
  cases shape : ((start calls).after schedule).rest i with
  | ended outcome => exact ⟨outcome, rfl⟩
  | access =>
    rw [shape] at within
    exact within.elim

theorem run_turn (race : Race ι) (i : ι) :
    ((race.turn i).rest i).run (race.turn i).store = (race.rest i).run race.store := by
  rw [turn]
  cases shape : race.rest i with
  | ended => simp only [shape]
  | access => simp only [Function.update_self, Routine.run]

/-- A call whose turns nobody interrupts does what it does alone. -/
theorem after_replicate {race : Race ι} {i : ι} {n : Nat} (within : (race.rest i).Within n) :
    (race.after (List.replicate n i)).store = ((race.rest i).run race.store).2 ∧
      (race.after (List.replicate n i)).rest i = .ended ((race.rest i).run race.store).1 := by
  induction n generalizing race with
  | zero =>
    cases shape : race.rest i with
    | ended => exact ⟨rfl, shape⟩
    | access =>
      rw [shape] at within
      exact within.elim
  | succ n ih =>
    have later := within_turn within i
    rw [← run_turn]
    exact ih (by simpa using later)

end Turns

/-- How often a slot was retired: how many accesses took its surface out. -/
def retirements (accesses : List (Access ι)) (index : Nat) : Nat :=
  (accesses.map fun access => access.before.retired access.operation index).sum

theorem retirements_append (accesses later : List (Access ι)) (index : Nat) :
    retirements (accesses ++ later) index = retirements accesses index + retirements later index := by
  rw [retirements, List.map_append, List.sum_append]
  rfl

theorem retirements_le_length (accesses : List (Access ι)) (index : Nat) :
    retirements accesses index ≤ accesses.length := by
  induction accesses with
  | nil => exact Nat.le_refl 0
  | cons access accesses ih =>
    have here : access.before.retired access.operation index ≤ 1 := Arena.taken_le_one ..
    rw [retirements, List.map_cons, List.sum_cons, List.length_cons, Nat.add_comm]
    exact Nat.add_le_add ih here

/-- What the calls got out of the store, in order. -/
def grants (accesses : List (Access ι)) : List (Grant ι) := accesses.flatMap Access.grants

theorem grants_cons (access : Access ι) (accesses : List (Access ι)) :
    grants (access :: accesses) = access.grants ++ grants accesses :=
  List.flatMap_cons ..

theorem grants_append (accesses later : List (Access ι)) :
    grants (accesses ++ later) = grants accesses ++ grants later :=
  List.flatMap_append ..

theorem grants_singleton (access : Access ι) : grants [access] = access.grants := List.flatMap_singleton ..

theorem grants_idle {accesses : List (Access ι)} (idle : ∀ access ∈ accesses, access.Idle) : grants accesses = [] :=
  List.flatMap_eq_nil_iff.mpr fun access member => (idle access member).ungranted

theorem grants_filter [DecidableEq ι] (accesses : List (Access ι)) (i : ι) :
    grants (accesses.filter (·.call = i)) = (grants accesses).filter (·.call = i) := by
  induction accesses with
  | nil => rfl
  | cons access accesses ih =>
    have here : access.grants.filter (·.call = i) = if access.call = i then access.grants else [] := by
      rw [Access.grants, List.filter_map]
      by_cases same : access.call = i <;> simp [same, Function.comp_def]
    rw [grants_cons, List.filter_append, here, ← ih]
    by_cases same : access.call = i <;> simp [same, grants_cons]

/-- The surface was stored under the handle; the native driver's handle may have been filled in since. -/
def StoredAs (accesses : List (Access ι)) (handle : SurfaceHandle) (surface : Surface) : Prop :=
  ∃ access ∈ accesses, ∃ stored, access.Issues handle stored ∧ surface = { stored with native := surface.native }

theorem StoredAs.append {accesses : List (Access ι)} {handle : SurfaceHandle} {surface : Surface}
    (storedAs : StoredAs accesses handle surface) (later : List (Access ι)) :
    StoredAs (accesses ++ later) handle surface := by
  obtain ⟨access, member, stored, issues, same⟩ := storedAs
  exact ⟨access, List.mem_append_left later member, stored, issues, same⟩

end Race
end SurfaceBridge
