import SurfaceBridge.Proofs.Handle.Pass
import Mathlib.Algebra.BigOperators.Group.List.Basic

/-! What any use of an arena can do to its slots. No use changes a slot but by filling it, refilling it or taking its
value out, and a slot is added only when all others are occupied. Runs of uses start from a new arena. -/
namespace SurfaceBridge.Handle

/-- One use of an arena; a drain may ask a question that remembers what it was asked. -/
inductive Use (α β : Type) : Type 1 where
  | perform (operation : Operation α β)
  | drainBy {σ : Type} (ask : α → StateM σ Bool) (state : σ)

namespace Arena

variable {α β σ : Type}

def after (arena : Arena α) : Use α β → Arena α
  | .perform operation => (arena.perform operation).2
  | .drainBy ask state => ((arena.drainBy ask).run state).1.2

/-- The handle that a use is answered with; only storing a value issues one. -/
def issued? (arena : Arena α) : Use α β → Option UInt64
  | .perform (.insert value) => (arena.insert value).map (·.1)
  | _ => none

/-- The arena after a run. -/
def afterAll (arena : Arena α) (uses : List (Use α β)) : Arena α := uses.foldl after arena

/-- The uses of a run, each with the arena that it found. -/
def history (arena : Arena α) : List (Use α β) → List (Arena α × Use α β)
  | [] => []
  | use :: rest => (arena, use) :: (arena.after use).history rest

/-- The handles that a run of a new arena was answered with. -/
def issued (uses : List (Use α β)) : List UInt64 :=
  (history {} uses).filterMap fun (found, use) => found.issued? use

/-- How often the value of a slot was taken out during a run of a new arena. -/
def withdrawals (uses : List (Use α β)) (index : Nat) : Nat :=
  ((history {} uses).map fun (found, use) => taken found (found.after use) index).sum

theorem afterAll_concat (arena : Arena α) (uses : List (Use α β)) (use : Use α β) :
    arena.afterAll (uses ++ [use]) = (arena.afterAll uses).after use :=
  List.foldl_concat ..

theorem history_concat (arena : Arena α) (uses : List (Use α β)) (use : Use α β) :
    arena.history (uses ++ [use]) = arena.history uses ++ [(arena.afterAll uses, use)] := by
  induction uses generalizing arena with
  | nil => rfl
  | cons first uses ih => exact congrArg ((arena, first) :: ·) (ih (arena.after first))

theorem mem_issued_concat {uses : List (Use α β)} {use : Use α β} {word : UInt64} :
    word ∈ issued (uses ++ [use]) ↔
      word ∈ issued uses ∨ (({} : Arena α).afterAll uses).issued? use = some word := by
  simp only [issued, history_concat, List.filterMap_append, List.mem_append, List.mem_filterMap,
    List.mem_singleton, exists_eq_left]

theorem withdrawals_concat (uses : List (Use α β)) (use : Use α β) (index : Nat) :
    withdrawals (uses ++ [use]) index = withdrawals uses index +
      taken (({} : Arena α).afterAll uses) ((({} : Arena α).afterAll uses).after use) index := by
  simp only [withdrawals, history_concat, List.map_append, List.sum_append, List.map_singleton,
    List.sum_singleton]

/-- What one use can do. The table stays as long as it is, or a slot is added to it: then none was vacant, and none
is. -/
structure Evolves (arena next : Arena α) : Prop where
  wellFormed : next.WellFormed
  follows : ∀ index, (arena.slotAt index).Follows (next.slotAt index)
  size : next.slots.size = arena.slots.size ∨
    arena.free = [] ∧ next.free = [] ∧ next.slots.size = arena.slots.size + 1

variable {arena stored rest : Arena α} {word : UInt64} {value : α} {words : List UInt64} {values : List α}

theorem size_insert (done : arena.insert value = some (word, stored)) :
    stored.slots.size = arena.slots.size ∨
      arena.free = [] ∧ stored.free = [] ∧ stored.slots.size = arena.slots.size + 1 := by
  unfold insert at done
  cases next : arena.free with
  | cons index free =>
    simp only [next, Option.some.injEq, Prod.mk.injEq] at done
    obtain ⟨-, rfl⟩ := done
    exact .inl Array.size_modify
  | nil =>
    simp only [next, Option.ite_none_right_eq_some, Option.some.injEq, Prod.mk.injEq] at done
    obtain ⟨-, -, rfl⟩ := done
    exact .inr ⟨rfl, rfl, Array.size_push _⟩

theorem size_modify (arena : Arena α) (word : UInt64) (f : α → α) :
    (arena.modify word f).slots.size = arena.slots.size := by
  rw [modify]
  split
  · rfl
  · exact Array.size_modify

theorem size_remove? (done : arena.remove? word = some (value, rest)) : rest.slots.size = arena.slots.size := by
  unfold remove? at done
  split at done
  · cases done
  · simp only [Option.some.injEq, Prod.mk.injEq] at done
    obtain ⟨-, rfl⟩ := done
    exact Array.size_modify

theorem size_drain (arena : Arena α) (p : α → Bool) : (arena.drain p).2.slots.size = arena.slots.size :=
  Array.size_map

theorem size_perform (arena : Arena α) (operation : Operation α β) :
    (arena.perform operation).2.slots.size = arena.slots.size ∨
      arena.free = [] ∧ (arena.perform operation).2.free = [] ∧
        (arena.perform operation).2.slots.size = arena.slots.size + 1 := by
  cases operation with
  | insert value =>
    simp only [perform]
    cases done : arena.insert value with
    | none => exact .inl rfl
    | some placed => exact size_insert done
  | update word f => exact .inl (size_modify arena word _)
  | remove word =>
    simp only [perform]
    cases done : arena.remove? word with
    | none => exact .inl rfl
    | some found => exact .inl (size_remove? done)
  | drain p => exact .inl (size_drain arena p)
  | _ => exact .inl rfl

theorem perform_evolves (sound : arena.WellFormed) (operation : Operation α β) :
    arena.Evolves (arena.perform operation).2 where
  wellFormed := (perform_change sound operation).wellFormed sound
  follows := (perform_change sound operation).follows
  size := size_perform arena operation

namespace Removes

theorem wellFormed (removes : arena.Removes words values rest) (sound : arena.WellFormed) : rest.WellFormed := by
  induction removes with
  | done => exact sound
  | step taken _ ih =>
    obtain ⟨_, _, retires⟩ := remove?_spec sound taken
    exact ih retires.wellFormed

theorem size_eq (removes : arena.Removes words values rest) : rest.slots.size = arena.slots.size := by
  induction removes with
  | done => rfl
  | step taken _ ih => exact ih.trans (size_remove? taken)

/-- Along removals a slot stays as it is, or it is retired once: then it is vacant, and no removal finds it again. -/
theorem slotAt_cases (removes : arena.Removes words values rest) (sound : arena.WellFormed) (index : Nat) :
    rest.slotAt index = arena.slotAt index ∨
      (arena.slotAt index).value.isSome ∧ rest.slotAt index = (arena.slotAt index).retire := by
  induction removes with
  | done => exact .inl rfl
  | step taken _ ih =>
    obtain ⟨place, _, retires⟩ := remove?_spec sound taken
    have later := ih retires.wellFormed
    rw [retires.slots] at later
    by_cases same : index = place
    · subst same
      rw [if_pos rfl] at later
      rcases later with stays | ⟨occupied, _⟩
      · exact .inr ⟨by rw [retires.occupied]; rfl, stays⟩
      · cases occupied
    · rwa [if_neg same] at later

theorem evolves (removes : arena.Removes words values rest) (sound : arena.WellFormed) : arena.Evolves rest where
  wellFormed := removes.wellFormed sound
  follows index := by
    rcases removes.slotAt_cases sound index with same | retired
    · rw [same]
      exact .refl _
    · exact .inr retired
  size := .inl removes.size_eq

end Removes

theorem after_evolves (sound : arena.WellFormed) (use : Use α β) : arena.Evolves (arena.after use) := by
  cases use with
  | perform operation => exact perform_evolves sound operation
  | drainBy ask state => exact (run_drainBy sound.size_le ask state).1.evolves sound

theorem wellFormed_afterAll (uses : List (Use α β)) : (({} : Arena α).afterAll uses).WellFormed := by
  induction uses using List.reverseRecOn with
  | nil => exact wellFormed_empty
  | append_singleton uses use ih =>
    rw [afterAll_concat]
    exact (after_evolves ih use).wellFormed

/-- A handle that a use issues is the one of a slot that the use fills. -/
theorem exists_stores_of_issued? (sound : arena.WellFormed) {use : Use α β} (answered : arena.issued? use = some word) :
    ∃ value index, word = handle index (arena.slotAt index).generation ∧
      arena.Stores value (arena.after use) index := by
  unfold issued? at answered
  split at answered
  · rename_i value
    obtain ⟨⟨_, stored⟩, done, rfl⟩ := Option.map_eq_some_iff.mp answered
    have arrives : arena.after (.perform (.insert value : Operation α β)) = stored := by
      simp only [after, perform, done]
    rw [arrives]
    exact ⟨value, insert_spec sound done⟩
  · cases answered

end Arena
end SurfaceBridge.Handle
