import SurfaceBridge.Proofs.Handle.Lookup
import Mathlib.Data.List.Nodup
import Mathlib.Data.List.Basic

/-! Draining: every slot whose value satisfies the predicate is retired, and no other slot changes. -/
namespace SurfaceBridge.Handle.Arena

variable {α : Type}

/-- An arena after all values with a property were taken out. -/
structure Drains (arena : Arena α) (p : α → Bool) (rest : Arena α) : Prop where
  wellFormed : rest.WellFormed
  slots : ∀ j, rest.slotAt j =
    if (arena.slotAt j).value.any p then (arena.slotAt j).retire else arena.slotAt j
  values : rest.values = arena.values.filter fun value => !p value

theorem Drains.follows {arena rest : Arena α} {p : α → Bool} (h : arena.Drains p rest) (j : Nat) :
    (arena.slotAt j).Follows (rest.slotAt j) := by
  rw [h.slots]
  split
  · rename_i leaves
    obtain ⟨value, occupied, _⟩ := (Option.any_eq_true p _).mp leaves
    exact .inr ⟨by rw [occupied]; rfl, rfl⟩
  · exact .refl _

private theorem slotAt_map {arena : Arena α} (p : α → Bool) (free : List Nat) (live j : Nat) :
    ({ slots := arena.slots.map fun slot => if slot.value.any p then slot.retire else slot
       free, live } : Arena α).slotAt j =
      if (arena.slotAt j).value.any p then (arena.slotAt j).retire else arena.slotAt j := by
  cases slot : arena.slots[j]? with
  | none => simp [slotAt, slot]
  | some slot' => simp [slotAt, slot]

private theorem filterMap_retire (p : α → Bool) (slots : List (Slot α)) :
    (slots.map fun slot => if slot.value.any p then slot.retire else slot).filterMap (·.value) =
      (slots.filterMap (·.value)).filter fun value => !p value := by
  induction slots with
  | nil => rfl
  | cons slot slots ih =>
    obtain ⟨generation, value⟩ := slot
    cases value with
    | none => simpa using ih
    | some value => cases leaves : p value <;> simpa [leaves, Slot.retire] using ih

theorem drain_spec {arena : Arena α} (sound : arena.WellFormed) (p : α → Bool) :
    arena.Drains p (arena.drain p).2 := by
  have slots (j : Nat) : (arena.drain p).2.slotAt j =
      if (arena.slotAt j).value.any p then (arena.slotAt j).retire else arena.slotAt j :=
    slotAt_map p _ _ j
  have values : (arena.drain p).2.values = arena.values.filter fun value => !p value := by
    simp only [drain, Arena.values, Array.toList_map]
    exact filterMap_retire p arena.slots.toList
  have size : (arena.drain p).2.slots.size = arena.slots.size := by simp [drain]
  have freed (j : Nat) : j ∈ (arena.drain p).2.free ↔
      j < arena.slots.size ∧ (arena.slotAt j).value.any p = true ∨ j ∈ arena.free := by
    simp only [drain, List.mem_append, List.mem_reverse, List.mem_filter, List.mem_range]
    refine or_congr_left (and_congr_right fun inRange => ?_)
    simp [slotAt, Array.getElem?_eq_getElem inRange]
  refine ⟨⟨?_, ?_, ?_, ?_⟩, slots, values⟩
  · rw [size]
    exact sound.size_le
  · refine List.Nodup.append ?_ sound.free_nodup ?_
    · exact List.nodup_reverse.mpr (List.nodup_range.filter _)
    · intro j leaving free
      obtain ⟨inRange, vacant⟩ := (sound.mem_free j).mp free
      have leaves := (List.mem_filter.mp (List.mem_reverse.mp leaving)).2
      rw [slotAt, Array.getElem?_eq_getElem inRange, Option.getD_some] at vacant
      simp [Array.getElem?_eq_getElem inRange, vacant] at leaves
  · intro j
    rw [freed, sound.mem_free, size, slots]
    by_cases leaves : (arena.slotAt j).value.any p = true
    · obtain ⟨held, occupied, _⟩ := (Option.any_eq_true p _).mp leaves
      rw [if_pos leaves, occupied]
      simpa [Slot.retire, occupied] using fun _ => leaves
    · simp [leaves]
  · rw [values]
    have whole := arena.values.length_eq_length_filter_add p
    show arena.live - (arena.values.filter p).length = _
    rw [sound.live_eq]
    omega

theorem drain_fst (arena : Arena α) (p : α → Bool) : (arena.drain p).1 = arena.values.filter p := rfl

end SurfaceBridge.Handle.Arena
