import SurfaceBridge.Handle.Arena
import SurfaceBridge.Proofs.Handle.Packing
import Mathlib.Data.List.Nodup
import Mathlib.Data.List.Perm.Basic

/-! What an arena means to its callers: a finite map from handles to values. The map is read off the slots,
and the representation is sound when the free list holds exactly the vacant slots. -/
namespace SurfaceBridge.Handle

/-- All that can happen to a slot: it stays in its generation and keeps a value that it has, or its value is taken out
and it is retired. -/
def Slot.Follows {α : Type} (before after : Slot α) : Prop :=
  (after.generation = before.generation ∧ (before.value.isSome → after.value.isSome)) ∨
    before.value.isSome ∧ after = before.retire

theorem Slot.Follows.refl {α : Type} (slot : Slot α) : slot.Follows slot := .inl ⟨rfl, id⟩

theorem Slot.Follows.generation {α : Type} {before after : Slot α} (follows : before.Follows after) :
    (after.generation = before.generation ∧ (before.value.isSome → after.value.isSome)) ∨
      after.generation = before.generation + 1 := by
  rcases follows with stays | ⟨_, retired⟩
  · exact .inl stays
  · exact .inr (by rw [retired]; rfl)

namespace Arena

variable {α : Type}

/-- The slot at an index. One that is not there yet is vacant, in generation zero. -/
def slotAt (arena : Arena α) (index : Nat) : Slot α := arena.slots[index]?.getD ⟨0, none⟩

theorem slotAt_of_size_le {arena : Arena α} {index : Nat} (absent : arena.slots.size ≤ index) :
    arena.slotAt index = ⟨0, none⟩ := by
  rw [slotAt, Array.getElem?_eq_none absent, Option.getD_none]

theorem slotAt_eq_iff {arena : Arena α} {index : Nat} {generation : UInt32} {value : α} :
    arena.slotAt index = ⟨generation, some value⟩ ↔
      arena.slots[index]? = some ⟨generation, some value⟩ := by
  cases stored : arena.slots[index]? with
  | none => simp [slotAt, stored]
  | some slot => simp [slotAt, stored]

/-- An occupied slot is within the table. -/
theorem lt_size_of_slotAt {arena : Arena α} {index : Nat} {value : α}
    (occupied : (arena.slotAt index).value = some value) : index < arena.slots.size := by
  by_contra absent
  rw [slotAt_of_size_le (Nat.le_of_not_lt absent)] at occupied
  cases occupied

/-- The representation invariant of an arena. -/
structure WellFormed (arena : Arena α) : Prop where
  size_le : arena.slots.size ≤ slotLimit
  free_nodup : arena.free.Nodup
  mem_free : ∀ index, index ∈ arena.free ↔
    index < arena.slots.size ∧ (arena.slotAt index).value = none
  live_eq : arena.live = arena.values.length

theorem wellFormed_empty : WellFormed ({} : Arena α) where
  size_le := Nat.zero_le _
  free_nodup := List.nodup_nil
  mem_free index := by simp
  live_eq := rfl

theorem ofWord?_handle {index : Nat} (fits : index < slotLimit) (generation : UInt32) :
    Packed.ofWord? (handle index generation) = some ⟨.ofNat index, generation⟩ := by
  apply Packed.ofWord?_toWord
  intro last
  have := congrArg UInt32.toNat last
  simp only [UInt32.toNat_ofNat', Packed.lastIndex, UInt32.reduceToNat] at this
  simp only [slotLimit] at fits
  omega

theorem toNat_index {index : Nat} (fits : index < slotLimit) : (UInt32.ofNat index).toNat = index := by
  simp only [slotLimit] at fits
  exact UInt32.toNat_ofNat_of_lt' (fits.trans (by decide))

theorem handle_inj {i j : Nat} {g k : UInt32} (hi : i < slotLimit) (hj : j < slotLimit)
    (same : handle i g = handle j k) : i = j ∧ g = k := by
  have unpacked := congrArg Packed.ofWord? same
  rw [ofWord?_handle hi, ofWord?_handle hj] at unpacked
  simp only [Option.some.injEq, Packed.mk.injEq] at unpacked
  refine ⟨?_, unpacked.2⟩
  rw [← toNat_index hi, unpacked.1, toNat_index hj]

theorem handle_ne_zero {index : Nat} (fits : index < slotLimit) (generation : UInt32) :
    handle index generation ≠ 0 := by
  intro zero
  have unpacked := ofWord?_handle fits generation
  rw [zero] at unpacked
  cases unpacked

/-- A word that unpacks is the handle of a slot that an arena may have. -/
theorem exists_handle_of_ofWord? {word : UInt64} {packed : Packed}
    (unpacked : Packed.ofWord? word = some packed) :
    ∃ index generation, index < slotLimit ∧ word = handle index generation := by
  refine ⟨packed.index.toNat, packed.generation, ?_, ?_⟩
  · have low := Packed.index_succ_lt (Packed.index_ne_last_of_ofWord? unpacked)
    simp only [slotLimit]
    omega
  · rw [handle, UInt32.ofNat_toNat, Packed.toWord_of_ofWord? unpacked]

/-- A word that holds no handle resolves to nothing. -/
theorem get?_of_ofWord?_eq_none {word : UInt64} (unpacked : Packed.ofWord? word = none)
    (arena : Arena α) : arena.get? word = none := by
  simp [get?, resolve, unpacked]

theorem resolve_eq_some_iff {arena : Arena α} (bounded : arena.slots.size ≤ slotLimit) {word : UInt64}
    {index : Nat} {value : α} :
    arena.resolve word = some (index, value) ↔
      ∃ generation, word = handle index generation ∧
        arena.slots[index]? = some ⟨generation, some value⟩ := by
  constructor
  · intro found
    simp only [resolve, Option.bind_eq_bind, Option.bind_eq_some_iff, Option.ite_none_right_eq_some,
      Option.map_eq_some_iff, Prod.mk.injEq] at found
    obtain ⟨packed, unpacked, slot, inRange, current, _, occupied, rfl, rfl⟩ := found
    refine ⟨slot.generation, ?_, ?_⟩
    · rw [← Packed.toWord_of_ofWord? unpacked, handle, UInt32.ofNat_toNat, current]
    · rw [inRange, ← occupied]
  · rintro ⟨generation, rfl, inRange⟩
    have fits : index < slotLimit :=
      Nat.lt_of_lt_of_le (Array.getElem?_eq_some_iff.mp inRange).1 bounded
    simp [resolve, ofWord?_handle fits, toNat_index fits, inRange]

/-- A word resolves exactly when it is the handle of an occupied slot in its current generation. -/
theorem get?_eq_some_iff {arena : Arena α} (bounded : arena.slots.size ≤ slotLimit) {word : UInt64}
    {value : α} :
    arena.get? word = some value ↔ ∃ index generation, word = handle index generation ∧
      arena.slotAt index = ⟨generation, some value⟩ := by
  simp only [get?, Option.map_eq_some_iff, Prod.exists, resolve_eq_some_iff bounded, slotAt_eq_iff]
  constructor
  · rintro ⟨index, _, ⟨generation, named, occupied⟩, rfl⟩
    exact ⟨index, generation, named, occupied⟩
  · rintro ⟨index, generation, named, occupied⟩
    exact ⟨index, value, ⟨generation, named, occupied⟩, rfl⟩

@[simp] theorem get?_zero (arena : Arena α) : arena.get? 0 = none := rfl

/-- A handle resolves to what its slot holds, as long as the slot is in the handle's generation. -/
theorem get?_handle {arena : Arena α} (bounded : arena.slots.size ≤ slotLimit) {index : Nat}
    (fits : index < slotLimit) (generation : UInt32) :
    arena.get? (handle index generation) =
      if (arena.slotAt index).generation = generation then (arena.slotAt index).value else none := by
  apply Option.ext
  intro value
  rw [get?_eq_some_iff bounded, Option.ite_none_right_eq_some]
  constructor
  · rintro ⟨other, current, same, occupied⟩
    have inRange := (lt_size_of_slotAt (congrArg Slot.value occupied)).trans_le bounded
    obtain ⟨rfl, rfl⟩ := handle_inj fits inRange same
    rw [occupied]
    exact ⟨rfl, rfl⟩
  · rintro ⟨rfl, occupied⟩
    exact ⟨index, _, rfl, by rw [← occupied]⟩

theorem mem_values_iff {arena : Arena α} {value : α} :
    value ∈ arena.values ↔ ∃ index generation, arena.slotAt index = ⟨generation, some value⟩ := by
  rw [values, List.mem_filterMap]
  simp only [List.mem_iff_getElem?, Array.getElem?_toList, slotAt_eq_iff]
  constructor
  · rintro ⟨slot, ⟨index, stored⟩, occupied⟩
    exact ⟨index, slot.generation, by rw [stored, ← occupied]⟩
  · rintro ⟨index, generation, stored⟩
    exact ⟨_, ⟨index, stored⟩, rfl⟩

/-- The live values are the ones that some handle reaches. -/
theorem mem_values_iff_get? {arena : Arena α} (bounded : arena.slots.size ≤ slotLimit) {value : α} :
    value ∈ arena.values ↔ ∃ word, arena.get? word = some value := by
  simp only [mem_values_iff, get?_eq_some_iff bounded]
  constructor
  · rintro ⟨index, generation, stored⟩
    exact ⟨_, index, generation, rfl, stored⟩
  · rintro ⟨_, index, generation, _, stored⟩
    exact ⟨index, generation, stored⟩

theorem toList_slots (arena : Arena α) :
    arena.slots.toList = (List.range arena.slots.size).map arena.slotAt := by
  apply List.ext_getElem
  · simp
  · intro j inRange _
    simp [slotAt, Array.getElem?_eq_getElem (Array.length_toList ▸ inRange)]

/-- Every slot is live or free. -/
theorem live_add_free {arena : Arena α} (sound : arena.WellFormed) :
    arena.live + arena.free.length = arena.slots.size := by
  have vacant : arena.free.Perm
      ((List.range arena.slots.size).filter fun j => !(arena.slotAt j).value.isSome) := by
    refine (List.perm_ext_iff_of_nodup sound.free_nodup (List.nodup_range.filter _)).mpr fun j => ?_
    simp [sound.mem_free]
  have occupied : arena.values.length =
      ((List.range arena.slots.size).filter fun j => (arena.slotAt j).value.isSome).length := by
    rw [values, toList_slots, List.length_filterMap_eq_countP, List.countP_map,
      List.countP_eq_length_filter]
    rfl
  have whole := (List.range arena.slots.size).length_eq_length_filter_add
    fun j => (arena.slotAt j).value.isSome
  rw [sound.live_eq, occupied, vacant.length_eq, ← whole, List.length_range]

end Arena
end SurfaceBridge.Handle
