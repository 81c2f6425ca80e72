import SurfaceBridge.Proofs.Handle.Map

/-! An arena never looks at its values: what it does to values, it does in the same way to any others in their
place. -/
namespace SurfaceBridge.Handle

variable {α β : Type}

def Slot.map (f : α → β) (slot : Slot α) : Slot β :=
  { generation := slot.generation, value := slot.value.map f }

theorem Slot.any_map (f : α → β) (p : β → Bool) (slot : Slot α) :
    (slot.map f).value.any p = slot.value.any (p ∘ f) :=
  Option.any_map

namespace Arena

/-- The arena with other values in the same slots. -/
def map (f : α → β) (arena : Arena α) : Arena β :=
  { slots := arena.slots.map (Slot.map f), free := arena.free, live := arena.live }

variable (f : α → β) (arena : Arena α)

theorem map_empty : ({} : Arena α).map f = {} := by simp [map]

theorem getElem?_slots_map (index : Nat) : (arena.map f).slots[index]? = arena.slots[index]?.map (Slot.map f) :=
  Array.getElem?_map

theorem values_map : (arena.map f).values = arena.values.map f := by
  simp only [values, map, Array.toList_map, List.filterMap_map, List.map_filterMap]
  rfl

theorem wellFormed_map : (arena.map f).WellFormed ↔ arena.WellFormed := by
  have size : (arena.map f).slots.size = arena.slots.size := Array.size_map
  have length : (arena.map f).values.length = arena.values.length := by simp [values_map]
  have vacant (index : Nat) :
      ((arena.map f).slotAt index).value = none ↔ (arena.slotAt index).value = none := by
    cases stored : arena.slots[index]? <;> simp [slotAt, getElem?_slots_map, Slot.map, stored]
  constructor
  · rintro ⟨size_le, free_nodup, mem_free, live_eq⟩
    simp only [size, length, vacant] at size_le mem_free live_eq
    exact ⟨size_le, free_nodup, mem_free, live_eq⟩
  · rintro ⟨size_le, free_nodup, mem_free, live_eq⟩
    simp only [← size, ← length, ← vacant] at size_le mem_free live_eq
    exact ⟨size_le, free_nodup, mem_free, live_eq⟩

private theorem modify_map (slots : Array (Slot α)) (index : Nat) {g : Slot α → Slot α}
    {h : Slot β → Slot β} (commutes : ∀ slot, h (slot.map f) = (g slot).map f) :
    (slots.map (Slot.map f)).modify index h = (slots.modify index g).map (Slot.map f) := by
  apply Array.ext_getElem?
  intro j
  simp only [Array.getElem?_modify, Array.getElem?_map]
  split <;> simp [Function.comp_def, commutes]

theorem insert_map (value : α) :
    (arena.map f).insert (f value) = (arena.insert value).map (Prod.map id (map f)) := by
  cases next : arena.free with
  | cons index free =>
    have generation : (arena.map f).slots[index]?.map (·.generation) =
        arena.slots[index]?.map (·.generation) := by
      rw [getElem?_slots_map, Option.map_map]
      rfl
    have filled := modify_map f arena.slots index (g := fun slot => { slot with value := some value })
      (h := fun slot => { slot with value := some (f value) }) fun _ => rfl
    have free' : (arena.map f).free = index :: free := next
    simp only [insert, next, free', generation]
    simp [map, filled]
  | nil =>
    have free' : (arena.map f).free = [] := next
    by_cases room : arena.slots.size < slotLimit <;> simp [insert, map, next, room, Slot.map]

theorem resolve_map (word : UInt64) :
    (arena.map f).resolve word = (arena.resolve word).map (Prod.map id f) := by
  cases unpacked : Packed.ofWord? word with
  | none => simp [resolve, unpacked]
  | some packed =>
    cases stored : arena.slots[packed.index.toNat]? with
    | none => simp [resolve, getElem?_slots_map, unpacked, stored]
    | some slot =>
      by_cases current : slot.generation = packed.generation <;>
        simp [resolve, getElem?_slots_map, Slot.map, unpacked, stored, current, Function.comp_def]

theorem get?_map (word : UInt64) : (arena.map f).get? word = (arena.get? word).map f := by
  simp [get?, resolve_map, Function.comp_def]

theorem remove?_map (word : UInt64) :
    (arena.map f).remove? word = (arena.remove? word).map (Prod.map f (map f)) := by
  have found := resolve_map f arena word
  simp only [remove?, found]
  cases arena.resolve word with
  | none => rfl
  | some place =>
    simp [map, modify_map f arena.slots place.1 (g := Slot.retire) (h := Slot.retire) fun _ => rfl]

theorem drain_map (p : β → Bool) :
    (arena.map f).drain p = Prod.map (List.map f) (map f) (arena.drain (p ∘ f)) := by
  have retired (slot : Slot α) : (if (slot.map f).value.any p then (slot.map f).retire else slot.map f) =
      (if slot.value.any (p ∘ f) then slot.retire else slot).map f := by
    rw [Slot.any_map]
    split <;> rfl
  have leaves (index : Nat) : ((arena.map f).slots[index]?).any (fun slot => slot.value.any p) =
      arena.slots[index]?.any fun slot => slot.value.any (p ∘ f) := by
    rw [getElem?_slots_map, Option.any_map]
    congr 1
    exact funext fun slot => slot.any_map f p
  have size : (arena.map f).slots.size = arena.slots.size := Array.size_map
  simp only [drain, values_map, List.filter_map, List.length_map, leaves, size]
  simp [map, retired, Function.comp_def]

variable {arena}

/-- Whether there is room does not depend on the values, either. -/
theorem insert_map_eq_none (sound : arena.WellFormed) {value : α} (full : arena.insert value = none) (other : β) :
    (arena.map f).insert other = none := by
  have sound' := (wellFormed_map f arena).mpr sound
  exact (insert_eq_none_iff sound').mpr ((insert_eq_none_iff sound).mp full)

/-- Storing a filled value is filling in the value after it was stored. -/
theorem insert_of_modify (sound : arena.WellFormed) (g : α → α) (value : α) {word : UInt64}
    {filled : Arena α} (done : arena.insert (g value) = some (word, filled)) :
    ∃ stored, arena.insert value = some (word, stored) ∧ stored.modify word g = filled := by
  cases stored : arena.insert value with
  | none =>
    rw [(insert_eq_none_iff sound).mpr ((insert_eq_none_iff sound).mp stored)] at done
    cases done
  | some place =>
    rw [insert_modify sound g stored] at done
    obtain ⟨rfl, rfl⟩ := Prod.mk.inj (Option.some.inj done)
    exact ⟨place.2, rfl, rfl⟩

end Arena
end SurfaceBridge.Handle
