import SurfaceBridge.Proofs.Handle.Evolution
import Mathlib.Data.Set.Function

/-! Packing is a bijection between the handles below the last index and the words whose low half is not zero. The limit
on the number of slots is the last index, so an arena refuses a value exactly when its handle would not unpack. -/
namespace SurfaceBridge.Handle

namespace Packed

/-- Each word that can be unpacked is the word of one handle, and each handle below the last index has one. -/
theorem bijOn_toWord : Set.BijOn toWord {handle | handle.index ≠ lastIndex} {word | word.toNat % 2 ^ 32 ≠ 0} := by
  refine ⟨?_, ?_, ?_⟩
  · intro handle fits
    show handle.toWord.toNat % 2 ^ 32 ≠ 0
    rw [ne_eq, ← ofWord?_eq_none_iff, ofWord?_toWord fits]
    exact Option.some_ne_none handle
  · intro first fits second fits' same
    have unpacked := congrArg ofWord? same
    rw [ofWord?_toWord fits, ofWord?_toWord fits'] at unpacked
    exact Option.some.inj unpacked
  · intro word low
    obtain ⟨handle, unpacked⟩ := Option.ne_none_iff_exists'.mp (mt ofWord?_eq_none_iff.mp low)
    exact ⟨handle, index_ne_last_of_ofWord? unpacked, toWord_of_ofWord? unpacked⟩

end Packed

namespace Arena

variable {α β : Type} {arena stored : Arena α} {word : UInt64} {value : α}

/-- The slot past the limit would have the last index. -/
theorem ofWord?_handle_slotLimit (generation : UInt32) : Packed.ofWord? (handle slotLimit generation) = none :=
  Packed.ofWord?_toWord_last generation

/-- Among the indices of words the limit is the bound for handles that unpack. -/
theorem ofWord?_handle_eq_none_iff {index : Nat} (small : index < 2 ^ 32) (generation : UInt32) :
    Packed.ofWord? (handle index generation) = none ↔ index = slotLimit := by
  constructor
  · intro dead
    by_contra other
    have fits : index < slotLimit := by
      simp only [slotLimit] at other ⊢
      omega
    rw [ofWord?_handle fits] at dead
    cases dead
  · rintro rfl
    exact ofWord?_handle_slotLimit generation

/-- The handle of a stored value unpacks to the place where the value is. -/
theorem exists_unpacked_of_insert (sound : arena.WellFormed) (done : arena.insert value = some (word, stored)) :
    ∃ packed, Packed.ofWord? word = some packed ∧
      stored.slots[packed.index.toNat]? = some ⟨packed.generation, some value⟩ := by
  obtain ⟨index, rfl, stores⟩ := insert_spec sound done
  refine ⟨_, ofWord?_handle stores.fits _, ?_⟩
  rw [toNat_index stores.fits]
  exact slotAt_eq_iff.mp (by rw [stores.slots, if_pos rfl])

/-- Storing fails exactly when a new slot is needed and no handle of it would unpack. -/
theorem insert_eq_none_iff_unpackable (sound : arena.WellFormed) :
    arena.insert value = none ↔
      arena.free = [] ∧ ∀ generation, Packed.ofWord? (handle arena.slots.size generation) = none := by
  have bounded := sound.size_le
  have small : arena.slots.size < 2 ^ 32 := by
    simp only [slotLimit] at bounded
    omega
  have whole := live_add_free sound
  simp only [insert_eq_none_iff sound, ofWord?_handle_eq_none_iff small, forall_const]
  constructor
  · intro full
    exact ⟨List.length_eq_zero_iff.mp (by omega), by omega⟩
  · rintro ⟨crowded, limit⟩
    rw [crowded, List.length_nil] at whole
    omega

/-- Handles below the last index and words with a low half other than zero correspond to each other, one to one, and no
word of the last index unpacks in any generation. With the limit on the slots, every handle that is ever issued unpacks
to the place of its value, and only a handle that would not unpack is refused. -/
theorem packing_bijective (uses : List (Use α β)) :
    (∀ index generation, index ≠ Packed.lastIndex →
      Packed.ofWord? (Packed.toWord ⟨index, generation⟩) = some ⟨index, generation⟩) ∧
    (∀ word, Packed.ofWord? word = none ↔ word.toNat % 2 ^ 32 = 0) ∧
    (∀ word packed, Packed.ofWord? word = some packed → packed.toWord = word) ∧
    Set.BijOn Packed.toWord {packed | packed.index ≠ Packed.lastIndex} {word | word.toNat % 2 ^ 32 ≠ 0} ∧
    (∀ generation, Packed.ofWord? (Packed.toWord ⟨Packed.lastIndex, generation⟩) = none) ∧
    (∀ index < 2 ^ 32, ∀ generation, Packed.ofWord? (handle index generation) = none ↔ index = slotLimit) ∧
    let arena := ({} : Arena α).afterAll uses
    (∀ value word stored, arena.insert value = some (word, stored) →
      ∃ packed, Packed.ofWord? word = some packed ∧
        stored.slots[packed.index.toNat]? = some ⟨packed.generation, some value⟩) ∧
    ∀ value, arena.insert value = none ↔
      arena.free = [] ∧ ∀ generation, Packed.ofWord? (handle arena.slots.size generation) = none := by
  have sound : (({} : Arena α).afterAll uses).WellFormed := wellFormed_afterAll uses
  exact ⟨fun _ _ fits => Packed.ofWord?_toWord fits, fun _ => Packed.ofWord?_eq_none_iff,
    fun _ _ => Packed.toWord_of_ofWord?, Packed.bijOn_toWord, Packed.ofWord?_toWord_last,
    fun _ small => ofWord?_handle_eq_none_iff small, fun _ _ _ => exists_unpacked_of_insert sound,
    fun _ => insert_eq_none_iff_unpackable sound⟩

end Arena
end SurfaceBridge.Handle
