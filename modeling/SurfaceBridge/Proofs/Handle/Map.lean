import SurfaceBridge.Proofs.Handle.Drain
import SurfaceBridge.Proofs.Handle.Storage

/-! The arena as a map from handles to values: what each operation does to `get?`, and the two uses of an
insertion whose value is not final, filled in later or taken back. -/
namespace SurfaceBridge.Handle.Arena

variable {α : Type} {arena stored rest : Arena α} {value : α} {index : Nat}

/-- One slot changes within its generation, or becomes vacant: only its current handle changes its meaning. -/
private theorem get?_of_slot_change (bounded : arena.slots.size ≤ slotLimit)
    (bounded' : rest.slots.size ≤ slotLimit) (fits : index < slotLimit) {slot : Slot α}
    (slots : ∀ j, rest.slotAt j = if j = index then slot else arena.slotAt j)
    (kept : slot.generation = (arena.slotAt index).generation ∨ slot.value = none) (word : UInt64) :
    rest.get? word =
      if word = handle index (arena.slotAt index).generation then slot.value else arena.get? word := by
  cases unpacked : Packed.ofWord? word with
  | none =>
    rw [get?_of_ofWord?_eq_none unpacked, get?_of_ofWord?_eq_none unpacked, if_neg]
    rintro rfl
    rw [ofWord?_handle fits] at unpacked
    cases unpacked
  | some packed =>
    obtain ⟨j, generation, inRange, rfl⟩ := exists_handle_of_ofWord? unpacked
    rw [get?_handle bounded' inRange, get?_handle bounded inRange, slots]
    by_cases same : j = index
    · subst same
      by_cases current : generation = (arena.slotAt j).generation
      · subst current
        rcases kept with kept | vacant
        · simp [kept]
        · simp [vacant]
      · -- An earlier or later handle of the slot is dead before and after.
        have other : handle j generation ≠ handle j (arena.slotAt j).generation :=
          fun named => current (handle_inj fits fits named).2
        rcases kept with kept | vacant
        · simp [kept, other, Ne.symm current]
        · simp [vacant, other, Ne.symm current]
    · have other : handle j generation ≠ handle index (arena.slotAt index).generation :=
        fun named => same (handle_inj inRange fits named).1
      simp [same, other]

namespace Stores

theorem fresh (h : arena.Stores value stored index) (sound : arena.WellFormed) :
    arena.get? (handle index (arena.slotAt index).generation) = none := by
  rw [get?_handle sound.size_le h.fits, if_pos rfl, h.vacant]

/-- Only the new handle changes its meaning. -/
theorem get?_eq (h : arena.Stores value stored index) (sound : arena.WellFormed) (word : UInt64) :
    stored.get? word =
      if word = handle index (arena.slotAt index).generation then some value else arena.get? word :=
  get?_of_slot_change sound.size_le h.wellFormed.size_le h.fits h.slots (.inl rfl) word

theorem resolve_eq (h : arena.Stores value stored index) :
    stored.resolve (handle index (arena.slotAt index).generation) = some (index, value) :=
  (resolve_eq_some_iff h.wellFormed.size_le).mpr
    ⟨_, rfl, slotAt_eq_iff.mp (by rw [h.slots, if_pos rfl])⟩

end Stores

namespace Retires

theorem fits (h : arena.Retires value rest index) (sound : arena.WellFormed) : index < slotLimit :=
  (lt_size_of_slotAt h.occupied).trans_le sound.size_le

theorem found (h : arena.Retires value rest index) (sound : arena.WellFormed) :
    arena.get? (handle index (arena.slotAt index).generation) = some value := by
  rw [get?_handle sound.size_le (h.fits sound), if_pos rfl, h.occupied]

/-- Only the retired handle changes its meaning: it has none. -/
theorem get?_eq (h : arena.Retires value rest index) (sound : arena.WellFormed) (word : UInt64) :
    rest.get? word =
      if word = handle index (arena.slotAt index).generation then none else arena.get? word :=
  get?_of_slot_change sound.size_le h.wellFormed.size_le (h.fits sound) h.slots (.inr rfl) word

end Retires

theorem Refills.found {new : α} (h : arena.Refills value new rest index) (sound : arena.WellFormed) :
    arena.get? (handle index (arena.slotAt index).generation) = some value := by
  rw [get?_handle sound.size_le ((lt_size_of_slotAt h.occupied).trans_le sound.size_le), if_pos rfl,
    h.occupied]

/-- Only the value behind the handle changes. -/
theorem Refills.get?_eq {new : α} (h : arena.Refills value new rest index) (sound : arena.WellFormed)
    (word : UInt64) :
    rest.get? word =
      if word = handle index (arena.slotAt index).generation then some new else arena.get? word :=
  get?_of_slot_change sound.size_le h.wellFormed.size_le
    ((lt_size_of_slotAt h.occupied).trans_le sound.size_le) h.slots (.inl rfl) word

theorem Drains.get?_eq {p : α → Bool} (h : arena.Drains p rest) (sound : arena.WellFormed)
    (word : UInt64) : rest.get? word = (arena.get? word).filter fun value => !p value := by
  apply Option.ext
  intro held
  rw [get?_eq_some_iff h.wellFormed.size_le, Option.filter_eq_some_iff, get?_eq_some_iff sound.size_le]
  constructor
  · rintro ⟨j, generation, rfl, occupied⟩
    rw [h.slots] at occupied
    split at occupied
    · cases occupied
    · rename_i stays
      refine ⟨⟨j, generation, rfl, occupied⟩, ?_⟩
      simpa [occupied] using stays
  · rintro ⟨⟨j, generation, rfl, occupied⟩, stays⟩
    refine ⟨j, generation, rfl, ?_⟩
    rw [h.slots, occupied, if_neg (by simpa using stays)]

theorem remove?_of_get?_eq_none {word : UInt64} (dead : arena.get? word = none) :
    arena.remove? word = none := by
  simp only [get?, Option.map_eq_none_iff] at dead
  rw [remove?, dead]

/-- A live handle can be taken out. -/
theorem remove?_of_get? {word : UInt64} (live : arena.get? word = some value) :
    ∃ rest, arena.remove? word = some (value, rest) := by
  simp only [get?, Option.map_eq_some_iff, Prod.exists] at live
  obtain ⟨index, held, found, rfl⟩ := live
  exact ⟨_, by rw [remove?, found]⟩

private theorem modify_modify (slots : Array (Slot α)) (index : Nat) (first second : α) :
    (slots.modify index fun slot => { slot with value := some first }).modify index
        (fun slot => { slot with value := some second }) =
      slots.modify index fun slot => { slot with value := some second } := by
  apply Array.ext_getElem?
  intro j
  simp only [Array.getElem?_modify]
  split
  · simp only [Option.map_map]
    rfl
  · rfl

private theorem modify_push (slots : Array (Slot α)) (slot : Slot α) (f : Slot α → Slot α) :
    (slots.push slot).modify slots.size f = slots.push (f slot) := by
  apply Array.ext_getElem?
  intro j
  simp only [Array.getElem?_modify, Array.getElem?_push]
  split
  · rename_i last
    simp [last]
  · rename_i other
    rw [if_neg (Ne.symm other), if_neg (Ne.symm other)]

/-- Filling in a value after it was stored is storing the filled value. -/
theorem insert_modify (sound : arena.WellFormed) {word : UInt64} (f : α → α)
    (done : arena.insert value = some (word, stored)) :
    arena.insert (f value) = some (word, stored.modify word f) := by
  obtain ⟨index, named, stores⟩ := insert_spec sound done
  have found := stores.resolve_eq
  rw [← named] at found
  unfold insert at done ⊢
  cases next : arena.free with
  | cons first free =>
    simp only [next, Option.some.injEq, Prod.mk.injEq] at done ⊢
    obtain ⟨rfl, rfl⟩ := done
    have same : first = index := by
      have inRange := ((sound.mem_free first).mp (by simp [next])).1
      exact (handle_inj (inRange.trans_le sound.size_le) stores.fits named).1
    subst same
    simp only [modify, found, modify_modify, and_self]
  | nil =>
    simp only [next, Option.ite_none_right_eq_some, Option.some.injEq, Prod.mk.injEq] at done ⊢
    obtain ⟨room, rfl, rfl⟩ := done
    have same : arena.slots.size = index := (handle_inj room stores.fits named).1
    subst same
    simp only [modify, found, modify_push, room, and_self]

/-- An arena in which a vacant slot gave up its next handle: callers see no difference. -/
structure Forfeits (arena rest : Arena α) (index : Nat) : Prop where
  wellFormed : rest.WellFormed
  vacant : (arena.slotAt index).value = none
  slots : ∀ j, rest.slotAt j = if j = index then (arena.slotAt index).retire else arena.slotAt j
  get?_eq : ∀ word, rest.get? word = arena.get? word
  values : rest.values.Perm arena.values

/-- A value can be taken back right after it was stored. -/
theorem remove?_insert (sound : arena.WellFormed) {word : UInt64}
    (done : arena.insert value = some (word, stored)) :
    ∃ rest index, stored.remove? word = some (value, rest) ∧ arena.Forfeits rest index := by
  obtain ⟨index, rfl, stores⟩ := insert_spec sound done
  have live := stores.get?_eq sound (handle index (arena.slotAt index).generation)
  rw [if_pos rfl] at live
  obtain ⟨rest, taken⟩ := remove?_of_get? live
  obtain ⟨other, named, retires⟩ := remove?_spec stores.wellFormed taken
  have same : index = other := (handle_inj stores.fits (retires.fits stores.wellFormed) named).1
  subst same
  refine ⟨rest, index, taken, retires.wellFormed, stores.vacant, ?_, ?_, ?_⟩
  · intro j
    rw [retires.slots, stores.slots, stores.slots, if_pos rfl]
    split <;> rfl
  · intro word
    rw [retires.get?_eq stores.wellFormed, stores.get?_eq sound, ← named]
    split
    · rename_i new
      rw [new, stores.fresh sound]
    · rfl
  · exact (List.perm_cons value).mp (retires.values.symm.trans stores.values)

/-- An arena with a vacant slot is not full. -/
private theorem live_lt_of_vacant (sound : arena.WellFormed) (inRange : index < arena.slots.size)
    (vacant : (arena.slotAt index).value = none) : arena.live < slotLimit := by
  have free : 0 < arena.free.length := List.length_pos_of_mem ((sound.mem_free index).mpr ⟨inRange, vacant⟩)
  have whole := live_add_free sound
  have bounded := sound.size_le
  omega

theorem Stores.live_lt (h : arena.Stores value stored index) (sound : arena.WellFormed) :
    arena.live < slotLimit := by
  have more := h.values.length_eq
  rw [List.length_cons, ← sound.live_eq, ← h.wellFormed.live_eq] at more
  have whole := live_add_free h.wellFormed
  have bounded := h.wellFormed.size_le
  omega

theorem Forfeits.live_lt (h : arena.Forfeits rest index) (sound : arena.WellFormed) :
    arena.live < slotLimit := by
  by_cases inRange : index < arena.slots.size
  · exact live_lt_of_vacant sound inRange h.vacant
  · -- The slot was added, since it is in its second generation.
    have slot : rest.slotAt index = ⟨1, none⟩ := by
      rw [h.slots, if_pos rfl, slotAt_of_size_le (Nat.le_of_not_lt inRange)]
      rfl
    have added : index < rest.slots.size := by
      by_contra absent
      rw [slotAt_of_size_le (Nat.le_of_not_lt absent)] at slot
      cases slot
    have room := live_lt_of_vacant h.wellFormed added (by rw [slot])
    rwa [h.wellFormed.live_eq, h.values.length_eq, ← sound.live_eq] at room

end SurfaceBridge.Handle.Arena
