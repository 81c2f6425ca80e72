import SurfaceBridge.Proofs.Handle.Lookup
import Mathlib.Data.List.Nodup

/-! Storing a value and taking one out, each as a change of one slot. What callers see follows from the slots:
a new handle names nothing before, and no other handle changes its meaning. -/
namespace SurfaceBridge.Handle.Arena

variable {α : Type}

theorem slotAt_modify {arena : Arena α} {index : Nat} (inRange : index < arena.slots.size)
    (f : Slot α → Slot α) (free : List Nat) (live j : Nat) :
    ({ slots := arena.slots.modify index f, free, live } : Arena α).slotAt j =
      if j = index then f (arena.slotAt index) else arena.slotAt j := by
  simp only [slotAt, Array.getElem?_modify]
  split
  · rename_i same
    subst same
    simp [Array.getElem?_eq_getElem inRange]
  · rename_i differs
    rw [if_neg (Ne.symm differs)]

theorem slotAt_push (arena : Arena α) (slot : Slot α) (free : List Nat) (live j : Nat) :
    ({ slots := arena.slots.push slot, free, live } : Arena α).slotAt j =
      if j = arena.slots.size then slot else arena.slotAt j := by
  simp only [slotAt, Array.getElem?_push]
  split <;> rfl

/-- The values around a slot stay where they are when the slot changes. -/
theorem values_modify {arena : Arena α} {index : Nat} (inRange : index < arena.slots.size)
    (f : Slot α → Slot α) (free : List Nat) (live : Nat) :
    ∃ front back, arena.values = front ++ (arena.slotAt index).value.toList ++ back ∧
      ({ slots := arena.slots.modify index f, free, live } : Arena α).values =
        front ++ (f (arena.slotAt index)).value.toList ++ back := by
  have single (slot : Slot α) : [slot].filterMap (·.value) = slot.value.toList := by
    cases h : slot.value <;> simp [h]
  have slot : arena.slotAt index = arena.slots.toList[index] := by
    simp [slotAt, Array.getElem?_eq_getElem inRange]
  refine ⟨(arena.slots.toList.take index).filterMap (·.value),
    (arena.slots.toList.drop (index + 1)).filterMap (·.value), ?_, ?_⟩
  · rw [values, slot, ← single, ← List.filterMap_append, ← List.filterMap_append, List.append_assoc,
      List.singleton_append, List.getElem_cons_drop, List.take_append_drop]
  · rw [values, slot, ← single, ← List.filterMap_append, ← List.filterMap_append, Array.toList_modify,
      List.modify_eq_take_cons_drop (by simpa using inRange), List.append_assoc, List.singleton_append]

/-- An arena after a value went into a vacant slot. -/
structure Stores (arena : Arena α) (value : α) (stored : Arena α) (index : Nat) : Prop where
  wellFormed : stored.WellFormed
  fits : index < slotLimit
  vacant : (arena.slotAt index).value = none
  slots : ∀ j, stored.slotAt j =
    if j = index then ⟨(arena.slotAt index).generation, some value⟩ else arena.slotAt j
  values : stored.values.Perm (value :: arena.values)

/-- An arena after the value of a slot was taken out. -/
structure Retires (arena : Arena α) (value : α) (rest : Arena α) (index : Nat) : Prop where
  wellFormed : rest.WellFormed
  occupied : (arena.slotAt index).value = some value
  slots : ∀ j, rest.slotAt j = if j = index then (arena.slotAt index).retire else arena.slotAt j
  values : arena.values.Perm (value :: rest.values)

/-- An arena after the value of a slot gave way to another one. -/
structure Refills (arena : Arena α) (value new : α) (rest : Arena α) (index : Nat) : Prop where
  wellFormed : rest.WellFormed
  occupied : (arena.slotAt index).value = some value
  slots : ∀ j, rest.slotAt j =
    if j = index then ⟨(arena.slotAt index).generation, some new⟩ else arena.slotAt j

theorem Stores.follows {arena stored : Arena α} {value : α} {index : Nat} (h : arena.Stores value stored index)
    (j : Nat) : (arena.slotAt j).Follows (stored.slotAt j) := by
  rw [h.slots]
  split
  · rename_i same
    exact .inl ⟨by rw [same], fun _ => rfl⟩
  · exact .refl _

theorem Refills.follows {arena rest : Arena α} {value new : α} {index : Nat} (h : arena.Refills value new rest index)
    (j : Nat) : (arena.slotAt j).Follows (rest.slotAt j) := by
  rw [h.slots]
  split
  · rename_i same
    exact .inl ⟨by rw [same], fun _ => rfl⟩
  · exact .refl _

theorem Retires.follows {arena rest : Arena α} {value : α} {index : Nat} (h : arena.Retires value rest index)
    (j : Nat) : (arena.slotAt j).Follows (rest.slotAt j) := by
  rw [h.slots]
  split
  · rename_i same
    subst same
    exact .inr ⟨by rw [h.occupied]; rfl, rfl⟩
  · exact .refl _

private theorem reuse_stores {arena : Arena α} (sound : arena.WellFormed) {index : Nat} {free : List Nat}
    (next : arena.free = index :: free) (value : α) :
    arena.Stores value { slots := arena.slots.modify index fun slot => { slot with value := some value }
                         free := free
                         live := arena.live + 1 } index := by
  obtain ⟨inRange, vacant⟩ := (sound.mem_free index).mp (by simp [next])
  have unique := sound.free_nodup
  rw [next, List.nodup_cons] at unique
  have slots := slotAt_modify inRange (fun slot => { slot with value := some value }) free (arena.live + 1)
  obtain ⟨front, back, before, after⟩ := values_modify inRange
    (fun slot => { slot with value := some value }) free (arena.live + 1)
  have permuted : (front ++ [value] ++ back).Perm (value :: (front ++ back)) := by
    rw [List.append_assoc]
    exact List.perm_middle
  rw [vacant, Option.toList_none, List.append_nil] at before
  rw [Option.toList_some] at after
  refine ⟨⟨?_, unique.2, ?_, ?_⟩, inRange.trans_le sound.size_le, vacant, slots, ?_⟩
  · simpa using sound.size_le
  · intro j
    have others := sound.mem_free j
    rw [slots, Array.size_modify]
    by_cases same : j = index
    · subst same
      simp [unique.1]
    · simpa [next, same] using others
  · show arena.live + 1 = _
    rw [after, permuted.length_eq, List.length_cons, ← before, sound.live_eq]
  · rw [after, before]
    exact permuted

private theorem extend_stores {arena : Arena α} (sound : arena.WellFormed) (none_free : arena.free = [])
    (room : arena.slots.size < slotLimit) (value : α) :
    arena.Stores value { slots := arena.slots.push { generation := 0, value := some value }
                         free := []
                         live := arena.live + 1 } arena.slots.size := by
  have fresh : arena.slotAt arena.slots.size = ⟨0, none⟩ := slotAt_of_size_le (Nat.le_refl _)
  have slots := slotAt_push arena { generation := 0, value := some value } [] (arena.live + 1)
  have stored : (arena.slots.push { generation := 0, value := some value }).toList.filterMap (·.value) =
      arena.values ++ [value] := by
    simp [values]
  refine ⟨⟨?_, List.nodup_nil, ?_, ?_⟩, room, by rw [fresh], ?_, ?_⟩
  · simpa using Nat.succ_le_of_lt room
  · intro j
    have others := sound.mem_free j
    rw [slots, Array.size_push]
    by_cases last : j = arena.slots.size
    · simp [last]
    · have within : j < arena.slots.size + 1 ↔ j < arena.slots.size := by omega
      simpa [none_free, last, within] using others
  · rw [values, stored, sound.live_eq, List.length_append, List.length_singleton]
  · rw [fresh]
    exact slots
  · rw [values, stored]
    exact List.perm_append_singleton value arena.values

/-- Storing fills one vacant slot and answers with its handle. -/
theorem insert_spec {arena stored : Arena α} (sound : arena.WellFormed) {value : α} {word : UInt64}
    (done : arena.insert value = some (word, stored)) :
    ∃ index, word = handle index (arena.slotAt index).generation ∧ arena.Stores value stored index := by
  unfold insert at done
  cases next : arena.free with
  | cons index free =>
    rw [next] at done
    simp only [Option.some.injEq, Prod.mk.injEq] at done
    obtain ⟨rfl, rfl⟩ := done
    refine ⟨index, ?_, reuse_stores sound next value⟩
    congr 1
    cases slot : arena.slots[index]? <;> simp [slotAt, slot]
  | nil =>
    rw [next] at done
    simp only [Option.ite_none_right_eq_some, Option.some.injEq, Prod.mk.injEq] at done
    obtain ⟨room, rfl, rfl⟩ := done
    refine ⟨arena.slots.size, ?_, extend_stores sound next room value⟩
    rw [slotAt_of_size_le (Nat.le_refl _)]

/-- Storing fails only when every slot that an arena may have is live. -/
theorem insert_eq_none_iff {arena : Arena α} (sound : arena.WellFormed) {value : α} :
    arena.insert value = none ↔ arena.live = slotLimit := by
  have whole := live_add_free sound
  have bounded := sound.size_le
  unfold insert
  cases next : arena.free with
  | cons index free =>
    rw [next, List.length_cons] at whole
    simp only [reduceCtorEq, false_iff]
    omega
  | nil =>
    rw [next, List.length_nil] at whole
    simp only [ite_eq_right_iff, reduceCtorEq, imp_false]
    omega

/-- Taking out retires the slot that the word names. -/
theorem remove?_spec {arena rest : Arena α} (sound : arena.WellFormed) {value : α} {word : UInt64}
    (done : arena.remove? word = some (value, rest)) :
    ∃ index, word = handle index (arena.slotAt index).generation ∧ arena.Retires value rest index := by
  unfold remove? at done
  cases found : arena.resolve word with
  | none => simp [found] at done
  | some place =>
    obtain ⟨index, held⟩ := place
    simp only [found, Option.some.injEq, Prod.mk.injEq] at done
    obtain ⟨rfl, rfl⟩ := done
    obtain ⟨generation, rfl, stored⟩ := (resolve_eq_some_iff sound.size_le).mp found
    have slot := slotAt_eq_iff.mpr stored
    have occupied : (arena.slotAt index).value = some held := by rw [slot]
    have inRange := lt_size_of_slotAt occupied
    have slots := slotAt_modify inRange Slot.retire (index :: arena.free) (arena.live - 1)
    obtain ⟨front, back, before, after⟩ := values_modify inRange Slot.retire (index :: arena.free)
      (arena.live - 1)
    have permuted : (front ++ [held] ++ back).Perm (held :: (front ++ back)) := by
      rw [List.append_assoc]
      exact List.perm_middle
    rw [occupied, Option.toList_some] at before
    rw [Slot.retire, Option.toList_none, List.append_nil] at after
    refine ⟨index, by rw [slot], ⟨?_, ?_, ?_, ?_⟩, occupied, slots, ?_⟩
    · simpa using sound.size_le
    · refine List.nodup_cons.mpr ⟨fun free => ?_, sound.free_nodup⟩
      have vacant := ((sound.mem_free index).mp free).2
      rw [occupied] at vacant
      cases vacant
    · intro j
      have others := sound.mem_free j
      rw [slots, Array.size_modify]
      by_cases same : j = index
      · subst same
        simp [Slot.retire, inRange]
      · simpa [same] using others
    · show arena.live - 1 = _
      rw [after, sound.live_eq, before, permuted.length_eq, List.length_cons, Nat.add_sub_cancel]
    · rw [before, after]
      exact permuted

/-- A word that is no live handle changes nothing. -/
theorem modify_of_get?_eq_none {arena : Arena α} {word : UInt64} (dead : arena.get? word = none)
    (f : α → α) : arena.modify word f = arena := by
  simp only [get?, Option.map_eq_none_iff] at dead
  rw [modify, dead]

/-- Modifying refills the slot that the word names. -/
theorem modify_spec {arena : Arena α} (sound : arena.WellFormed) {word : UInt64} {value : α}
    (live : arena.get? word = some value) (f : α → α) :
    ∃ index, word = handle index (arena.slotAt index).generation ∧
      arena.Refills value (f value) (arena.modify word f) index := by
  simp only [get?, Option.map_eq_some_iff, Prod.exists] at live
  obtain ⟨index, held, found, rfl⟩ := live
  obtain ⟨generation, rfl, stored⟩ := (resolve_eq_some_iff sound.size_le).mp found
  have slot := slotAt_eq_iff.mpr stored
  have occupied : (arena.slotAt index).value = some held := by rw [slot]
  have inRange := lt_size_of_slotAt occupied
  let fill : Slot α → Slot α := fun slot => { slot with value := some (f held) }
  have changed : arena.modify (handle index generation) f =
      { arena with slots := arena.slots.modify index fill } := by
    rw [modify, found]
  have slots := slotAt_modify inRange fill arena.free arena.live
  obtain ⟨front, back, before, after⟩ := values_modify inRange fill arena.free arena.live
  refine ⟨index, by rw [slot], ?_⟩
  rw [changed]
  refine ⟨⟨?_, sound.free_nodup, ?_, ?_⟩, occupied, slots⟩
  · simpa using sound.size_le
  · intro j
    have others := sound.mem_free j
    rw [slots, Array.size_modify]
    by_cases same : j = index
    · subst same
      simpa [fill, occupied] using others
    · simpa [same] using others
  · show arena.live = _
    rw [after, sound.live_eq, before, occupied]
    simp [fill]

end SurfaceBridge.Handle.Arena
