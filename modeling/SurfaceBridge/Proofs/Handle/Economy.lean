import SurfaceBridge.Proofs.Handle.Evolution
import Mathlib.Order.Bounds.Basic

/-! The economy of slots. In every state that a new arena can get into, the free list holds the vacant slots, a slot's
generation counts the values that were taken out of it, and there are as many slots as there ever were values at once.
So nothing that the arena does without a check can go wrong. -/
namespace SurfaceBridge.Handle.Arena

variable {α β : Type} {arena next rest : Arena α} {word : UInt64} {value : α} {words : List UInt64} {values : List α}

/-- How many slots hold a value. -/
def occupancy (arena : Arena α) : Nat := arena.slots.countP fun slot => slot.value.isSome

theorem length_values (arena : Arena α) : arena.values.length = arena.occupancy := by
  rw [values, List.length_filterMap_eq_countP, Array.countP_toList]
  rfl

theorem WellFormed.live_eq_occupancy (sound : arena.WellFormed) : arena.live = arena.occupancy :=
  sound.live_eq.trans arena.length_values

/-- The free indices are those of slots that are there and hold nothing. -/
theorem WellFormed.mem_free_iff (sound : arena.WellFormed) (index : Nat) :
    index ∈ arena.free ↔ ∃ slot, arena.slots[index]? = some slot ∧ slot.value = none := by
  rw [sound.mem_free]
  constructor
  · rintro ⟨inRange, vacant⟩
    rw [slotAt, Array.getElem?_eq_getElem inRange] at vacant
    exact ⟨_, Array.getElem?_eq_getElem inRange, vacant⟩
  · rintro ⟨slot, stored, vacant⟩
    exact ⟨(Array.getElem?_eq_some_iff.mp stored).1, by rw [slotAt, stored]; exact vacant⟩

/-- Without vacant slots all slots are occupied. -/
theorem WellFormed.occupancy_of_free_nil (sound : arena.WellFormed) (crowded : arena.free = []) :
    arena.occupancy = arena.slots.size := by
  have whole := live_add_free sound
  rwa [crowded, List.length_nil, Nat.add_zero, sound.live_eq_occupancy] at whole

theorem WellFormed.occupancy_le_size (sound : arena.WellFormed) : arena.occupancy ≤ arena.slots.size := by
  have whole := live_add_free sound
  rw [sound.live_eq_occupancy] at whole
  omega

/-- The table grows to hold one more value than ever, and for nothing else. -/
theorem Evolves.size_eq_max (evolves : arena.Evolves next) :
    next.slots.size = max next.occupancy arena.slots.size := by
  have fits := evolves.wellFormed.occupancy_le_size
  rcases evolves.size with same | ⟨_, crowded, grown⟩
  · rw [same] at fits ⊢
    exact (Nat.max_eq_right fits).symm
  · have full := evolves.wellFormed.occupancy_of_free_nil crowded
    omega

theorem Evolves.size_le (evolves : arena.Evolves next) : arena.slots.size ≤ next.slots.size := by
  rw [evolves.size_eq_max]
  exact Nat.le_max_right ..

/-- The number of slots is the peak of the number of values over the run. -/
theorem isGreatest_size (uses : List (Use α β)) :
    IsGreatest {n | ∃ earlier, earlier <+: uses ∧ (({} : Arena α).afterAll earlier).occupancy = n}
      (({} : Arena α).afterAll uses).slots.size := by
  induction uses using List.reverseRecOn with
  | nil =>
    refine ⟨⟨[], List.prefix_rfl, rfl⟩, ?_⟩
    rintro n ⟨earlier, before, rfl⟩
    rw [List.prefix_nil.mp before]
    exact Nat.le_refl 0
  | append_singleton uses use ih =>
    have moments : {n | ∃ earlier, earlier <+: uses ++ [use] ∧ (({} : Arena α).afterAll earlier).occupancy = n} =
        Insert.insert (({} : Arena α).afterAll (uses ++ [use])).occupancy
          {n | ∃ earlier, earlier <+: uses ∧ (({} : Arena α).afterAll earlier).occupancy = n} := by
      ext n
      simp only [List.prefix_concat_iff, Set.mem_ofPred_eq, Set.mem_insert_iff, or_and_right, exists_or,
        exists_eq_left, eq_comm]
    have peak := (after_evolves (wellFormed_afterAll uses) use).size_eq_max
    rw [← afterAll_concat] at peak
    rw [moments, peak]
    exact ih.insert _

/-- The generation of a slot is the number of values that were taken out of it, as a word. -/
theorem countedBy_withdrawals (uses : List (Use α β)) :
    (({} : Arena α).afterAll uses).CountedBy (withdrawals uses) := by
  induction uses using List.reverseRecOn with
  | nil => exact countedBy_empty
  | append_singleton uses use ih =>
    have evolves := after_evolves (wellFormed_afterAll uses) use
    have counted := ih.advance (advances_of_follows evolves.follows _)
    rw [afterAll_concat]
    exact fun index => (counted index).trans (congrArg _ (withdrawals_concat uses use index).symm)

/-- Every handle that was issued names a slot of the table. -/
theorem exists_index_of_issued (uses : List (Use α β)) (old : word ∈ issued uses) :
    ∃ index generation, index < (({} : Arena α).afterAll uses).slots.size ∧ word = handle index generation := by
  induction uses using List.reverseRecOn with
  | nil => cases old
  | append_singleton uses use ih =>
    have sound := wellFormed_afterAll (β := β) uses
    rw [afterAll_concat]
    rcases mem_issued_concat.mp old with early | now
    · obtain ⟨index, generation, within, named⟩ := ih early
      exact ⟨index, generation, within.trans_le (after_evolves sound use).size_le, named⟩
    · obtain ⟨value, index, named, stores⟩ := exists_stores_of_issued? sound now
      have occupied : (((({} : Arena α).afterAll uses).after use).slotAt index).value = some value := by
        rw [stores.slots, if_pos rfl]
      exact ⟨index, _, lt_size_of_slotAt occupied, named⟩

/-- A removal counts down from at least one. -/
theorem live_of_remove? (sound : arena.WellFormed) (done : arena.remove? word = some (value, rest)) :
    rest.live + 1 = arena.live := by
  obtain ⟨_, _, retires⟩ := remove?_spec sound done
  rw [retires.wellFormed.live_eq, sound.live_eq, retires.values.length_eq, List.length_cons]

theorem Removes.live_add_length (removes : arena.Removes words values rest) (sound : arena.WellFormed) :
    rest.live + values.length = arena.live := by
  induction removes with
  | done => rfl
  | step taken _ ih =>
    obtain ⟨_, _, retires⟩ := remove?_spec sound taken
    rw [List.length_cons, ← Nat.add_assoc, ih retires.wellFormed, live_of_remove? sound taken]

theorem live_of_drain (sound : arena.WellFormed) (p : α → Bool) :
    (arena.drain p).2.live + (arena.drain p).1.length = arena.live := by
  have drained := (run_drainBy sound.size_le (noting p) []).1.live_add_length sound
  rwa [run_drainBy_noting] at drained

/-- After every run of a new arena the free list holds each vacant slot once and nothing else, every slot is live or
free, a slot's generation is the number of values that were taken out of it as a word, and there are as many slots as
there were ever values at once: only an arena without a vacant slot grows. So storing finds a vacant slot where the free
list says, counting down and reserving never go below zero, and issued handles name slots below the peak. -/
theorem slot_economy (uses : List (Use α β)) :
    let arena := ({} : Arena α).afterAll uses
    let counts := {n | ∃ earlier, earlier <+: uses ∧ (({} : Arena α).afterAll earlier).occupancy = n}
    (arena.free.Nodup ∧
      ∀ index, index ∈ arena.free ↔ ∃ slot, arena.slots[index]? = some slot ∧ slot.value = none) ∧
    (arena.live = arena.occupancy ∧ arena.live + arena.free.length = arena.slots.size) ∧
    (∀ index slot, arena.slots[index]? = some slot →
      slot.generation.toNat = withdrawals uses index % 2 ^ 32) ∧
    (IsGreatest counts arena.slots.size ∧ ∀ use : Use α β,
      (arena.after use).slots.size = arena.slots.size ∨
        arena.occupancy = arena.slots.size ∧ (arena.after use).slots.size = arena.slots.size + 1) ∧
    (∀ index free, arena.free = index :: free →
      ∃ slot, arena.slots[index]? = some slot ∧ slot.value = none) ∧
    (arena.free.length ≤ arena.slots.size + 1 ∧
      (∀ word value rest, arena.remove? word = some (value, rest) → rest.live + 1 = arena.live) ∧
      (∀ p, (arena.drain p).2.live + (arena.drain p).1.length = arena.live) ∧
      ∀ (σ : Type) (ask : α → StateM σ Bool) (state : σ),
        let drained := ((arena.drainBy ask).run state).1
        drained.2.live + drained.1.length = arena.live) ∧
    ∀ word ∈ issued uses, ∃ packed, Packed.ofWord? word = some packed ∧ packed.index.toNat < arena.slots.size := by
  intro arena counts
  have sound : arena.WellFormed := wellFormed_afterAll uses
  have whole := live_add_free sound
  refine ⟨⟨sound.free_nodup, sound.mem_free_iff⟩, ⟨sound.live_eq_occupancy, whole⟩, ?_, ⟨isGreatest_size uses, ?_⟩, ?_,
    ⟨by omega, fun _ _ _ => live_of_remove? sound, live_of_drain sound, ?_⟩, ?_⟩
  · intro index slot stored
    have counted := countedBy_withdrawals uses index
    rw [slotAt, stored, Option.getD_some] at counted
    rw [counted, UInt32.toNat_ofNat']
  · intro use
    rcases (after_evolves sound use).size with same | ⟨crowded, _, grown⟩
    · exact .inl same
    · exact .inr ⟨sound.occupancy_of_free_nil crowded, grown⟩
  · intro index free next
    exact (sound.mem_free_iff index).mp (by rw [next]; exact List.mem_cons_self)
  · intro σ ask state
    exact (run_drainBy sound.size_le ask state).1.live_add_length sound
  · intro word old
    obtain ⟨index, generation, within, rfl⟩ := exists_index_of_issued uses old
    have fits := within.trans_le sound.size_le
    exact ⟨_, ofWord?_handle fits generation, by rwa [toNat_index fits]⟩

/-- Three values in all, but never more than two at once. -/
example :
    let uses : List (Use Nat Nat) :=
      [.perform (.insert 7), .perform (.insert 8), .perform (.drain (· = 7)), .perform (.insert 9)]
    (({} : Arena Nat).afterAll uses).slots.size = 2 := by
  decide +kernel

end SurfaceBridge.Handle.Arena
