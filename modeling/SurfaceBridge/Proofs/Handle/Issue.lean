import SurfaceBridge.Proofs.Handle.Lookup

/-! Why a handle is never issued twice. A slot's generation is the number of its retirements, as a word; an issued
handle names a generation that is over or one in which the slot is still occupied, and a handle is issued only for a
vacant slot in its current generation. -/
namespace SurfaceBridge.Handle.Arena

variable {α : Type} {arena next : Arena α} {count count' : Nat → Nat} {word : UInt64}

/-- The generation of every slot is its number of retirements, as a word. -/
def CountedBy (arena : Arena α) (count : Nat → Nat) : Prop :=
  ∀ index, (arena.slotAt index).generation = .ofNat (count index)

/-- Each slot stays in its generation and keeps a value that it has, or it is retired; the count goes along. -/
def Advances (arena next : Arena α) (count count' : Nat → Nat) : Prop := ∀ index,
  (count' index = count index ∧ (next.slotAt index).generation = (arena.slotAt index).generation ∧
      ((arena.slotAt index).value.isSome → (next.slotAt index).value.isSome)) ∨
    (count' index = count index + 1 ∧
      (next.slotAt index).generation = (arena.slotAt index).generation + 1)

/-- The word is the handle of a slot in a generation that is over, or in which the slot is occupied. -/
def Used (arena : Arena α) (count : Nat → Nat) (word : UInt64) : Prop :=
  ∃ index generation, index < slotLimit ∧ word = handle index (.ofNat generation) ∧
    (generation < count index ∨ generation = count index ∧ (arena.slotAt index).value.isSome)

/-- How often the value of a slot was taken out from one arena to the next. -/
def taken (arena next : Arena α) (index : Nat) : Nat :=
  if (arena.slotAt index).value.isSome ∧ (next.slotAt index).value.isNone then 1 else 0

theorem taken_le_one (arena next : Arena α) (index : Nat) : taken arena next index ≤ 1 := by
  rw [taken]
  split <;> decide

/-- If no slot changes in any other way, counting the values that were taken out is counting the retirements. -/
theorem advances_of_follows (follows : ∀ index, (arena.slotAt index).Follows (next.slotAt index))
    (count : Nat → Nat) :
    arena.Advances next count fun index => count index + taken arena next index := by
  intro index
  rcases follows index with ⟨same, keeps⟩ | ⟨occupied, retired⟩
  · refine .inl ⟨?_, same, keeps⟩
    show count index + taken arena next index = count index
    rw [taken, if_neg, Nat.add_zero]
    rintro ⟨occupied, vacant⟩
    have stays := keeps occupied
    rw [Option.isNone_iff_eq_none] at vacant
    rw [vacant] at stays
    cases stays
  · refine .inr ⟨?_, by rw [retired, Slot.retire]⟩
    show count index + taken arena next index = count index + 1
    rw [taken, if_pos ⟨occupied, by rw [retired]; rfl⟩]

theorem countedBy_empty : CountedBy ({} : Arena α) fun _ => 0 := fun _ => rfl

theorem CountedBy.advance (counted : arena.CountedBy count) (step : arena.Advances next count count') :
    next.CountedBy count' := by
  intro index
  rcases step index with ⟨same, generation, _⟩ | ⟨more, generation⟩
  · rw [generation, same, counted index]
  · rw [generation, more, UInt32.ofNat_add, counted index]
    rfl

theorem Used.advance (used : arena.Used count word) (step : arena.Advances next count count') :
    next.Used count' word := by
  obtain ⟨index, generation, fits, named, place⟩ := used
  refine ⟨index, generation, fits, named, ?_⟩
  rcases step index with ⟨same, _, keeps⟩ | ⟨more, _⟩
  · rw [same]
    exact place.imp_right fun ⟨current, occupied⟩ => ⟨current, keeps occupied⟩
  · exact .inl (by omega)

/-- A live handle is used. -/
theorem CountedBy.used (counted : arena.CountedBy count) (bounded : arena.slots.size ≤ slotLimit)
    {value : α} (live : arena.get? word = some value) : arena.Used count word := by
  obtain ⟨index, generation, rfl, slot⟩ := (get?_eq_some_iff bounded).mp live
  have occupied : (arena.slotAt index).value = some value := by rw [slot]
  have current := counted index
  rw [slot] at current
  refine ⟨index, count index, (lt_size_of_slotAt occupied).trans_le bounded, by rw [← current], ?_⟩
  exact .inr ⟨rfl, by rw [occupied]; rfl⟩

/-- What is used is not what a vacant slot would issue, as long as its generation has not come around. -/
theorem Used.ne_vacant (used : arena.Used count word) (counted : arena.CountedBy count) {index : Nat}
    (few : count index < 2 ^ 32) (fits : index < slotLimit) (vacant : (arena.slotAt index).value = none) :
    word ≠ handle index (arena.slotAt index).generation := by
  rintro rfl
  obtain ⟨other, generation, inRange, named, place⟩ := used
  obtain ⟨rfl, same⟩ := handle_inj fits inRange named
  rw [counted index] at same
  have equal := congrArg UInt32.toNat same
  simp only [UInt32.toNat_ofNat'] at equal
  rcases place with past | ⟨_, occupied⟩
  · omega
  · rw [vacant] at occupied
    cases occupied

end SurfaceBridge.Handle.Arena
