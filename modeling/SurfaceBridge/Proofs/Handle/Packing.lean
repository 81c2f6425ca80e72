import SurfaceBridge.Handle.Packed
import Mathlib.Tactic.NormNum

/-! Packing as arithmetic: a word is its generation times 2^32 plus its slot's index plus one. Unpacking is
the inverse on every index but the last one, where adding one leaves the low half. -/
namespace SurfaceBridge.Handle.Packed

/-- The index that does not fit: one more than it carries into the generation. -/
def lastIndex : UInt32 := 4294967295

theorem index_succ_lt {handle : Packed} (h : handle.index ≠ lastIndex) :
    handle.index.toNat + 1 < 2 ^ 32 := by
  have bound := handle.index.toNat_lt
  have differs : handle.index.toNat ≠ lastIndex.toNat := fun same => h (UInt32.toNat_inj.mp same)
  simp only [lastIndex, UInt32.reduceToNat] at differs
  omega

theorem toNat_toWord {handle : Packed} (h : handle.index ≠ lastIndex) :
    handle.toWord.toNat = 2 ^ 32 * handle.generation.toNat + (handle.index.toNat + 1) := by
  have low := index_succ_lt h
  have high := handle.generation.toNat_lt
  rw [Nat.two_pow_add_eq_or_of_lt low]
  simp only [toWord, UInt64.toNat_or, UInt64.toNat_shiftLeft, UInt64.toNat_add, UInt32.toNat_toUInt64,
    UInt64.reduceToNat, Nat.shiftLeft_eq, Nat.reducePow, Nat.reduceMod] at low high ⊢
  congr 1
  · omega
  · omega

theorem slot_toNat (word : UInt64) : (word &&& 0xffffffff).toUInt32.toNat = word.toNat % 2 ^ 32 := by
  simp only [UInt64.toNat_toUInt32, UInt64.toNat_and, UInt64.reduceToNat]
  rw [show (4294967295 : Nat) = 2 ^ 32 - 1 from rfl, Nat.and_two_pow_sub_one_eq_mod]
  omega

theorem generation_toNat (word : UInt64) : (word >>> 32).toUInt32.toNat = word.toNat / 2 ^ 32 := by
  have bound := word.toNat_lt
  simp only [UInt64.toNat_toUInt32, UInt64.toNat_shiftRight, UInt64.reduceToNat, Nat.shiftRight_eq_div_pow,
    Nat.reducePow, Nat.reduceMod]
  omega

theorem ofWord?_toWord {handle : Packed} (h : handle.index ≠ lastIndex) :
    ofWord? handle.toWord = some handle := by
  have low := index_succ_lt h
  have word := toNat_toWord h
  have slot : (handle.toWord &&& 0xffffffff).toUInt32 = handle.index + 1 := by
    apply UInt32.toNat_inj.mp
    simp only [slot_toNat, word, UInt32.toNat_add, UInt32.reduceToNat]
    omega
  have generation : (handle.toWord >>> 32).toUInt32 = handle.generation := by
    apply UInt32.toNat_inj.mp
    rw [generation_toNat, word]
    omega
  have occupied : handle.index + 1 ≠ 0 := by
    intro zero
    have := congrArg UInt32.toNat zero
    rw [UInt32.toNat_add] at this
    simp only [UInt32.reduceToNat] at this
    omega
  simp [ofWord?, slot, generation, occupied]

/-- A word holds no handle exactly if its low half is zero. -/
theorem ofWord?_eq_none_iff {word : UInt64} : ofWord? word = none ↔ word.toNat % 2 ^ 32 = 0 := by
  rw [ofWord?, ← slot_toNat]
  simp only [ite_eq_left_iff, reduceCtorEq, imp_false, not_not]
  exact UInt32.toNat_inj.symm

/-- The last index plus one is past the low half, so its words have none to unpack. -/
theorem ofWord?_toWord_last (generation : UInt32) : ofWord? (toWord ⟨lastIndex, generation⟩) = none := by
  have carried : (lastIndex.toUInt64 + 1).toNat % 2 ^ 32 = 0 := rfl
  have shifted : (generation.toUInt64 <<< 32).toNat % 2 ^ 32 = 0 := by
    simp only [UInt64.toNat_shiftLeft, UInt32.toNat_toUInt64, UInt64.reduceToNat, Nat.shiftLeft_eq,
      Nat.reducePow, Nat.reduceMod]
    omega
  rw [ofWord?_eq_none_iff, toWord, UInt64.toNat_or, Nat.or_mod_two_pow, carried, shifted]
  rfl

theorem index_ne_last_of_ofWord? {word : UInt64} {handle : Packed} (h : ofWord? word = some handle) :
    handle.index ≠ lastIndex := by
  unfold ofWord? at h
  simp only [Option.ite_none_left_eq_some, Option.some.injEq] at h
  obtain ⟨occupied, rfl⟩ := h
  intro last
  apply occupied
  have := congrArg (· + 1) last
  simpa [lastIndex] using this

theorem toWord_of_ofWord? {word : UInt64} {handle : Packed} (h : ofWord? word = some handle) :
    handle.toWord = word := by
  have fits := index_ne_last_of_ofWord? h
  unfold ofWord? at h
  simp only [Option.ite_none_left_eq_some, Option.some.injEq] at h
  obtain ⟨occupied, rfl⟩ := h
  apply UInt64.toNat_inj.mp
  rw [toNat_toWord fits, generation_toNat]
  have slot := slot_toNat word
  have positive : (word &&& 0xffffffff).toUInt32.toNat ≠ 0 := fun zero =>
    occupied (UInt32.toNat_inj.mp (by simpa using zero))
  rw [UInt32.toNat_sub_of_le _ _ (UInt32.le_iff_toNat_le.mpr (by simp only [UInt32.reduceToNat]; omega)), slot]
  simp only [UInt32.reduceToNat]
  omega

end SurfaceBridge.Handle.Packed
