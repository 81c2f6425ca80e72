import SurfaceBridge.Extension

/-! Names in records of fixed size. A record holds as much of a name as leaves a place for the terminator, and zeros
behind it, so a name that fits is read back whole. Copying it character by character comes to the same bits. -/
namespace SurfaceBridge.ExtensionProperties

section Copying

variable {n : Nat} (chars : Vector Int8 n)

/-- Copies bytes into an array of signed characters, from an index on. -/
def copyFrom (chars : Vector Int8 n) (index : Nat) : List UInt8 → Vector Int8 n
  | [] => chars
  | byte :: bytes => copyFrom (chars.setIfInBounds index byte.toInt8) (index + 1) bytes

/-- Writes a name into an array of characters: as many bytes as leave a place behind them, and a zero there. -/
def writeName (bytes : List UInt8) : Vector Int8 n :=
  let length := min bytes.length (n - 1)
  (copyFrom chars 0 (bytes.take length)).setIfInBounds length 0

/-- Copying changes the places that the bytes go to, and no others. -/
theorem getElem_copyFrom (index : Nat) (bytes : List UInt8) (i : Nat) (inRange : i < n) :
    (copyFrom chars index bytes)[i] =
      if index ≤ i then (bytes[i - index]?.map UInt8.toInt8).getD chars[i] else chars[i] := by
  induction bytes generalizing chars index with
  | nil => exact (ite_self _).symm
  | cons byte bytes ih =>
    rw [copyFrom, ih, Vector.getElem_setIfInBounds]
    rcases Nat.lt_trichotomy index i with before | rfl | behind
    · have further : i - index = i - (index + 1) + 1 := by omega
      rw [if_pos (Nat.succ_le_of_lt before), if_pos (Nat.le_of_lt before), if_neg (Nat.ne_of_lt before), further,
        List.getElem?_cons_succ]
    · rw [if_neg (Nat.not_succ_le_self index), if_pos rfl, if_pos (Nat.le_refl index), Nat.sub_self]
      rfl
    · rw [if_neg (by omega), if_neg (Nat.ne_of_gt behind), if_neg (Nat.not_le.mpr behind)]

/-- What was in the array stays behind the terminator. -/
theorem getElem_writeName (bytes : List UInt8) (i : Nat) (inRange : i < n) :
    (writeName chars bytes)[i] =
      if i = min bytes.length (n - 1) then 0
      else ((bytes.take (n - 1))[i]?.map UInt8.toInt8).getD chars[i] := by
  rw [writeName, Vector.getElem_setIfInBounds, getElem_copyFrom, if_pos (Nat.zero_le i), Nat.sub_zero]
  have same : bytes.take (min bytes.length (n - 1)) = bytes.take (n - 1) := by
    rw [Nat.min_comm, ← List.take_eq_take_min]
  simp only [same, eq_comm]

end Copying

/-- What is in a record, byte by byte: a name that leaves a place for the terminator, zeros in the rest of the array,
and the version. Readers find the name. -/
structure Holds (record : ExtensionProperties) (bytes : List UInt8) (number : UInt32) : Prop where
  fits : bytes.length ≤ 255
  name : record.name.toList = bytes ++ List.replicate (256 - bytes.length) 0
  label : record.label.bytes = bytes
  version : record.version = number

theorem label_congr {first second : ExtensionProperties} (same : first.name = second.name) :
    first.label = second.label := by
  rw [ExtensionProperties.label, same, ExtensionProperties.label]

variable (label : Label) (version : UInt32)

/-- The array holds the front of the name, and zeros behind it. -/
theorem toList_name :
    (ofLabel label version).name.toList =
      label.bytes.take 255 ++ List.replicate (256 - min label.bytes.length 255) 0 := by
  apply List.ext_getElem
  · simp only [Vector.length_toList, List.length_append, List.length_take, List.length_replicate]
    omega
  · intro i inRange _
    rw [Vector.getElem_toList]
    simp only [ofLabel, Vector.getElem_ofFn, List.getElem_append, List.length_take, List.getElem_take,
      List.getElem_replicate]
    split
    · split
      · rw [List.getElem?_eq_getElem (by omega), Option.getD_some]
      · rw [List.getElem?_eq_none (by omega), Option.getD_none]
    · rw [dif_neg (by omega)]

/-- The name that is written into an array of zeros has the bits of the record's name. -/
theorem map_writeName :
    (writeName (Vector.replicate 256 0) label.bytes).map Int8.toUInt8 = (ofLabel label version).name := by
  apply Vector.ext
  intro i inRange
  rw [Vector.getElem_map, getElem_writeName, Vector.getElem_replicate]
  simp only [ofLabel, Vector.getElem_ofFn, List.getElem?_take, Nat.reduceSub]
  rcases Nat.lt_trichotomy i (min label.bytes.length 255) with before | last | behind
  · have inName : i < label.bytes.length := by omega
    rw [if_neg (Nat.ne_of_lt before), if_pos (by omega), if_pos (by omega), List.getElem?_eq_getElem inName]
    exact UInt8.toUInt8_toInt8 _
  · rw [if_pos last]
    split
    · rw [List.getElem?_eq_none (by omega)]
      rfl
    · rfl
  · have past : label.bytes[i]? = none := List.getElem?_eq_none (by omega)
    rw [if_neg (Nat.ne_of_gt behind), past, ite_self, Option.map_none, Option.getD_none, Option.getD_none, ite_self]
    rfl

/-- Reading up to the first zero gives the front of the name. -/
theorem bytes_label : (ofLabel label version).label.bytes = label.bytes.take 255 := by
  have whole : ∀ byte ∈ label.bytes.take 255, decide (byte ≠ 0) = true := by
    intro byte among
    have nonzero : byte ≠ 0 := fun zero => label.terminated (zero ▸ List.mem_of_mem_take among)
    exact decide_eq_true nonzero
  rw [ExtensionProperties.label, toList_name]
  show List.takeWhile (fun byte => decide (byte ≠ 0)) _ = _
  rw [List.takeWhile_append_of_pos whole, List.takeWhile_replicate]
  simp

theorem holds_ofLabel (fits : label.bytes.length ≤ 255) : (ofLabel label version).Holds label.bytes version where
  fits := fits
  name := by rw [toList_name, List.take_of_length_le fits, Nat.min_eq_left fits]
  label := by rw [bytes_label, List.take_of_length_le fits]
  version := rfl

/-- Records have the same name exactly if the names agree as far as they fit. -/
theorem name_eq_iff (other : Label) (version' : UInt32) :
    (ofLabel label version).name = (ofLabel other version').name ↔ label.bytes.take 255 = other.bytes.take 255 := by
  constructor
  · intro same
    rw [← bytes_label label version, ← bytes_label other version', label_congr same]
  · intro same
    have length := congrArg List.length same
    rw [List.length_take, List.length_take, Nat.min_comm, Nat.min_comm 255] at length
    rw [← Vector.toList_inj, toList_name, toList_name, same, length]

/-- A name is read back whole exactly if it fits. -/
theorem label_eq_iff : (ofLabel label version).label = label ↔ label.bytes.length ≤ 255 := by
  have read := bytes_label label version
  constructor
  · intro same
    rw [same] at read
    have length := congrArg List.length read
    rw [List.length_take] at length
    omega
  · intro fits
    rw [← Label.ofBytes_bytes (ofLabel label version).label, read, List.take_of_length_le fits, Label.ofBytes_bytes]

/-- Somewhere in the array the name ends. -/
theorem zero_mem_name : 0 ∈ (ofLabel label version).name := by
  rw [← Vector.mem_toList_iff, toList_name, List.mem_append, List.mem_replicate]
  exact .inr ⟨by omega, rfl⟩

/-- The record of a name of any length holds the name up to 255 bytes, zeros in the rest of its array, and the version;
the signed characters of the name, written into zeros one by one, have the same bits. So the array is read back as the
front of the name that fits, which is the name itself exactly if it fits as a whole, and names that fit are told
apart. -/
theorem record_holds_name (label : Label) (version : UInt32) :
    let record := ofLabel label version
    (record.name.toList = label.bytes.take 255 ++ List.replicate (256 - min label.bytes.length 255) 0 ∧
      record.version = version) ∧
    (writeName (Vector.replicate 256 0) label.bytes).map Int8.toUInt8 = record.name ∧
    0 ∈ record.name ∧
    (record.label.bytes = label.bytes.take 255 ∧ (record.label = label ↔ label.bytes.length ≤ 255)) ∧
    ∀ other version', let record' := ofLabel other version'
      (record.name = record'.name ↔ label.bytes.take 255 = other.bytes.take 255) ∧
      (label.bytes.length ≤ 255 → other.bytes.length ≤ 255 → record.name = record'.name → label = other) := by
  refine ⟨⟨toList_name label version, rfl⟩, map_writeName label version, zero_mem_name label version,
    ⟨bytes_label label version, label_eq_iff label version⟩, fun other version' => ⟨name_eq_iff .., ?_⟩⟩
  intro fits fits' same
  calc
    label = (ofLabel label version).label := ((label_eq_iff label version).mpr fits).symm
    _ = (ofLabel other version').label := label_congr same
    _ = other := (label_eq_iff other version').mpr fits'

end SurfaceBridge.ExtensionProperties
