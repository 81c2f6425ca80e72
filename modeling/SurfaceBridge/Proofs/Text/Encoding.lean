import SurfaceBridge.Label
import Mathlib.Data.List.Basic

/-! Text as bytes: bytes are read as a text exactly if the text is encoded as these bytes, and a label of a text
without zero characters shows as that text. -/
namespace SurfaceBridge.Text

theorem segments_append (c : Char) (rest : List UInt8) :
    segments (String.utf8EncodeChar c ++ rest) = .char c :: segments rest := by
  have leads := leadingChar_append c rest
  have some_bytes : String.utf8EncodeChar c ≠ [] := String.utf8EncodeChar_ne_nil
  obtain ⟨first, others, spelled⟩ := List.exists_cons_of_ne_nil some_bytes
  rw [spelled, List.cons_append] at leads ⊢
  rw [segments, leads]
  simp

/-- Encoded characters are read back one by one. -/
theorem segments_flatMap (chars : List Char) :
    segments (chars.flatMap String.utf8EncodeChar) = chars.map .char := by
  induction chars with
  | nil => simp [segments]
  | cons c chars ih => rw [List.flatMap_cons, segments_append, ih, List.map_cons]

/-- Bytes that are read as characters throughout are what these are encoded as. -/
theorem eq_flatMap_of_segments {bytes : List UInt8} {chars : List Char}
    (read : segments bytes = chars.map .char) : bytes = chars.flatMap String.utf8EncodeChar := by
  induction chars generalizing bytes with
  | nil =>
    cases bytes with
    | nil => rfl
    | cons byte rest =>
      rw [segments] at read
      split at read <;> cases read
  | cons c chars ih =>
    cases bytes with
    | nil => simp [segments] at read
    | cons byte rest =>
      rw [segments] at read
      split at read
      · rename_i first length leads
        obtain ⟨after, spelled, counted⟩ := exists_of_leadingChar leads
        simp only [List.map_cons, List.cons.injEq, Segment.char.injEq] at read
        obtain ⟨rfl, read⟩ := read
        have behind : rest.drop (length - 1) = after := by
          have some_bytes : 0 < length := counted ▸ List.length_pos_iff.mpr String.utf8EncodeChar_ne_nil
          rw [← List.drop_succ_cons (a := byte), spelled, Nat.sub_add_cancel some_bytes, counted,
            List.drop_left]
        rw [behind] at read
        rw [spelled, ih read, List.flatMap_cons]
      · cases read

theorem bytes_toUTF8 (text : String) : text.toUTF8.data.toList = text.toList.flatMap String.utf8EncodeChar := by
  have encoded : text.toByteArray = text.toList.utf8Encode := by simp
  simp [String.toUTF8, encoded, List.utf8Encode]

/-- Segments that are characters throughout are collected. -/
theorem mapM_eq_some_iff {f : Segment → Option Char} (onChar : ∀ c, f (.char c) = some c)
    (onStray : ∀ byte, f (.stray byte) = none) {parts : List Segment} {chars : List Char} :
    parts.mapM f = some chars ↔ parts = chars.map .char := by
  induction parts generalizing chars with
  | nil => cases chars <;> simp
  | cons part parts ih =>
    cases part with
    | stray byte => cases chars <;> simp [onStray]
    | char c => cases chars <;> simp [Option.bind_eq_some_iff, onChar, ih, and_comm]

/-- Bytes are read as a text exactly if the text is encoded as these bytes. -/
theorem decode?_eq_some_iff {bytes : List UInt8} {text : String} :
    decode? bytes = some text ↔ bytes = text.toUTF8.data.toList := by
  rw [bytes_toUTF8, decode?, Option.map_eq_map, Option.map_eq_some_iff]
  constructor
  · rintro ⟨chars, read, rfl⟩
    rw [String.toList_ofList]
    exact eq_flatMap_of_segments ((mapM_eq_some_iff (fun _ => rfl) (fun _ => rfl)).mp read)
  · rintro rfl
    refine ⟨text.toList, ?_, String.ofList_toList⟩
    exact (mapM_eq_some_iff (fun _ => rfl) (fun _ => rfl)).mpr (segments_flatMap _)

/-- Only the zero character is encoded with a zero byte. -/
theorem eq_zero_of_zero_mem {c : Char} (zero : 0 ∈ String.utf8EncodeChar c) : c = '\x00' := by
  have byte {n : Nat} (same : 0 = UInt8.ofNat n) : n % 256 = 0 := by
    rw [← UInt8.toNat_ofNat', ← same]
    rfl
  unfold String.utf8EncodeChar at zero
  dsimp only at zero
  split_ifs at zero with one two three
  · have code := byte (List.mem_singleton.mp zero)
    refine Char.ext (UInt32.toNat_inj.mp ?_)
    show c.val.toNat = 0
    omega
  · simp only [List.mem_cons, List.not_mem_nil, or_false] at zero
    rcases zero with zero | zero <;> have code := byte zero <;> omega
  · simp only [List.mem_cons, List.not_mem_nil, or_false] at zero
    rcases zero with zero | zero | zero <;> have code := byte zero <;> omega
  · simp only [List.mem_cons, List.not_mem_nil, or_false] at zero
    rcases zero with zero | zero | zero | zero <;> have code := byte zero <;> omega

end SurfaceBridge.Text

namespace SurfaceBridge.Label

variable {text : String}

/-- The label of a text without zero characters has all of its bytes. -/
theorem bytes_ofText (whole : '\x00' ∉ text.toList) : (ofText text).bytes = text.toUTF8.data.toList := by
  have terminated : 0 ∉ text.toUTF8.data.toList := by
    rw [Text.bytes_toUTF8, List.mem_flatMap]
    rintro ⟨c, among, zero⟩
    exact whole (Text.eq_zero_of_zero_mem zero ▸ among)
  exact congrArg bytes (ofBytes_bytes ⟨_, terminated⟩)

/-- It shows as the text. -/
theorem text_ofText (whole : '\x00' ∉ text.toList) : (ofText text).text = text := by
  rw [Label.text, bytes_ofText whole, Text.bytes_toUTF8, Text.segments_flatMap, List.map_map]
  simp [Function.comp_def]

end SurfaceBridge.Label
