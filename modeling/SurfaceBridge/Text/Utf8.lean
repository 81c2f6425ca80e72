/-! Bytes split into the characters that UTF-8 encodes and the bytes that belong to none. -/
namespace SurfaceBridge.Text

/-- A stretch of a byte string. -/
inductive Segment where
  | char (c : Char)
  | stray (byte : UInt8)
  deriving DecidableEq

private def scalar (code least : Nat) (length : Nat) : Option (Char × Nat) :=
  if h : code.isValidChar ∧ least ≤ code then some (⟨.ofNat code, by
    have := h.1; simp [Nat.isValidChar, UInt32.isValidChar] at *; omega⟩, length) else none

private def tail (byte : UInt8) : Option Nat :=
  if 0x80 ≤ byte ∧ byte < 0xc0 then some (byte.toNat - 0x80) else none

/-- The character that the bytes start with and how many bytes it takes, if they start with one.
Overlong forms and surrogates are no characters. -/
def leadingChar : List UInt8 → Option (Char × Nat)
  | [] => none
  | a :: rest =>
    if a < 0x80 then scalar a.toNat 0 1
    else if 0xc0 ≤ a ∧ a < 0xe0 then
      match rest with
      | b :: _ => do scalar ((a.toNat - 0xc0) * 0x40 + (← tail b)) 0x80 2
      | _ => none
    else if 0xe0 ≤ a ∧ a < 0xf0 then
      match rest with
      | b :: c :: _ => do scalar (((a.toNat - 0xe0) * 0x40 + (← tail b)) * 0x40 + (← tail c)) 0x800 3
      | _ => none
    else if 0xf0 ≤ a ∧ a < 0xf8 then
      match rest with
      | b :: c :: d :: _ => do
        scalar ((((a.toNat - 0xf0) * 0x40 + (← tail b)) * 0x40 + (← tail c)) * 0x40 + (← tail d)) 0x10000 4
      | _ => none
    else none

private theorem scalar_toNat {c : Char} {least : Nat} (long : least ≤ c.val.toNat) (length : Nat) :
    scalar c.val.toNat least length = some (c, length) := by
  have valid : c.val.toNat.isValidChar := c.valid
  rw [scalar, dif_pos ⟨valid, long⟩, Option.some.injEq, Prod.mk.injEq]
  exact ⟨Char.ext UInt32.ofNat_toNat, rfl⟩

private theorem of_scalar {code least length size : Nat} {c : Char}
    (found : scalar code least length = some (c, size)) : c.val.toNat = code ∧ least ≤ code ∧ size = length := by
  unfold scalar at found
  split at found
  · rename_i valid
    obtain ⟨rfl, rfl⟩ := Prod.mk.inj (Option.some.inj found)
    have small : code < 1114112 := by
      have := valid.1
      simp only [Nat.isValidChar] at this
      omega
    exact ⟨UInt32.toNat_ofNat_of_lt' (Nat.lt_trans small (by decide)), valid.2, rfl⟩
  · cases found

private theorem tail_ofNat (n : Nat) : tail (.ofNat (n % 64 + 128)) = some (n % 64) := by
  have byte : (UInt8.ofNat (n % 64 + 128)).toNat = n % 64 + 128 := by
    rw [UInt8.toNat_ofNat']
    omega
  have bounds : 0x80 ≤ UInt8.ofNat (n % 64 + 128) ∧ UInt8.ofNat (n % 64 + 128) < 0xc0 := by
    simp only [UInt8.le_iff_toNat_le, UInt8.lt_iff_toNat_lt, byte, UInt8.reduceToNat]
    omega
  rw [tail, if_pos bounds, byte, Nat.add_sub_cancel]

private theorem of_tail {byte : UInt8} {n : Nat} (found : tail byte = some n) : n < 64 ∧ byte.toNat = n + 128 := by
  unfold tail at found
  split at found
  · rename_i bounds
    simp only [UInt8.le_iff_toNat_le, UInt8.lt_iff_toNat_lt, UInt8.reduceToNat] at bounds
    have code := Option.some.inj found
    omega
  · cases found

private theorem toNat_ofNat_add {n base : Nat} (fits : n + base < 256) : (UInt8.ofNat (n + base)).toNat = n + base := by
  rw [UInt8.toNat_ofNat']
  omega

section Forms

variable {a b c d : UInt8} {rest : List UInt8}

private theorem leadingChar_one (low : a.toNat < 128) : leadingChar (a :: rest) = scalar a.toNat 0 1 := by
  unfold leadingChar
  simp only [UInt8.lt_iff_toNat_lt, UInt8.reduceToNat]
  rw [if_pos low]

private theorem leadingChar_two (least : 192 ≤ a.toNat) (most : a.toNat < 224) :
    leadingChar (a :: b :: rest) = (tail b).bind fun x => scalar ((a.toNat - 192) * 64 + x) 0x80 2 := by
  unfold leadingChar
  simp only [UInt8.lt_iff_toNat_lt, UInt8.le_iff_toNat_le, UInt8.reduceToNat]
  rw [if_neg (by omega), if_pos ⟨least, most⟩]
  rfl

private theorem leadingChar_three (least : 224 ≤ a.toNat) (most : a.toNat < 240) :
    leadingChar (a :: b :: c :: rest) = (tail b).bind fun x => (tail c).bind fun y =>
      scalar (((a.toNat - 224) * 64 + x) * 64 + y) 0x800 3 := by
  unfold leadingChar
  simp only [UInt8.lt_iff_toNat_lt, UInt8.le_iff_toNat_le, UInt8.reduceToNat]
  rw [if_neg (by omega), if_neg (by omega), if_pos ⟨least, most⟩]
  rfl

private theorem leadingChar_four (least : 240 ≤ a.toNat) (most : a.toNat < 248) :
    leadingChar (a :: b :: c :: d :: rest) = (tail b).bind fun x => (tail c).bind fun y => (tail d).bind fun z =>
      scalar ((((a.toNat - 240) * 64 + x) * 64 + y) * 64 + z) 0x10000 4 := by
  unfold leadingChar
  simp only [UInt8.lt_iff_toNat_lt, UInt8.le_iff_toNat_le, UInt8.reduceToNat]
  rw [if_neg (by omega), if_neg (by omega), if_neg (by omega), if_pos ⟨least, most⟩]
  rfl

end Forms

/-- What a character is encoded as starts with that character. -/
theorem leadingChar_append (c : Char) (rest : List UInt8) :
    leadingChar (String.utf8EncodeChar c ++ rest) = some (c, (String.utf8EncodeChar c).length) := by
  have valid : c.val.toNat < 1114112 := by
    have := c.valid
    simp only [UInt32.isValidChar, Nat.isValidChar] at this
    omega
  have found (least length : Nat) (long : least ≤ c.val.toNat) := scalar_toNat long length
  unfold String.utf8EncodeChar
  generalize c.val.toNat = n at *
  dsimp only
  by_cases one : n ≤ 127
  · have byte : (UInt8.ofNat n).toNat = n := by
      rw [UInt8.toNat_ofNat']
      omega
    rw [if_pos one, List.singleton_append, leadingChar_one (by omega), byte]
    exact found 0 1 (Nat.zero_le n)
  by_cases two : n ≤ 2047
  · have byte : (UInt8.ofNat (n / 64 % 32 + 192)).toNat = n / 64 % 32 + 192 := toNat_ofNat_add (by omega)
    have whole : n / 64 % 32 * 64 + n % 64 = n := by omega
    rw [if_neg one, if_pos two, List.cons_append, List.singleton_append, leadingChar_two (by omega) (by omega),
      tail_ofNat, byte, Nat.add_sub_cancel, Option.bind_some, whole]
    exact found 0x80 2 (by omega)
  by_cases three : n ≤ 65535
  · have byte : (UInt8.ofNat (n / 4096 % 16 + 224)).toNat = n / 4096 % 16 + 224 := toNat_ofNat_add (by omega)
    have whole : (n / 4096 % 16 * 64 + n / 64 % 64) * 64 + n % 64 = n := by omega
    rw [if_neg one, if_neg two, if_pos three, List.cons_append, List.cons_append, List.singleton_append,
      leadingChar_three (by omega) (by omega), tail_ofNat, tail_ofNat, byte, Nat.add_sub_cancel, Option.bind_some,
      Option.bind_some, whole]
    exact found 0x800 3 (by omega)
  · have byte : (UInt8.ofNat (n / 262144 % 8 + 240)).toNat = n / 262144 % 8 + 240 := toNat_ofNat_add (by omega)
    have whole : ((n / 262144 % 8 * 64 + n / 4096 % 64) * 64 + n / 64 % 64) * 64 + n % 64 = n := by omega
    rw [if_neg one, if_neg two, if_neg three, List.cons_append, List.cons_append, List.cons_append,
      List.singleton_append, leadingChar_four (by omega) (by omega), tail_ofNat, tail_ofNat, tail_ofNat, byte,
      Nat.add_sub_cancel, Option.bind_some, Option.bind_some, Option.bind_some, whole]
    exact found 0x10000 4 (by omega)

private theorem ofNat_eq (byte : UInt8) {n : Nat} (same : n = byte.toNat) : UInt8.ofNat n = byte := by
  rw [same, UInt8.ofNat_toNat]

/-- Bytes that start with a character start with what it is encoded as. -/
theorem exists_of_leadingChar {bytes : List UInt8} {c : Char} {length : Nat}
    (found : leadingChar bytes = some (c, length)) :
    ∃ rest, bytes = String.utf8EncodeChar c ++ rest ∧ length = (String.utf8EncodeChar c).length := by
  unfold leadingChar at found
  simp only [UInt8.lt_iff_toNat_lt, UInt8.le_iff_toNat_le, UInt8.reduceToNat, Option.bind_eq_bind] at found
  unfold String.utf8EncodeChar
  split at found
  · cases found
  rename_i a rest
  split at found
  · rename_i low
    obtain ⟨code, _, rfl⟩ := of_scalar found
    refine ⟨rest, ?_⟩
    rw [code, if_pos (by omega), ofNat_eq a rfl]
    exact ⟨rfl, rfl⟩
  split at found
  · split at found
    · rename_i bounds b rest
      obtain ⟨x, second, found⟩ := Option.bind_eq_some_iff.mp found
      obtain ⟨small, second⟩ := of_tail second
      obtain ⟨code, long, rfl⟩ := of_scalar found
      refine ⟨rest, ?_⟩
      rw [code, if_neg (by omega), if_pos (by omega), ofNat_eq a (by omega), ofNat_eq b (by omega)]
      exact ⟨rfl, rfl⟩
    · cases found
  split at found
  · split at found
    · rename_i bounds b c' rest
      obtain ⟨x, second, found⟩ := Option.bind_eq_some_iff.mp found
      obtain ⟨y, third, found⟩ := Option.bind_eq_some_iff.mp found
      obtain ⟨small, second⟩ := of_tail second
      obtain ⟨small', third⟩ := of_tail third
      obtain ⟨code, long, rfl⟩ := of_scalar found
      refine ⟨rest, ?_⟩
      rw [code, if_neg (by omega), if_neg (by omega), if_pos (by omega), ofNat_eq a (by omega),
        ofNat_eq b (by omega), ofNat_eq c' (by omega)]
      exact ⟨rfl, rfl⟩
    · cases found
  split at found
  · split at found
    · rename_i bounds b c' d rest
      obtain ⟨x, second, found⟩ := Option.bind_eq_some_iff.mp found
      obtain ⟨y, third, found⟩ := Option.bind_eq_some_iff.mp found
      obtain ⟨z, fourth, found⟩ := Option.bind_eq_some_iff.mp found
      obtain ⟨small, second⟩ := of_tail second
      obtain ⟨small', third⟩ := of_tail third
      obtain ⟨small'', fourth⟩ := of_tail fourth
      obtain ⟨code, long, rfl⟩ := of_scalar found
      refine ⟨rest, ?_⟩
      rw [code, if_neg (by omega), if_neg (by omega), if_neg (by omega), ofNat_eq a (by omega),
        ofNat_eq b (by omega), ofNat_eq c' (by omega), ofNat_eq d (by omega)]
      exact ⟨rfl, rfl⟩
    · cases found
  · cases found

/-- The whole byte string, in order. -/
def segments : List UInt8 → List Segment
  | [] => []
  | byte :: rest =>
    match leadingChar (byte :: rest) with
    | some (c, length) => .char c :: segments (rest.drop (length - 1))
    | none => .stray byte :: segments rest
termination_by bytes => bytes.length
decreasing_by all_goals simp only [List.length_cons, List.length_drop]; omega

/-- The text that the bytes encode, if every byte belongs to a character. -/
def decode? (bytes : List UInt8) : Option String :=
  String.ofList <$> (segments bytes).mapM fun
    | .char c => some c
    | .stray _ => none

end SurfaceBridge.Text
