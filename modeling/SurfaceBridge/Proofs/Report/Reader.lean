import SurfaceBridge.Report.Json

/-! A reader of JSON texts of the values that reports consist of. It takes one character at a time and keeps the
containers that are still open. What is written for a value is read back as that value, and it is one line. -/
namespace SurfaceBridge.Report.Json

def hexValue? (c : Char) : Option Nat :=
  if '0' ≤ c ∧ c ≤ '9' then some (c.toNat - '0'.toNat)
  else if 'a' ≤ c ∧ c ≤ 'f' then some (c.toNat - 'a'.toNat + 10)
  else if 'A' ≤ c ∧ c ≤ 'F' then some (c.toNat - 'A'.toNat + 10)
  else none

/-- What a letter behind a backslash stands for. -/
def unescaped? : Char → Option Char
  | '"' => some '"'
  | '\\' => some '\\'
  | '/' => some '/'
  | 'b' => some '\x08'
  | 'f' => some '\x0c'
  | 'n' => some '\n'
  | 'r' => some '\r'
  | 't' => some '\t'
  | _ => none

/-- What the next character of a string belongs to. -/
inductive Position where
  | plain
  | escape
  /-- A code of four digits, of which some are read. -/
  | code (digits value : Nat)

/-- A string that is being read. -/
structure Spelling where
  chars : List Char := []
  /-- The first code of a pair, which the second one must follow. -/
  high : Option Nat := none
  position : Position := .plain

namespace Spelling

def add (spelling : Spelling) (code : Nat) : Option Spelling :=
  match spelling.high with
  | none =>
    if 0xd800 ≤ code ∧ code < 0xdc00 then some { spelling with high := some code, position := .plain }
    else if code.isValidChar then some { chars := spelling.chars ++ [.ofNat code] }
    else none
  | some high =>
    if 0xdc00 ≤ code ∧ code < 0xe000 then
      some { chars := spelling.chars ++ [.ofNat (0x10000 + (high - 0xd800) * 0x400 + (code - 0xdc00))] }
    else none

/-- Takes a character in that does not end the string. -/
def step (spelling : Spelling) (c : Char) : Option Spelling :=
  match spelling.position with
  | .plain =>
    if c = '\\' then some { spelling with position := .escape }
    else if c = '"' ∨ c.toNat < 0x20 ∨ spelling.high.isSome then none
    else some { chars := spelling.chars ++ [c] }
  | .escape =>
    if c = 'u' then some { spelling with position := .code 0 0 }
    else if spelling.high.isSome then none
    else (unescaped? c).map fun c => { chars := spelling.chars ++ [c] }
  | .code digits value =>
    match hexValue? c with
    | none => none
    | some digit =>
      if digits < 3 then some { spelling with position := .code (digits + 1) (16 * value + digit) }
      else spelling.add (16 * value + digit)

/-- Whether a character ends the string. -/
def isEndedBy (spelling : Spelling) (c : Char) : Bool :=
  match spelling.position, spelling.high, c with
  | .plain, none, '"' => true
  | _, _, _ => false

end Spelling

/-- A container that is still open. -/
inductive Frame where
  | list (items : List Json)
  | object (fields : List (String × Json))
  /-- An object with the key whose value is being read. -/
  | field (fields : List (String × Json)) (key : String)

/-- What may come next. -/
inductive Stage where
  | value
  /-- A value, or the end of the list that was just opened. -/
  | firstItem
  | key
  | firstKey
  | colon
  /-- A comma, or the end of the container. -/
  | more
  | string (isKey : Bool) (spelling : Spelling)
  | finished (value : Json)

structure Reader where
  stack : List Frame := []
  stage : Stage := .value

namespace Reader

/-- Puts a value that is read to its end where it belongs. -/
def put : List Frame → Json → Option Reader
  | [], value => some { stage := .finished value }
  | .list items :: rest, value => some { stack := .list (items ++ [value]) :: rest, stage := .more }
  | .field fields key :: rest, value => some { stack := .object (fields ++ [(key, value)]) :: rest, stage := .more }
  | .object _ :: _, _ => none

/-- Puts a string that is read to its end where it belongs. -/
def putText (isKey : Bool) (stack : List Frame) (text : String) : Option Reader :=
  match isKey, stack with
  | false, stack => put stack (.text text)
  | true, .object fields :: rest => some { stack := .field fields text :: rest, stage := .colon }
  | true, _ => none

def isBlank (c : Char) : Bool := c = ' ' ∨ c = '\t' ∨ c = '\n' ∨ c = '\r'

/-- Reads a character outside strings. -/
def punctuate (stack : List Frame) : Stage → Char → Option Reader
  | .value, '"' | .firstItem, '"' => some { stack, stage := .string false {} }
  | .value, '[' | .firstItem, '[' => some { stack := .list [] :: stack, stage := .firstItem }
  | .value, '\x7b' | .firstItem, '\x7b' => some { stack := .object [] :: stack, stage := .firstKey }
  | .key, '"' | .firstKey, '"' => some { stack, stage := .string true {} }
  | .colon, ':' => some { stack, stage := .value }
  | stage, c =>
    match stage, c, stack with
    | .firstItem, ']', .list items :: rest | .more, ']', .list items :: rest => put rest (.list items)
    | .firstKey, '\x7d', .object fields :: rest | .more, '\x7d', .object fields :: rest => put rest (.object fields)
    | .more, ',', .list items :: rest => some { stack := .list items :: rest, stage := .value }
    | .more, ',', .object fields :: rest => some { stack := .object fields :: rest, stage := .key }
    | _, _, _ => none

def step (reader : Reader) (c : Char) : Option Reader :=
  match reader.stage with
  | .string isKey spelling =>
    match spelling.step c with
    | some spelling => some { reader with stage := .string isKey spelling }
    | none =>
      if spelling.isEndedBy c then putText isKey reader.stack (String.ofList spelling.chars) else none
  | stage => if isBlank c then some reader else punctuate reader.stack stage c

end Reader

/-- The value that a whole text stands for. -/
def read? (text : String) : Option Json := do
  match (← text.toList.foldlM Reader.step {}).stage with
  | .finished value => some value
  | _ => none

section Folds
variable {α β : Type} {f : β → α → Option β} {state next : β} {a : α} {front back : List α}

theorem foldlM_cons_of_some (taken : f state a = some next) : (a :: back).foldlM f state = back.foldlM f next := by
  rw [List.foldlM_cons, taken]
  rfl

theorem foldlM_append_of_some (taken : front.foldlM f state = some next) :
    (front ++ back).foldlM f state = back.foldlM f next := by
  rw [List.foldlM_append, taken]
  rfl

theorem foldlM_singleton : [a].foldlM f state = f state a := by
  rw [List.foldlM_cons]
  exact bind_pure _

end Folds

theorem hexValue?_digitChar : ∀ digit < 16, hexValue? digit.digitChar = some digit := by decide

namespace Spelling
variable {chars : List Char}

theorem add_of_lt {code digits value : Nat} (low : code < 0x20) :
    add { chars, position := .code digits value } code = some { chars := chars ++ [.ofNat code] } := by
  have valid : code.isValidChar := .inl (by omega)
  simp only [add]
  rw [if_neg (by omega), if_pos valid]

theorem step_code {digits value : Nat} {high : Option Nat} {digit : Nat} (hex : digit < 16) (more : digits < 3) :
    step { chars, high, position := .code digits value } digit.digitChar =
      some { chars, high, position := .code (digits + 1) (16 * value + digit) } := by
  simp only [step, hexValue?_digitChar digit hex, if_pos more]

theorem step_last {value : Nat} {high : Option Nat} {digit : Nat} (hex : digit < 16) :
    step { chars, high, position := .code 3 value } digit.digitChar =
      add { chars, high, position := .code 3 value } (16 * value + digit) := by
  simp only [step, hexValue?_digitChar digit hex]
  rfl

/-- A control that is written by its code. -/
theorem run_code {c : Char} (low : c.toNat < 0x20) :
    ['\\', 'u', '0', '0', (c.toNat / 16).digitChar, (c.toNat % 16).digitChar].foldlM step { chars } =
      some { chars := chars ++ [c] } := by
  have begins : ['\\', 'u', '0', '0'].foldlM step { chars } = some { chars, position := .code 2 0 } := rfl
  have third : step { chars, position := .code 2 0 } (c.toNat / 16).digitChar =
      some { chars, position := .code 3 (16 * 0 + c.toNat / 16) } := step_code (by omega) (by decide)
  have whole : 16 * (16 * 0 + c.toNat / 16) + c.toNat % 16 = c.toNat := by omega
  calc ['\\', 'u', '0', '0', (c.toNat / 16).digitChar, (c.toNat % 16).digitChar].foldlM step { chars }
    _ = [(c.toNat / 16).digitChar, (c.toNat % 16).digitChar].foldlM step { chars, position := .code 2 0 } :=
      foldlM_append_of_some begins
    _ = [(c.toNat % 16).digitChar].foldlM step { chars, position := .code 3 (16 * 0 + c.toNat / 16) } :=
      foldlM_cons_of_some third
    _ = add { chars, position := .code 3 (16 * 0 + c.toNat / 16) } c.toNat := by
      rw [foldlM_singleton, step_last (by omega), whole]
    _ = some { chars := chars ++ [c] } := by rw [add_of_lt low, Char.ofNat_toNat]

theorem run_escaped (c : Char) : (escaped c).foldlM step { chars } = some { chars := chars ++ [c] } := by
  unfold escaped
  split
  case h_8 quote backslash _ _ _ _ _ =>
    split
    · rename_i low
      exact run_code low
    · rename_i high
      have taken : step { chars } c = some { chars := chars ++ [c] } := by
        simp only [step]
        rw [if_neg backslash, if_neg (not_or.mpr ⟨quote, not_or.mpr ⟨high, by decide⟩⟩)]
      rw [List.foldlM_cons, taken]
      rfl
  all_goals rfl

theorem run_flatMap_escaped (text : List Char) :
    (text.flatMap escaped).foldlM step { chars } = some { chars := chars ++ text } := by
  induction text generalizing chars with
  | nil => rw [List.append_nil]; rfl
  | cons c text ih =>
    rw [List.flatMap_cons, foldlM_append_of_some (run_escaped c), ih, List.append_assoc]
    rfl

end Spelling

namespace Reader
variable {stack : List Frame} {isKey : Bool} {stage : Stage}

/-- A string is read on while it takes in what comes. -/
theorem run_string {cs : List Char} {spelling next : Spelling}
    (taken : cs.foldlM Spelling.step spelling = some next) :
    cs.foldlM step { stack, stage := .string isKey spelling } = some { stack, stage := .string isKey next } := by
  induction cs generalizing spelling with
  | nil =>
    cases taken
    rfl
  | cons c cs ih =>
    rw [List.foldlM_cons] at taken
    obtain ⟨after, first, rest⟩ := Option.bind_eq_some_iff.mp taken
    have stepped : step { stack, stage := .string isKey spelling } c =
        some { stack, stage := .string isKey after } := by
      simp only [step, first]
    rw [foldlM_cons_of_some stepped, ih rest]

theorem run_quoted {text : String} (isKey : Bool)
    (opens : step { stack, stage } '"' = some { stack, stage := .string isKey {} }) :
    (quoted text).foldlM step { stack, stage } = putText isKey stack text := by
  have body : (text.toList.flatMap escaped).foldlM step { stack, stage := .string isKey {} } =
      some { stack, stage := .string isKey { chars := text.toList } } :=
    run_string (Spelling.run_flatMap_escaped text.toList)
  rw [quoted, List.cons_append, foldlM_cons_of_some opens, foldlM_append_of_some body, foldlM_singleton]
  show putText isKey stack (String.ofList text.toList) = _
  rw [String.ofList_toList]

mutual

/-- A value is read as itself where a value may stand. -/
theorem run_chars {stack : List Frame} {stage : Stage} (value : Json) (awaits : stage = .value ∨ stage = .firstItem) :
    (chars value).foldlM step { stack, stage } = put stack value := by
  match value with
  | .text letters =>
    have opens : step { stack, stage } '"' = some { stack, stage := .string false {} } := by
      rcases awaits with rfl | rfl <;> rfl
    exact run_quoted false opens
  | .list items =>
    have opens : step { stack, stage } '[' = some { stack := .list [] :: stack, stage := .firstItem } := by
      rcases awaits with rfl | rfl <;> rfl
    match items with
    | [] =>
      rw [chars, foldlM_cons_of_some opens, foldlM_singleton]
      rfl
    | first :: rest =>
      have item : (chars first).foldlM step { stack := .list [] :: stack, stage := .firstItem } =
        some { stack := .list [first] :: stack, stage := .more } := run_chars first (.inr rfl)
      have others : (charsOfItems rest).foldlM step { stack := .list [first] :: stack, stage := .more } =
        some { stack := .list (first :: rest) :: stack, stage := .more } := run_charsOfItems rest [first]
      rw [chars, List.append_assoc, List.cons_append, foldlM_cons_of_some opens, foldlM_append_of_some item,
        foldlM_append_of_some others, foldlM_singleton]
      rfl
  | .object fields =>
    have opens : step { stack, stage } '\x7b' = some { stack := .object [] :: stack, stage := .firstKey } := by
      rcases awaits with rfl | rfl <;> rfl
    match fields with
    | [] =>
      rw [chars, foldlM_cons_of_some opens, foldlM_singleton]
      rfl
    | (key, first) :: rest =>
      have named : (quoted key).foldlM step { stack := .object [] :: stack, stage := .firstKey } =
        some { stack := .field [] key :: stack, stage := .colon } := run_quoted true rfl
      have colon : step { stack := .field [] key :: stack, stage := .colon } ':' =
        some { stack := .field [] key :: stack, stage := .value } := rfl
      have item : (chars first).foldlM step { stack := .field [] key :: stack, stage := .value } =
        some { stack := .object [(key, first)] :: stack, stage := .more } := run_chars first (.inl rfl)
      have others : (charsOfFields rest).foldlM step { stack := .object [(key, first)] :: stack, stage := .more } =
        some { stack := .object ((key, first) :: rest) :: stack, stage := .more } :=
          run_charsOfFields rest [(key, first)]
      rw [chars]
      simp only [List.cons_append, List.append_assoc]
      rw [foldlM_cons_of_some opens, foldlM_append_of_some named, foldlM_cons_of_some colon,
        foldlM_append_of_some item, foldlM_append_of_some others, foldlM_singleton]
      rfl

theorem run_charsOfItems {stack : List Frame} (items before : List Json) :
    (charsOfItems items).foldlM step { stack := .list before :: stack, stage := .more } =
      some { stack := .list (before ++ items) :: stack, stage := .more } := by
  match items with
  | [] =>
    rw [List.append_nil]
    rfl
  | item :: rest =>
    have comma : step { stack := .list before :: stack, stage := .more } ',' =
      some { stack := .list before :: stack, stage := .value } := rfl
    have next : (chars item).foldlM step { stack := .list before :: stack, stage := .value } =
      some { stack := .list (before ++ [item]) :: stack, stage := .more } := run_chars item (.inl rfl)
    rw [charsOfItems, List.cons_append, foldlM_cons_of_some comma, foldlM_append_of_some next,
      run_charsOfItems rest (before ++ [item]), List.append_assoc]
    rfl

theorem run_charsOfFields {stack : List Frame} (fields before : List (String × Json)) :
    (charsOfFields fields).foldlM step { stack := .object before :: stack, stage := .more } =
      some { stack := .object (before ++ fields) :: stack, stage := .more } := by
  match fields with
  | [] =>
    rw [List.append_nil]
    rfl
  | (key, value) :: rest =>
    have comma : step { stack := .object before :: stack, stage := .more } ',' =
      some { stack := .object before :: stack, stage := .key } := rfl
    have named : (quoted key).foldlM step { stack := .object before :: stack, stage := .key } =
      some { stack := .field before key :: stack, stage := .colon } := run_quoted true rfl
    have colon : step { stack := .field before key :: stack, stage := .colon } ':' =
      some { stack := .field before key :: stack, stage := .value } := rfl
    have next : (chars value).foldlM step { stack := .field before key :: stack, stage := .value } =
      some { stack := .object (before ++ [(key, value)]) :: stack, stage := .more } := run_chars value (.inl rfl)
    rw [charsOfFields]
    simp only [List.cons_append, List.append_assoc]
    rw [foldlM_cons_of_some comma, foldlM_append_of_some named, foldlM_cons_of_some colon,
      foldlM_append_of_some next, run_charsOfFields rest (before ++ [(key, value)]), List.append_assoc]
    rfl

end

end Reader

/-- What is written for a value is read back. -/
theorem read?_chars (value : Json) : read? (String.ofList value.chars) = some value := by
  have run : value.chars.foldlM Reader.step {} = some { stage := .finished value } :=
    Reader.run_chars value (.inl rfl)
  rw [read?, String.toList_ofList, run]
  rfl

example : read? "[ \"\\ud83d\\ude00\\/\", []\t]\n" = some (.list [.text "😀/", .list []]) := by rfl

/-- No character ends a line or controls anything else. -/
def Shown (text : List Char) : Prop := ∀ c ∈ text, 0x20 ≤ c.toNat

@[simp] theorem shown_nil : Shown [] := by simp [Shown]

@[simp] theorem shown_cons_iff {c : Char} {text : List Char} : Shown (c :: text) ↔ 0x20 ≤ c.toNat ∧ Shown text := by
  simp [Shown]

@[simp] theorem shown_append_iff {front back : List Char} : Shown (front ++ back) ↔ Shown front ∧ Shown back := by
  simp [Shown, or_imp, forall_and]

theorem shown_digitChar : ∀ digit < 16, 0x20 ≤ digit.digitChar.toNat := by decide

theorem shown_escaped (c : Char) : Shown (escaped c) := by
  unfold escaped
  split
  case h_8 =>
    split
    · rename_i low
      have third := shown_digitChar (c.toNat / 16) (by omega)
      have fourth := shown_digitChar (c.toNat % 16) (by omega)
      show Shown ['\\', 'u', '0', '0', (c.toNat / 16).digitChar, (c.toNat % 16).digitChar]
      simp [third, fourth]
    · rename_i high
      simpa using high
  all_goals simp

theorem shown_quoted (text : String) : Shown (quoted text) := by
  have body : Shown (text.toList.flatMap escaped) := by
    intro c among
    obtain ⟨from', _, among⟩ := List.mem_flatMap.mp among
    exact shown_escaped from' c among
  simp [quoted, body]

mutual

theorem shown_chars (value : Json) : Shown (chars value) := by
  match value with
  | .text letters => exact shown_quoted letters
  | .list [] => simp [chars]
  | .list (first :: rest) => simp [chars, shown_chars first, shown_charsOfItems rest]
  | .object [] => simp [chars]
  | .object ((key, first) :: rest) => simp [chars, shown_quoted, shown_chars first, shown_charsOfFields rest]

theorem shown_charsOfItems (items : List Json) : Shown (charsOfItems items) := by
  match items with
  | [] => simp [charsOfItems]
  | item :: rest => simp [charsOfItems, shown_chars item, shown_charsOfItems rest]

theorem shown_charsOfFields (fields : List (String × Json)) : Shown (charsOfFields fields) := by
  match fields with
  | [] => simp [charsOfFields]
  | (key, value) :: rest => simp [charsOfFields, shown_quoted, shown_chars value, shown_charsOfFields rest]

end

end SurfaceBridge.Report.Json
