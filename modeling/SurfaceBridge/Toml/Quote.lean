/-! The four kinds of TOML string: with or without escapes, on one line or on several. Each function reads the
text after the opening quotes and gives the content and what follows the closing ones. -/
namespace SurfaceBridge.Toml

/-- Characters that may stand for themselves: no control but the tabulator. -/
def isShown (c : Char) : Bool := c = '\t' || (0x20 ≤ c.toNat && c.toNat ≠ 0x7f)

def isBlank (c : Char) : Bool := c = ' ' || c = '\t'

private def hexValue (c : Char) : Option Nat :=
  if '0' ≤ c ∧ c ≤ '9' then some (c.toNat - '0'.toNat)
  else if 'a' ≤ c ∧ c ≤ 'f' then some (c.toNat - 'a'.toNat + 10)
  else if 'A' ≤ c ∧ c ≤ 'F' then some (c.toNat - 'A'.toNat + 10)
  else none

/-- The character of a given number, written in exactly as many digits. -/
private def numbered (digits : List Char) (count : Nat) : Option Char := do
  let digits := digits.take count
  if digits.length = count then
    let number ← digits.foldlM (fun n c => (hexValue c).map (16 * n + ·)) 0
    if number.isValidChar then some (.ofNat number) else none
  else none

/-- The character that an escape stands for, and how long the escape is after its backslash. -/
private def escape : List Char → Option (Char × Nat)
  | 'b' :: _ => some ('\x08', 1)
  | 't' :: _ => some ('\t', 1)
  | 'n' :: _ => some ('\n', 1)
  | 'f' :: _ => some ('\x0c', 1)
  | 'r' :: _ => some ('\r', 1)
  | '"' :: _ => some ('"', 1)
  | '\\' :: _ => some ('\\', 1)
  | 'u' :: rest => (numbered rest 4).map (·, 5)
  | 'U' :: rest => (numbered rest 8).map (·, 9)
  | _ => none

private def put (front : List Char) : Option (List Char × List Char) → Option (List Char × List Char) :=
  Option.map fun (content, rest) => (front ++ content, rest)

def basic : List Char → Option (List Char × List Char)
  | [] => none
  | '"' :: rest => some ([], rest)
  | '\\' :: rest =>
    match escape rest with
    | some (c, length) => put [c] (basic (rest.drop length))
    | none => none
  | c :: rest => if isShown c then put [c] (basic rest) else none
termination_by text => text.length
decreasing_by all_goals simp only [List.length_cons, List.length_drop]; omega

def literal (text : List Char) : Option (List Char × List Char) :=
  match text.span fun c => isShown c && c ≠ '\'' with
  | (content, '\'' :: rest) => some (content, rest)
  | _ => none

/-- What follows a line break after a backslash, without blanks and further line breaks. -/
private def afterFold : List Char → List Char
  | '\r' :: '\n' :: rest => afterFold rest
  | '\n' :: rest => afterFold rest
  | ' ' :: rest => afterFold rest
  | '\t' :: rest => afterFold rest
  | rest => rest

private theorem length_afterFold (text : List Char) : (afterFold text).length ≤ text.length := by
  fun_induction afterFold text <;> grind

/-- Quotes inside a string of several lines: fewer than three are content; of more, the last three close the
string and at most two before them are content. -/
private def quotes (quote : Char) (text : List Char) : Nat × Bool :=
  let count := (text.takeWhile (· = quote)).length
  if count < 3 then (count, false) else (min (count - 3) 2, true)

private def startsLine : List Char → Bool
  | '\n' :: _ => true
  | '\r' :: '\n' :: _ => true
  | _ => false

def foldedBasic : List Char → Option (List Char × List Char)
  | [] => none
  | '"' :: rest =>
    match quotes '"' ('"' :: rest) with
    | (count, true) => some (List.replicate count '"', rest.drop (count + 2))
    | (count, false) => put (List.replicate count '"') (foldedBasic (rest.drop (count - 1)))
  | '\\' :: rest =>
    if startsLine (rest.dropWhile isBlank) then foldedBasic (afterFold rest)
    else
      match escape rest with
      | some (c, length) => put [c] (foldedBasic (rest.drop length))
      | none => none
  | '\r' :: '\n' :: rest => put ['\n'] (foldedBasic rest)
  | '\n' :: rest => put ['\n'] (foldedBasic rest)
  | c :: rest => if isShown c then put [c] (foldedBasic rest) else none
termination_by text => text.length
decreasing_by
  all_goals simp only [List.length_cons, List.length_drop]
  all_goals first | omega | (have shorter := length_afterFold rest; omega)

def foldedLiteral : List Char → Option (List Char × List Char)
  | [] => none
  | '\'' :: rest =>
    match quotes '\'' ('\'' :: rest) with
    | (count, true) => some (List.replicate count '\'', rest.drop (count + 2))
    | (count, false) => put (List.replicate count '\'') (foldedLiteral (rest.drop (count - 1)))
  | '\r' :: '\n' :: rest => put ['\n'] (foldedLiteral rest)
  | '\n' :: rest => put ['\n'] (foldedLiteral rest)
  | c :: rest => if isShown c then put [c] (foldedLiteral rest) else none
termination_by text => text.length
decreasing_by all_goals simp only [List.length_cons, List.length_drop]; omega

/-- A line break right after opening quotes is no content. -/
private def afterBreak : List Char → List Char
  | '\r' :: '\n' :: rest => rest
  | '\n' :: rest => rest
  | rest => rest

/-- A string with its quotes, on one line. -/
def quotedKey : List Char → Option (List Char × List Char)
  | '"' :: rest => basic rest
  | '\'' :: rest => literal rest
  | _ => none

/-- A string with its quotes. -/
def quoted : List Char → Option (List Char × List Char)
  | '"' :: '"' :: '"' :: rest => foldedBasic (afterBreak rest)
  | '\'' :: '\'' :: '\'' :: rest => foldedLiteral (afterBreak rest)
  | text => quotedKey text

end SurfaceBridge.Toml
