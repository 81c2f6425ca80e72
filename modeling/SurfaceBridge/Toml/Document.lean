import SurfaceBridge.Toml.Quote
import SurfaceBridge.Toml.Scalar
import SurfaceBridge.Toml.Table

/-! Reading a TOML document: its statements in order, then the table that they make up. A text that is no
document is reported by the position at which reading stopped. -/
namespace SurfaceBridge.Toml

/-- The rest of a text and the position at which it starts. -/
structure Cursor where
  rest : List Char
  position : Nat := 0

/-- Steps through a text that fail with a position. -/
abbrev Reading := StateT Cursor (Except Nat)

namespace Reading

/-- Arrays and inline tables may be nested less deep than this, and dotted keys be shorter. -/
def nestingLimit : Nat := 80

variable {α : Type}

def fail : Reading α := do throw (← get).position

def peek : Reading (Option Char) := do return (← get).rest.head?

def skip (count : Nat) : Reading Unit :=
  modify fun cursor => { rest := cursor.rest.drop count, position := cursor.position + count }

/-- Reads with a function that gives a result and what follows it. -/
def advance (f : List Char → Option (α × List Char)) : Reading α := do
  let cursor ← get
  match f cursor.rest with
  | none => fail
  | some (result, rest) =>
    set { rest, position := cursor.position + (cursor.rest.length - rest.length) : Cursor }
    return result

def takeWhile (p : Char → Bool) : Reading (List Char) := advance fun text => some (text.span p)

def expect (c : Char) : Reading Unit := do
  if (← peek) = some c then skip 1 else fail

/-- A reading together with the place of what it read. -/
def placed (reading : Reading α) : Reading (α × Span) := do
  let start := (← get).position
  let result ← reading
  return (result, { start, stop := (← get).position })

def blanks : Reading Unit := do let _ ← takeWhile isBlank

def comment : Reading Unit := do
  if (← peek) = some '#' then
    let _ ← takeWhile isShown

private def afterLineBreak : List Char → Option (Unit × List Char)
  | '\n' :: rest => some ((), rest)
  | '\r' :: '\n' :: rest => some ((), rest)
  | _ => none

/-- The rest of a line that says nothing more. -/
def endOfLine : Reading Unit := do
  blanks
  comment
  if (← peek).isSome then advance afterLineBreak

private def afterFiller : List Char → List Char
  | ' ' :: rest | '\t' :: rest | '\n' :: rest => afterFiller rest
  | '\r' :: '\n' :: rest => afterFiller rest
  | '#' :: rest => afterFiller (rest.dropWhile isShown)
  | rest => rest
termination_by text => text.length
decreasing_by
  all_goals simp only [List.length_cons]
  all_goals first | omega | (have shorter := (List.dropWhile_suffix isShown (l := rest)).length_le; omega)

/-- Blanks, line breaks and comments, as between the items of an array. -/
def filler : Reading Unit := advance fun text => some ((), afterFiller text)

private def isKeyChar (c : Char) : Bool := c.isAlphanum || c = '_' || c = '-'

def key : Reading Key := do
  let (name, span) ← placed do
    if (← peek) = some '"' ∨ (← peek) = some '\'' then advance quotedKey
    else
      let name ← takeWhile isKeyChar
      if name.isEmpty then fail else return name
  return { name := String.ofList name, span }

/-- A key of so many parts at most, with points between them. -/
def dotted : Nat → Reading (List Key × Key)
  | 0 => fail
  | count + 1 => do
    blanks
    let first ← key
    blanks
    if (← peek) = some '.' then
      skip 1
      let (path, last) ← dotted count
      return (first :: path, last)
    else return ([], first)

/-- A bare word; a date may go on with a time after a blank. -/
def word : Reading (List Char) := do
  let found ← takeWhile isWordChar
  match afterDate found, (← get).rest with
  | some [], ' ' :: c :: _ =>
    if c.isDigit then
      skip 1
      return found ++ ' ' :: (← takeWhile isWordChar)
    else return found
  | _, _ => return found

/-- The items of an array after its opening bracket; the last one may be followed by a comma. -/
def items (item : Reading Node) : Nat → Reading (List Node)
  | 0 => fail
  | count + 1 => do
    filler
    if (← peek) = some ']' then
      skip 1
      return []
    let first ← item
    filler
    match ← peek with
    | some ',' =>
      skip 1
      return first :: (← items item count)
    | _ =>
      expect ']'
      return [first]

/-- A key, an equals sign and a value. -/
def pair (value : Reading Node) : Reading (List Key × Key × Node) := do
  let (path, key) ← dotted (nestingLimit - 1)
  expect '='
  blanks
  return (path, key, ← value)

/-- The pairs of an inline table after its opening brace, of which there is at least one. -/
def pairs (value : Reading Node) : Nat → Reading (List (List Key × Key × Node))
  | 0 => fail
  | count + 1 => do
    let first ← pair value
    blanks
    match ← peek with
    | some ',' =>
      skip 1
      return first :: (← pairs value count)
    | _ =>
      expect '\x7d'
      return [first]

/-- An array or an inline table of values that are read by the argument. -/
def compound (value : Reading Node) : Reading Value := do
  let count := (← get).rest.length
  match ← peek with
  | some '[' =>
    skip 1
    return .array (← items value count)
  | _ =>
    expect '\x7b'
    blanks
    if (← peek) = some '\x7d' then
      skip 1
      return .table .inline []
    let found ← pairs value count
    let entries ← found.foldlM (fun entries (path, key, node) => place .inline entries path key node false) []
    return .table .inline entries

/-- A value in its place, given how to read one that holds others. -/
def nodeOf (compound : Reading Value) : Reading Node := do
  let (value, span) ← placed do
    match ← peek with
    | some '[' | some '\x7b' => compound
    | some '"' | some '\'' => return .string (String.ofList (← advance quoted))
    | _ =>
      match Value.ofWord? (← word) with
      | some value => return value
      | none => fail
  return { value, span := some span }

/-- A value that holds others to a given depth at most. -/
def node : Nat → Reading Node
  | 0 => nodeOf fail
  | depth + 1 => nodeOf (compound (node depth))

/-- A table's header. -/
def header : Reading Header := do
  let (((path, key), ofArray), span) ← placed do
    expect '['
    let ofArray := (← peek) == some '['
    if ofArray then skip 1
    let found ← dotted (nestingLimit - 1)
    expect ']'
    if ofArray then expect ']'
    return (found, ofArray)
  return { path, key, ofArray, span }

/-- The statements of at most so many lines. -/
def statements : Nat → Reading (List Statement)
  | 0 => fail
  | count + 1 => do
    blanks
    match ← peek with
    | none => return []
    | some '#' | some '\n' | some '\r' =>
      endOfLine
      statements count
    | some '[' =>
      let header ← header
      endOfLine
      return .header header :: (← statements count)
    | some _ =>
      let (path, key, node) ← pair (node (nestingLimit - 1))
      endOfLine
      return .pair path key node :: (← statements count)

end Reading

/-- The statements of a document, which a byte order mark may precede. -/
def statements? (text : String) : Except Nat (List Statement) :=
  let text := text.toList
  let start : Cursor := match text with
    | '\ufeff' :: rest => { rest, position := 1 }
    | rest => { rest }
  (·.1) <$> (Reading.statements (text.length + 1)).run start

/-- The document's table. -/
def document? (text : String) : Except Nat (List Entry) :=
  statements? text >>= assemble

end SurfaceBridge.Toml
