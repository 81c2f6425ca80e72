import SurfaceBridge.Toml.Value

/-! Values written as one bare word: numbers, truth values, dates and times. -/
namespace SurfaceBridge.Toml

/-- Characters that bare words consist of. -/
def isWordChar (c : Char) : Bool := c.isAlphanum || c = '+' || c = '-' || c = '_' || c = '.' || c = ':'

/-- Digits, with single underscores between them. -/
private def digits (isDigit : Char → Bool) (word : List Char) : Option (List Char) :=
  let groups := word.splitOnP (· = '_')
  if groups.all fun group => !group.isEmpty && group.all isDigit then some groups.flatten else none

private def isHexDigit (c : Char) : Bool := c.isDigit || ('a' ≤ c && c ≤ 'f') || ('A' ≤ c && c ≤ 'F')

private def digitValue (c : Char) : Nat :=
  if c.isDigit then c.toNat - '0'.toNat else c.toLower.toNat - 'a'.toNat + 10

private def number (base : Nat) (digits : List Char) : Nat :=
  digits.foldl (fun n c => base * n + digitValue c) 0

private def signed : List Char → Bool × List Char
  | '-' :: rest => (true, rest)
  | '+' :: rest => (false, rest)
  | rest => (false, rest)

/-- Decimal digits without a leading zero. -/
private def decimal (word : List Char) : Option (List Char) := do
  let found ← digits Char.isDigit word
  if word.head? = some '0' ∧ word.length ≠ 1 then none else some found

/-- An integer that fits 64 bits. Only decimal ones may have a sign. -/
def integer? (word : List Char) : Option Int := do
  let value : Int ← match word with
    | '0' :: 'x' :: rest => (digits isHexDigit rest).map fun ds => (number 16 ds : Int)
    | '0' :: 'o' :: rest => (digits (fun c => '0' ≤ c && c ≤ '7') rest).map fun ds => (number 8 ds : Int)
    | '0' :: 'b' :: rest => (digits (fun c => c = '0' || c = '1') rest).map fun ds => (number 2 ds : Int)
    | word => do
      let (negative, rest) := signed word
      let magnitude : Int := number 10 (← decimal rest)
      pure (if negative then -magnitude else magnitude)
  if -9223372036854775808 ≤ value ∧ value ≤ 9223372036854775807 then some value else none

/-- A number with a fraction or an exponent. One that is too large for the format is refused if it is
positive and infinite if it is negative. -/
def float? (word : List Char) : Option Decimal.Binary64 := do
  let (negative, rest) := signed word
  if rest = ['i', 'n', 'f'] then some (.infinite negative)
  else if rest = ['n', 'a', 'n'] then some .notANumber
  else
    let (front, exponent) := rest.span fun c => c ≠ 'e' && c ≠ 'E'
    let (whole, fraction) := front.span (· ≠ '.')
    if exponent.isEmpty && fraction.isEmpty then none
    else
      let whole ← decimal whole
      let fraction ← if fraction.isEmpty then some [] else digits Char.isDigit (fraction.drop 1)
      let power : Int ← if exponent.isEmpty then some 0 else do
        let (below, ds) := signed (exponent.drop 1)
        let magnitude : Int := number 10 (← digits Char.isDigit ds)
        pure (if below then -magnitude else magnitude)
      match Decimal.Binary64.ofDecimal negative (number 10 (whole ++ fraction)) (power - fraction.length) with
      | .infinite false => none
      | value => some value

/-- A number of exactly so many digits between two bounds. -/
private def field (count least most : Nat) (word : List Char) : Option (Nat × List Char) :=
  let ds := word.take count
  let n := number 10 ds
  if ds.length = count ∧ ds.all Char.isDigit ∧ least ≤ n ∧ n ≤ most then some (n, word.drop count) else none

private def mark (c : Char) : List Char → Option (List Char)
  | d :: rest => if c = d then some rest else none
  | [] => none

private def daysIn (year month : Nat) : Nat :=
  if month = 2 then (if year % 4 = 0 ∧ (year % 100 ≠ 0 ∨ year % 400 = 0) then 29 else 28)
  else if month = 4 ∨ month = 6 ∨ month = 9 ∨ month = 11 then 30
  else 31

/-- What follows a date that the word starts with. -/
def afterDate (word : List Char) : Option (List Char) := do
  let (year, rest) ← field 4 0 9999 word
  let (month, rest) ← field 2 1 12 (← mark '-' rest)
  let (_, rest) ← field 2 1 (daysIn year month) (← mark '-' rest)
  some rest

private def afterTime (word : List Char) : Option (List Char) := do
  let (_, rest) ← field 2 0 23 word
  let (_, rest) ← field 2 0 59 (← mark ':' rest)
  let (_, rest) ← field 2 0 60 (← mark ':' rest)
  match rest with
  | '.' :: c :: rest => if c.isDigit then some (rest.dropWhile Char.isDigit) else none
  | rest => some rest

private def isOffset (word : List Char) : Bool :=
  match word with
  | [] => true
  | ['Z'] | ['z'] => true
  | sign :: rest =>
    (sign = '+' || sign = '-') && (do
      let (_, rest) ← field 2 0 23 rest
      let (_, rest) ← field 2 0 59 (← mark ':' rest)
      some rest.isEmpty) == some true

/-- Whether the word is a date, a time, or a date with a time and perhaps an offset. -/
def isMoment (word : List Char) : Bool :=
  match afterDate word with
  | some [] => true
  | some (c :: rest) => (c = 'T' || c = 't' || c = ' ') && ((afterTime rest).map isOffset).getD false
  | none => afterTime word == some []

/-- The value that a bare word stands for. -/
def Value.ofWord? (word : List Char) : Option Value :=
  if word = ['t', 'r', 'u', 'e'] then some (.boolean true)
  else if word = ['f', 'a', 'l', 's', 'e'] then some (.boolean false)
  else if isMoment word then some .moment
  else (integer? word).map .integer <|> (float? word).map .float

end SurfaceBridge.Toml
