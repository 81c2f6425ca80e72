import SurfaceBridge.Report.Check

/-! Reports as JSON on one line. -/
namespace SurfaceBridge.Report

/-- The values that reports consist of. -/
inductive Json where
  | text (value : String)
  | list (items : List Json)
  | object (fields : List (String × Json))

namespace Json

private def hexDigit (n : Nat) : Char := n.digitChar

/-- A character inside a string. The quote, the backslash and the controls are escaped. -/
def escaped (c : Char) : List Char :=
  match c with
  | '"' => ['\\', '"']
  | '\\' => ['\\', '\\']
  | '\x08' => ['\\', 'b']
  | '\x0c' => ['\\', 'f']
  | '\n' => ['\\', 'n']
  | '\r' => ['\\', 'r']
  | '\t' => ['\\', 't']
  | c =>
    if c.toNat < 0x20 then ['\\', 'u', '0', '0', hexDigit (c.toNat / 16), hexDigit (c.toNat % 16)] else [c]

def quoted (text : String) : List Char := '"' :: text.toList.flatMap escaped ++ ['"']

mutual

def chars : Json → List Char
  | text value => quoted value
  | list [] => ['[', ']']
  | list (first :: rest) => '[' :: chars first ++ charsOfItems rest ++ [']']
  | object [] => ['\x7b', '\x7d']
  | object ((key, first) :: rest) => '\x7b' :: quoted key ++ ':' :: chars first ++ charsOfFields rest ++ ['\x7d']

/-- The items after the first. -/
def charsOfItems : List Json → List Char
  | [] => []
  | item :: rest => ',' :: chars item ++ charsOfItems rest

/-- The fields after the first. -/
def charsOfFields : List (String × Json) → List Char
  | [] => []
  | (key, value) :: rest => ',' :: quoted key ++ ':' :: chars value ++ charsOfFields rest

end

end Json

/-- A check's fields; details are left out if there are none. -/
def Check.json (check : Check) : Json :=
  let details :=
    if check.details.isEmpty then [] else [("details", Json.list (check.details.map .text))]
  .object ([("name", .text check.name), ("status", .text check.status.name),
    ("message", .text check.message)] ++ details)

/-- The report in one line. -/
def jsonLine (checks : List Check) : String :=
  String.ofList (Json.list (checks.map Check.json)).chars ++ "\n"

end SurfaceBridge.Report
