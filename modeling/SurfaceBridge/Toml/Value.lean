import SurfaceBridge.Decimal.Binary64

/-! TOML documents as values. Each value knows where it stands in the text, and tables keep their entries in
the order in which they were completed. -/
namespace SurfaceBridge.Toml

/-- A stretch of the text, by the positions of its first character and of the one after its last. -/
structure Span where
  start : Nat
  stop : Nat
  deriving DecidableEq

/-- How a table came to be, which decides what may still be added to it. -/
inductive TableKind where
  /-- Opened by a header; also the document itself. -/
  | explicit
  /-- Named only on the way to another header's table. -/
  | implicit
  /-- Named only on the way to a dotted key. -/
  | dotted
  /-- Written between braces. -/
  | inline
  deriving DecidableEq

namespace TableKind

/-- Whether the table may still be extended by other statements. -/
def isImplicit : TableKind → Bool
  | implicit | dotted => true
  | explicit | inline => false

def isDotted : TableKind → Bool
  | dotted => true
  | _ => false

end TableKind

mutual

inductive Value where
  | string (text : String)
  | integer (value : Int)
  | float (value : Decimal.Binary64)
  | boolean (value : Bool)
  /-- A date, a time, or both. -/
  | moment
  | array (items : List Node)
  /-- An array of tables that headers opened. -/
  | tables (items : List Node)
  | table (kind : TableKind) (entries : List Entry)

/-- A value in its place. Tables that no header and no braces opened have no place of their own. -/
structure Node where
  value : Value
  span : Option Span

/-- A key with its value. The key's place is that of its first mention. -/
structure Entry where
  key : String
  keySpan : Span
  node : Node

end

/-- A key as it is written once. -/
structure Key where
  name : String
  span : Span
  deriving DecidableEq

namespace Entry

/-- Where a complaint about the value points: at the value, or at its key. -/
def place (entry : Entry) : Span := entry.node.span.getD entry.keySpan

end Entry

/-- The entry of a key. -/
def find? (entries : List Entry) (name : String) : Option Entry :=
  entries.find? (·.key = name)

end SurfaceBridge.Toml
