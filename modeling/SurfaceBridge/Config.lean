import SurfaceBridge.Text.Quoted
import SurfaceBridge.Toml.Value

/-! The configuration and how it is read from a document's table. Each of its two fields stands in a section
of its own, and what a document does not give keeps its default. -/
namespace SurfaceBridge

structure Config where
  /-- The names of the native library, the first one to try first. -/
  libraryCandidates : List String := ["libvulkan.so.1", "libvulkan.so"]
  logFilter : String := "warn"
  deriving DecidableEq

namespace Config

/-- What a field or a section must be. -/
inductive Expected where
  | nativeSection
  | logSection
  | sequence
  | text
  deriving DecidableEq

def Expected.description : Expected → String
  | nativeSection => "struct NativeConfig"
  | logSection => "struct LogConfig"
  | sequence => "a sequence"
  | text => "a string"

/-- How a complaint describes the value that stands where another was expected. -/
def description : Toml.Value → String
  | .string text => "string " ++ Text.quotedText text
  | .integer value => s!"integer `{value}`"
  | .float value => "floating point `" ++ value.text ++ "`"
  | .boolean value => s!"boolean `{value}`"
  | .array _ | .tables _ => "sequence"
  | .table .. | .moment => "map"

/-- A value of the wrong kind and its place in the text. -/
structure Mismatch where
  found : String
  expected : Expected
  place : Toml.Span
  deriving DecidableEq

def Mismatch.text (mismatch : Mismatch) : String :=
  "invalid type: " ++ mismatch.found ++ ", expected " ++ mismatch.expected.description

/-- A value with the place that a complaint about it points at. -/
structure Located where
  value : Toml.Value
  place : Toml.Span

namespace Located

def ofEntry (entry : Toml.Entry) : Located := { value := entry.node.value, place := entry.place }

/-- An item of a sequence; one without a place of its own is looked for where the sequence stands. -/
def ofItem (sequence : Located) (item : Toml.Node) : Located :=
  { value := item.value, place := item.span.getD sequence.place }

def mismatch {α : Type} (located : Located) (expected : Expected) : Except Mismatch α :=
  .error { found := description located.value, expected, place := located.place }

def text (located : Located) : Except Mismatch String :=
  match located.value with
  | .string text => .ok text
  | _ => located.mismatch .text

def texts (located : Located) : Except Mismatch (List String) :=
  match located.value with
  | .array items | .tables items => items.mapM fun item => (located.ofItem item).text
  | _ => located.mismatch .sequence

/-- The one field of a section. A section may be a table, which gives the field under its name; a sequence,
which gives it as the first item; or a date, which gives none. -/
def field? (part : Located) (name : String) (expected : Expected) : Except Mismatch (Option Located) :=
  match part.value with
  | .table _ entries => .ok ((Toml.find? entries name).map ofEntry)
  | .array items | .tables items => .ok (items.head?.map part.ofItem)
  | .moment => .ok none
  | _ => part.mismatch expected

end Located

/-- Reads one entry of the document's table; a key of no section changes nothing. -/
def readEntry (config : Config) (entry : Toml.Entry) : Except Mismatch Config := do
  let located := Located.ofEntry entry
  if entry.key = "native" then
    match ← located.field? "library_candidates" .nativeSection with
    | some field => return { config with libraryCandidates := ← field.texts }
    | none => return config
  else if entry.key = "log" then
    match ← located.field? "filter" .logSection with
    | some field => return { config with logFilter := ← field.text }
    | none => return config
  else return config

/-- The configuration in a document's table, or the first value of a wrong kind. -/
def ofEntries (entries : List Toml.Entry) : Except Mismatch Config :=
  entries.foldlM readEntry {}

end Config
end SurfaceBridge
