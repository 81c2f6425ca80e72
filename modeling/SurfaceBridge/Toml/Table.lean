import SurfaceBridge.Toml.Value

/-! Building tables statement by statement: what a dotted key and what a header may add to a table that is
already there. A refused addition is reported by the position of the key that it fails at. -/
namespace SurfaceBridge.Toml

/-- Replaces the node of a key that is present. -/
def replace (entries : List Entry) (name : String) (node : Node) : List Entry :=
  entries.map fun entry => if entry.key = name then { entry with node } else entry

private def append (entries : List Entry) (key : Key) (node : Node) : List Entry :=
  entries ++ [{ key := key.name, keySpan := key.span, node }]

/-- Runs an addition on the entries of the last table of an array. -/
private def inLast {ε : Type} (items : List Node) (fail : ε)
    (f : TableKind → List Entry → Except ε (List Entry)) : Except ε (List Node) :=
  match items.getLast? with
  | some { value := .table kind entries, span } => do
    return items.dropLast ++ [{ value := .table kind (← f kind entries), span }]
  | _ => .error fail

/-- Adds a value under a dotted key. The tables on the way must have been opened the same way, or by being on
the way to some header; the last one must have been opened by a dotted key. -/
def place (kind : TableKind) (entries : List Entry) (path : List Key) (key : Key) (node : Node)
    (nested : Bool) : Except Nat (List Entry) :=
  match path with
  | [] =>
    if kind.isDotted ≠ nested ∨ (find? entries key.name).isSome then .error key.span.start
    else .ok (append entries key node)
  | step :: rest =>
    match find? entries step.name with
    | none => do
      let inner ← place .dotted [] rest key node true
      return append entries step { value := .table .dotted inner, span := none }
    | some { node := { value := .table inner children, span }, .. } =>
      if inner.isImplicit then do
        let children ← place inner children rest key node true
        return replace entries step.name { value := .table inner children, span }
      else .error step.span.start
    | some { node := { value := .tables items, span }, .. } => do
      let items ← inLast items step.span.start fun kind children => place kind children rest key node true
      return replace entries step.name { value := .tables items, span }
    | some _ => .error step.span.start

/-- Runs an addition on the entries that a header's path leads to, and makes the tables that are missing on
the way. In an array of tables the path goes on in the last one. -/
def alterAt {β : Type} (entries : List Entry) (path : List Key)
    (f : List Entry → Except Nat (List Entry × β)) : Except Nat (List Entry × β) :=
  match path with
  | [] => f entries
  | step :: rest =>
    match find? entries step.name with
    | none => do
      let (inner, out) ← alterAt [] rest f
      return (append entries step { value := .table .implicit inner, span := none }, out)
    | some { node := { value := .table kind children, span }, .. } =>
      if kind = .inline then .error step.span.start
      else do
        let (children, out) ← alterAt children rest f
        return (replace entries step.name { value := .table kind children, span }, out)
    | some { node := { value := .tables items, span }, .. } =>
      match items.getLast? with
      | some { value := .table kind children, span := inner } => do
        let (children, out) ← alterAt children rest f
        let items := items.dropLast ++ [{ value := .table kind children, span := inner }]
        return (replace entries step.name { value := .tables items, span }, out)
      | _ => .error step.span.start
    | some _ => .error step.span.start

/-- A header: the way to the table, its own key, whether it opens one more table of an array, and its place. -/
structure Header where
  path : List Key
  key : Key
  ofArray : Bool
  span : Span

/-- Opens a header's table: the document without it, and the entries that it has already. -/
def openTable (root : List Entry) (header : Header) : Except Nat (List Entry × List Entry) :=
  alterAt root header.path fun entries =>
    match find? entries header.key.name with
    | none =>
      if header.ofArray then
        .ok (append entries header.key { value := .tables [], span := none }, [])
      else .ok (entries, [])
    | some { node := { value := .tables _, .. }, .. } =>
      if header.ofArray then .ok (entries, []) else .error header.key.span.start
    | some { node := { value := .table .implicit children, .. }, .. } =>
      if header.ofArray then .error header.key.span.start
      else .ok (entries.filter (·.key ≠ header.key.name), children)
    | some _ => .error header.key.span.start

/-- Puts a header's finished table into the document. -/
def closeTable (root : List Entry) (header : Header) (table : Node) : Except Nat (List Entry) := do
  let (root, ()) ← alterAt root header.path fun entries =>
    if header.ofArray then
      match find? entries header.key.name with
      | some { node := { value := .tables items, .. }, .. } =>
        let items := items ++ [table]
        let first := (items.head?.bind (·.span)).map (·.start)
        let last := table.span.map (·.stop)
        let span := first.bind fun start => last.map fun stop => { start, stop }
        .ok (replace entries header.key.name { value := .tables items, span }, ())
      | _ => .error header.key.span.start
    else .ok (append entries header.key table, ())
  return root

/-- A line of a document that says something. -/
inductive Statement where
  | header (header : Header)
  | pair (path : List Key) (key : Key) (node : Node)

/-- The table that statements go to: that of the last header, or the document itself. -/
structure OpenTable where
  header : Option Header := none
  entries : List Entry := []
  span : Option Span := none

/-- Puts the open table where it belongs. -/
def OpenTable.close (current : OpenTable) (root : List Entry) : Except Nat (List Entry) :=
  match current.header with
  | none => .ok current.entries
  | some header =>
    closeTable root header { value := .table .explicit current.entries, span := current.span }

/-- The document that statements make up; the place of a table reaches to its last value. -/
def assemble (statements : List Statement) : Except Nat (List Entry) := do
  let (root, current) ← statements.foldlM
    (fun (root, current) statement =>
      match statement with
      | .header header => do
        let root ← OpenTable.close current root
        let (root, entries) ← openTable root header
        return (root, { header := some header, entries, span := some header.span })
      | .pair path key node => do
        let entries ← place .explicit current.entries path key node false
        let span := current.span.map fun span =>
          { span with stop := (node.span.map (·.stop)).getD span.stop }
        return (root, { current with entries, span }))
    (([] : List Entry), ({} : OpenTable))
  OpenTable.close current root

end SurfaceBridge.Toml
