import SurfaceBridge.Toml.Document
import Mathlib.Data.List.Nodup

/-! The keys of a document's table are distinct. Statements only add entries whose keys are new, or put another value
behind a key that is there; a table that is opened again leaves the document until it is closed. -/
namespace SurfaceBridge.Toml

def keys (entries : List Entry) : List String := entries.map (·.key)

variable {entries root next : List Entry} {name : String} {node : Node}

theorem find?_eq_none_iff : find? entries name = none ↔ name ∉ keys entries := by
  simp [find?, keys]

@[simp] theorem keys_replace : keys (replace entries name node) = keys entries := by
  rw [keys, replace, List.map_map]
  refine List.map_congr_left fun entry _ => ?_
  rw [Function.comp_apply]
  split <;> rfl

theorem nodup_keys_concat (distinct : (keys entries).Nodup) {entry : Entry} (fresh : entry.key ∉ keys entries) :
    (keys (entries ++ [entry])).Nodup := by
  rw [keys, List.map_append]
  exact distinct.append (List.nodup_singleton _) (List.disjoint_singleton.mpr fresh)

theorem exists_of_bind_eq_ok {ε α β : Type} {first : Except ε α} {then' : α → Except ε β} {result : β}
    (done : first >>= then' = .ok result) : ∃ value, first = .ok value ∧ then' value = .ok result := by
  cases first with
  | error e => cases done
  | ok value => exact ⟨value, rfl, done⟩

/-- What every step of a fold keeps holds in the end. -/
theorem foldlM_keeps {ε α β : Type} {step : β → α → Except ε β} {p : β → Prop}
    (keeps : ∀ state item next, p state → step state item = .ok next → p next) {items : List α} {start last : β}
    (begins : p start) (folded : items.foldlM step start = .ok last) : p last := by
  induction items generalizing start with
  | nil =>
    cases folded
    exact begins
  | cons item items ih =>
    rw [List.foldlM_cons] at folded
    obtain ⟨next, stepped, rest⟩ := exists_of_bind_eq_ok folded
    exact ih (keeps start item next begins stepped) rest

/-- Placing a value adds a new key, or changes what is behind one. -/
theorem place_nodup {kind : TableKind} {path : List Key} {key : Key} {nested : Bool}
    (distinct : (keys entries).Nodup) (placed : place kind entries path key node nested = .ok next) :
    (keys next).Nodup := by
  cases path with
  | nil =>
    rw [place] at placed
    split at placed
    · cases placed
    · rename_i free
      cases placed
      refine nodup_keys_concat distinct (find?_eq_none_iff.mp ?_)
      simpa using fun found => free (.inr found)
  | cons step rest =>
    rw [place] at placed
    cases found : find? entries step.name with
    | none =>
      rw [found] at placed
      obtain ⟨inner, _, grown⟩ := exists_of_bind_eq_ok placed
      cases grown
      exact nodup_keys_concat distinct (find?_eq_none_iff.mp found)
    | some entry =>
      rw [found] at placed
      obtain ⟨name, nameSpan, ⟨value, span⟩⟩ := entry
      cases value with
      | table inner children =>
        dsimp only at placed
        split at placed
        · obtain ⟨grown, _, replaced⟩ := exists_of_bind_eq_ok placed
          cases replaced
          rwa [keys_replace]
        · cases placed
      | tables items =>
        obtain ⟨grown, _, replaced⟩ := exists_of_bind_eq_ok placed
        cases replaced
        rwa [keys_replace]
      | _ => cases placed

/-- An addition somewhere below keeps the keys distinct if it does so where it is made. -/
theorem alterAt_nodup {β : Type} {path : List Key} {f : List Entry → Except Nat (List Entry × β)} {out : β}
    (keeps : path = [] → ∀ next, f entries = .ok (next, out) → (keys next).Nodup) (distinct : (keys entries).Nodup)
    (altered : alterAt entries path f = .ok (next, out)) : (keys next).Nodup := by
  cases path with
  | nil => exact keeps rfl next altered
  | cons step rest =>
    rw [alterAt] at altered
    cases found : find? entries step.name with
    | none =>
      rw [found] at altered
      obtain ⟨inner, _, grown⟩ := exists_of_bind_eq_ok altered
      cases grown
      exact nodup_keys_concat distinct (find?_eq_none_iff.mp found)
    | some entry =>
      rw [found] at altered
      obtain ⟨name, nameSpan, ⟨value, span⟩⟩ := entry
      cases value with
      | table kind children =>
        dsimp only at altered
        split at altered
        · cases altered
        · obtain ⟨grown, _, replaced⟩ := exists_of_bind_eq_ok altered
          cases replaced
          rwa [keys_replace]
      | tables items =>
        dsimp only at altered
        split at altered
        · obtain ⟨grown, _, replaced⟩ := exists_of_bind_eq_ok altered
          cases replaced
          rwa [keys_replace]
        · cases altered
      | _ => cases altered

/-- A header that opens a table of the document itself: while the table is open the document has no such key. -/
def Header.Takes (header : Header) (root : List Entry) : Prop :=
  header.path = [] → header.ofArray = false → header.key.name ∉ keys root

theorem openTable_nodup {header : Header} {children : List Entry} (distinct : (keys root).Nodup)
    (opened : openTable root header = .ok (next, children)) : (keys next).Nodup ∧ header.Takes next := by
  rw [openTable] at opened
  constructor
  · refine alterAt_nodup (fun _ next altered => ?_) distinct opened
    split at altered
    · rename_i absent
      split at altered
      · cases altered
        exact nodup_keys_concat distinct (find?_eq_none_iff.mp absent)
      · cases altered
        exact distinct
    · split at altered
      · cases altered
        exact distinct
      · cases altered
    · split at altered
      · cases altered
      · cases altered
        exact distinct.sublist (List.filter_sublist.map _)
    · cases altered
  · intro top single
    rw [top, alterAt] at opened
    split at opened
    · rename_i absent
      rw [single] at opened
      cases opened
      exact find?_eq_none_iff.mp absent
    · rw [single] at opened
      cases opened
    · rw [single] at opened
      cases opened
      simp [keys]
    · cases opened

theorem closeTable_nodup {header : Header} {table : Node} (distinct : (keys root).Nodup) (takes : header.Takes root)
    (closed : closeTable root header table = .ok next) : (keys next).Nodup := by
  rw [closeTable] at closed
  obtain ⟨⟨_, _⟩, altered, same⟩ := exists_of_bind_eq_ok closed
  cases same
  refine alterAt_nodup (fun top next altered => ?_) distinct altered
  split at altered
  · split at altered
    · cases altered
      rwa [keys_replace]
    · cases altered
  · rename_i single
    cases altered
    exact nodup_keys_concat distinct (takes top (by simpa using single))

/-- While statements are read: the keys of the document are distinct, without those of the table that is open. -/
def Distinct (root : List Entry) (current : OpenTable) : Prop :=
  match current.header with
  | none => (keys current.entries).Nodup
  | some header => (keys root).Nodup ∧ header.Takes root

theorem close_nodup {current : OpenTable} (distinct : Distinct root current)
    (closed : current.close root = .ok next) : (keys next).Nodup := by
  rw [OpenTable.close] at closed
  rw [Distinct] at distinct
  split at closed
  · rename_i none_open
    rw [none_open] at distinct
    cases closed
    exact distinct
  · rename_i header opened
    rw [opened] at distinct
    exact closeTable_nodup distinct.1 distinct.2 closed

/-- No two entries of a document's table have the same key. -/
theorem assemble_nodup {statements : List Statement} (assembled : assemble statements = .ok root) :
    (keys root).Nodup := by
  rw [assemble] at assembled
  obtain ⟨⟨root', current⟩, folded, closed⟩ := exists_of_bind_eq_ok assembled
  have begins : Distinct [] {} := List.nodup_nil
  refine close_nodup (foldlM_keeps (p := fun state => Distinct state.1 state.2) ?_ begins folded) closed
  rintro ⟨root, ⟨opened, entries, span⟩⟩ statement next distinct stepped
  cases statement with
  | header header =>
    obtain ⟨settled, closed, rest⟩ := exists_of_bind_eq_ok stepped
    obtain ⟨⟨_, children⟩, opens, same⟩ := exists_of_bind_eq_ok rest
    cases same
    exact openTable_nodup (close_nodup distinct closed) opens
  | pair path key node =>
    obtain ⟨grown, placed, same⟩ := exists_of_bind_eq_ok stepped
    cases same
    -- Only a pair before the first header belongs to the document's own table.
    cases opened with
    | none => exact place_nodup distinct placed
    | some header => exact distinct

theorem document_nodup {text : String} (read : document? text = .ok root) : (keys root).Nodup := by
  obtain ⟨statements, _, assembled⟩ := exists_of_bind_eq_ok read
  exact assemble_nodup assembled

end SurfaceBridge.Toml
