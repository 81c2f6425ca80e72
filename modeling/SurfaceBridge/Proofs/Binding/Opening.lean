import SurfaceBridge.Proofs.Binding.Resolution

/-! Opening the native library, with all that happens on the way: which candidates are tried and what is said of them,
which symbols are asked for, and the addresses that the table holds in the end. -/
namespace SurfaceBridge

/-- The source has the symbol, and not as null. -/
def SymbolSource.Exports (source : SymbolSource) (symbol : RequiredSymbol) : Prop :=
  ∃ address, source symbol = some address ∧ address ≠ 0

namespace EntryTable

variable {source : SymbolSource} {symbol : RequiredSymbol} {α : Type}

theorem address?_eq_some_iff {address : UInt64} :
    address? source symbol = some address ↔ source symbol = some address ∧ address ≠ 0 := by
  rw [address?, Option.filter_eq_some_iff, decide_eq_true_iff]

theorem exports_iff : source.Exports symbol ↔ (address? source symbol).isSome := by
  rw [Option.isSome_iff_exists]
  exact exists_congr fun _ => address?_eq_some_iff.symm

theorem not_exports_iff : ¬ source.Exports symbol ↔ address? source symbol = none := by
  rw [exports_iff, Option.not_isSome_iff_eq_none]

/-- What resolving a source gives: the whole table, each address in its own slot, after every symbol was asked for; or
the first symbol that is missing, with which the asking ended. -/
inductive Resolves (source : SymbolSource) : Except DriverError EntryTable × List RequiredSymbol → Prop where
  | whole (table : EntryTable) : (∀ symbol, source symbol = some (table.slot symbol) ∧ table.slot symbol ≠ 0) →
      Resolves source (.ok table, RequiredSymbol.all)
  | missing (before : List RequiredSymbol) (symbol : RequiredSymbol) (after : List RequiredSymbol) :
      RequiredSymbol.all = before ++ symbol :: after → (∀ earlier ∈ before, source.Exports earlier) →
      ¬ source.Exports symbol → Resolves source (.error (.missingSymbol symbol.name), before ++ [symbol])

/-- Of these symbols, those up to and including the first one that is missing. -/
def upToMissing (source : SymbolSource) : List RequiredSymbol → List RequiredSymbol
  | [] => []
  | symbol :: rest => symbol :: if (address? source symbol).isSome then upToMissing source rest else []

/-- The look-ups note these symbols as far as they get. -/
def Notes (source : SymbolSource) (symbols : List RequiredSymbol) (lookups : Lookup α) : Prop :=
  ∀ asked, (lookups.run.run asked).run.2 = asked ++ upToMissing source symbols

theorem Notes.ask {symbols : List RequiredSymbol} {next : UInt64 → Lookup α}
    (rest : ∀ address, Notes source symbols (next address)) :
    Notes source (symbol :: symbols) (ask source symbol >>= next) := by
  intro asked
  cases exported : address? source symbol with
  | none =>
    rw [run_ask_of_missing exported, upToMissing, exported]
    rfl
  | some address =>
    rw [run_ask_of_exported exported, rest address, upToMissing, exported, List.append_assoc]
    rfl

theorem lookup_notes (source : SymbolSource) : Notes source RequiredSymbol.all (lookup source) :=
  .ask fun _ => .ask fun _ => .ask fun _ => .ask fun _ => .ask fun _ => .ask fun _ => .ask fun _ asked =>
    (List.append_nil asked).symm

theorem resolve_snd (source : SymbolSource) : (resolve source).2 = upToMissing source RequiredSymbol.all :=
  lookup_notes source []

theorem upToMissing_of_exports {symbols : List RequiredSymbol}
    (exported : ∀ symbol ∈ symbols, source.Exports symbol) : upToMissing source symbols = symbols := by
  induction symbols with
  | nil => rfl
  | cons symbol symbols ih =>
    rw [List.forall_mem_cons] at exported
    rw [upToMissing, if_pos (exports_iff.mp exported.1), ih exported.2]

theorem upToMissing_of_missing {before : List RequiredSymbol} (exported : ∀ earlier ∈ before, source.Exports earlier)
    (missing : ¬ source.Exports symbol) (after : List RequiredSymbol) :
    upToMissing source (before ++ symbol :: after) = before ++ [symbol] := by
  induction before with
  | nil =>
    rw [List.nil_append, upToMissing, not_exports_iff.mp missing]
    rfl
  | cons earlier before ih =>
    rw [List.forall_mem_cons] at exported
    rw [List.cons_append, upToMissing, if_pos (exports_iff.mp exported.1), ih exported.2, List.cons_append]

theorem slot_ofSource (source : SymbolSource) (symbol : RequiredSymbol) :
    (ofSource source).slot symbol = (address? source symbol).getD 0 := by
  cases symbol <;> rfl

/-- Every source is resolved so. -/
theorem resolve_resolves (source : SymbolSource) : Resolves source (resolve source) := by
  have table := resolve_eq source
  have asked := resolve_snd source
  cases first : firstMissing? source with
  | none =>
    have exported (symbol : RequiredSymbol) : source.Exports symbol :=
      exports_iff.mpr (firstMissing?_eq_none_iff.mp first symbol symbol.mem_all)
    rw [first] at table
    rw [upToMissing_of_exports fun symbol _ => exported symbol] at asked
    have whole : resolve source = (.ok (ofSource source), RequiredSymbol.all) := Prod.ext table asked
    rw [whole]
    refine .whole _ fun symbol => ?_
    obtain ⟨address, held, nonzero⟩ := exported symbol
    rw [slot_ofSource, address?_eq_some_iff.mpr ⟨held, nonzero⟩]
    exact ⟨held, nonzero⟩
  | some symbol =>
    obtain ⟨missing, before, after, all, earlier⟩ := List.find?_eq_some_iff_append.mp first
    have exported : ∀ earlier ∈ before, source.Exports earlier := fun other member => by
      simpa [exports_iff, Option.isSome_iff_ne_none] using earlier other member
    have lacks : ¬ source.Exports symbol := not_exports_iff.mpr (Option.isNone_iff_eq_none.mp missing)
    rw [first] at table
    rw [all, upToMissing_of_missing exported lacks] at asked
    have partly : resolve source = (.error (.missingSymbol symbol.name), before ++ [symbol]) :=
      Prod.ext table asked
    rw [partly]
    exact .missing before symbol after all exported lacks

/-- A source is resolved whole exactly if it has every symbol. -/
theorem Resolves.isOk_iff {result : Except DriverError EntryTable} {asked : List RequiredSymbol}
    (resolves : Resolves source (result, asked)) : result.isOk ↔ ∀ symbol, source.Exports symbol := by
  cases resolves with
  | whole table held => exact iff_of_true rfl fun symbol => ⟨_, held symbol⟩
  | missing _ symbol _ _ _ lacks => exact iff_of_false Bool.false_ne_true fun exported => lacks (exported symbol)

/-- No symbol is asked for twice. -/
theorem Resolves.nodup {result : Except DriverError EntryTable} {asked : List RequiredSymbol}
    (resolves : Resolves source (result, asked)) : asked.Nodup := by
  have once : RequiredSymbol.all.Nodup := by decide
  cases resolves with
  | whole => exact once
  | missing before symbol after all =>
    have front : (before ++ [symbol]).Sublist RequiredSymbol.all := by
      rw [all, List.append_cons before symbol after]
      exact List.sublist_append_left ..
    exact front.nodup once

end EntryTable

namespace LibrarySearch

variable {libraries : LibraryEnv} {failures : List LoadFailure}

theorem run_of_failures (failed : ∀ failure ∈ failures, libraries failure.name = .error failure.reason) :
    run libraries (failures.map (·.name)) = { failures, found := none } := by
  induction failures with
  | nil => rfl
  | cons failure failures ih =>
    rw [List.forall_mem_cons] at failed
    rw [List.map_cons, run, failed.1, ih failed.2]

/-- What stands behind the first candidate that loads does not matter. -/
theorem run_of_loads (failed : ∀ failure ∈ failures, libraries failure.name = .error failure.reason) {name : String}
    {library : Library} (loads : libraries name = .ok library) (later : List String) :
    run libraries (failures.map (·.name) ++ name :: later) = { failures, found := some (name, library) } := by
  induction failures with
  | nil => rw [List.map_nil, List.nil_append, run, loads]
  | cons failure failures ih =>
    rw [List.forall_mem_cons] at failed
    rw [List.map_cons, List.cons_append, run, failed.1, ih failed.2]

/-- The search with a loader that may do more than answer. -/
def runWith {m : Type → Type} [Monad m] (load : String → m (Except String Library)) : List String → m LibrarySearch
  | [] => return { failures := [], found := none }
  | name :: rest => do
    match ← load name with
    | .ok library => return { failures := [], found := some (name, library) }
    | .error reason =>
      let search ← runWith load rest
      return { search with failures := { name, reason } :: search.failures }

/-- A loader that notes each name it is asked for. -/
def noting (libraries : LibraryEnv) (name : String) : StateM (List String) (Except String Library) := do
  modify (· ++ [name])
  return libraries name

/-- The names that a search tried. -/
def tried (search : LibrarySearch) : List String :=
  search.failures.map (·.name) ++ search.found.toList.map (·.1)

/-- A search asks its loader for the names that it tried, and for no other. -/
theorem runWith_noting (libraries : LibraryEnv) (candidates asked : List String) :
    (runWith (noting libraries) candidates).run asked =
      (run libraries candidates, asked ++ (run libraries candidates).tried) := by
  induction candidates generalizing asked with
  | nil =>
    show (_, asked) = (_, asked ++ [])
    rw [List.append_nil]
    rfl
  | cons name candidates ih =>
    cases loaded : libraries name with
    | ok library =>
      simp only [runWith, noting, loaded, run]
      rfl
    | error reason =>
      have first : (runWith (noting libraries) (name :: candidates)).run asked =
          ((runWith (noting libraries) candidates).run (asked ++ [name])).map
            (fun search => { search with failures := { name, reason } :: search.failures }) id := by
        simp only [runWith, noting, loaded]
        rfl
      rw [first, ih]
      simp [run, loaded, tried]

/-- Candidates fail up to the first one that loads, or to the last. -/
theorem split (libraries : LibraryEnv) (candidates : List String) :
    ∃ failures : List LoadFailure, (∀ failure ∈ failures, libraries failure.name = .error failure.reason) ∧
      (candidates = failures.map (·.name) ∨ ∃ name library later,
        candidates = failures.map (·.name) ++ name :: later ∧ libraries name = .ok library) := by
  induction candidates with
  | nil => exact ⟨[], List.forall_mem_nil _, .inl rfl⟩
  | cons name candidates ih =>
    cases loaded : libraries name with
    | ok library => exact ⟨[], List.forall_mem_nil _, .inr ⟨name, library, candidates, rfl, loaded⟩⟩
    | error reason =>
      obtain ⟨failures, failed, cases⟩ := ih
      refine ⟨⟨name, reason⟩ :: failures, List.forall_mem_cons.mpr ⟨loaded, failed⟩, ?_⟩
      rcases cases with rfl | ⟨other, library, later, rfl, loads⟩
      · exact .inl rfl
      · exact .inr ⟨other, library, later, rfl, loads⟩

end LibrarySearch

namespace Bindings

variable {libraries : LibraryEnv} {failures : List LoadFailure}

/-- What is said of candidates that do not load. -/
def failureNotices (failures : List LoadFailure) : List Notice :=
  failures.map fun failure => .libraryFailed failure.name failure.reason

theorem openFirst_of_failures (failed : ∀ failure ∈ failures, libraries failure.name = .error failure.reason) :
    openFirst libraries (failures.map (·.name)) =
      (.error (.libraryUnavailable
        (failures.getLast?.elim "no library candidates configured" fun last => last.name ++ ": " ++ last.reason)),
        failureNotices failures) := by
  rw [openFirst, LibrarySearch.run_of_failures failed]
  cases last : failures.getLast? with
  | none => simp [LibrarySearch.library, LibrarySearch.notices, failureNotices, last, bind, Except.bind]
  | some failure =>
    simp [LibrarySearch.library, LibrarySearch.notices, failureNotices, last, bind, Except.bind, LoadFailure.text]

theorem openFirst_of_loads (failed : ∀ failure ∈ failures, libraries failure.name = .error failure.reason)
    {name : String} {library : Library} (loads : libraries name = .ok library) (later : List String) :
    openFirst libraries (failures.map (·.name) ++ name :: later) =
      match (EntryTable.resolve library.symbols).1 with
      | .ok table => (.ok { table, ownsLibrary := true },
          failureNotices failures ++ [.libraryLoaded name, .bindingsResolved])
      | .error e => (.error e, failureNotices failures ++ [.libraryLoaded name]) := by
  rw [openFirst, LibrarySearch.run_of_loads failed loads]
  simp only [LibrarySearch.library, bind, Except.bind]
  cases (EntryTable.resolve library.symbols).1 with
  | error e => rfl
  | ok table => simp [LibrarySearch.notices, failureNotices]

/-- The only debug lines are those for candidates that do not load. -/
theorem filter_debug_failureNotices (failures : List LoadFailure) :
    (failureNotices failures).filter (fun notice => notice.level = .debug) = failureNotices failures := by
  refine List.filter_eq_self.mpr fun notice member => ?_
  obtain ⟨failure, _, rfl⟩ := List.mem_map.mp member
  rfl

theorem filter_debug_openFirst (failures : List LoadFailure) (name : String) {later : List Notice}
    (quiet : ∀ notice ∈ later, notice.level ≠ .debug) :
    (failureNotices failures ++ .libraryLoaded name :: later).filter (fun notice => notice.level = .debug) =
      failureNotices failures := by
  have silent : (Notice.libraryLoaded name :: later).filter (fun notice => notice.level = .debug) = [] := by
    rw [List.filter_eq_nil_iff, List.forall_mem_cons]
    exact ⟨Bool.false_ne_true, fun notice member => by simpa using quiet notice member⟩
  rw [List.filter_append, filter_debug_failureNotices, silent, List.append_nil]

end Bindings

/-- Resolving a source asks for the symbols in order, for each one once, until one is missing, and gives the table
only if none is. Opening tries the candidates in order up to the first one that loads and no other, with one debug
line for each that does not. If none loads, the last one's reason is the error. Otherwise only the library that loads
decides, and nothing that stands behind it matters. -/
theorem opening_native_bindings (libraries : LibraryEnv) (candidates : List String) :
    (∀ source : SymbolSource, let (result, asked) := EntryTable.resolve source
      EntryTable.Resolves source (result, asked) ∧ asked.Nodup ∧
        (result.isOk ↔ ∀ symbol, source.Exports symbol)) ∧
    ∃ failures : List LoadFailure, (∀ failure ∈ failures, libraries failure.name = .error failure.reason) ∧
      let opening := Bindings.openFirst libraries candidates
      let search := LibrarySearch.run libraries candidates
      let noted := (LibrarySearch.runWith (LibrarySearch.noting libraries) candidates).run []
      let failed := failures.map fun failure => Notice.libraryFailed failure.name failure.reason
      opening.2.filter (fun notice => notice.level = .debug) = failed ∧
      (candidates = failures.map (·.name) ∧ noted = (search, candidates) ∧
          opening = (.error (.libraryUnavailable (failures.getLast?.elim "no library candidates configured"
            fun last => last.name ++ ": " ++ last.reason)), failed) ∨
        ∃ name library later, candidates = failures.map (·.name) ++ name :: later ∧
          libraries name = .ok library ∧ noted = (search, failures.map (·.name) ++ [name]) ∧
          (∀ others rest, (∀ failure ∈ failures, others failure.name = .error failure.reason) →
            others name = .ok library →
            Bindings.openFirst others (failures.map (·.name) ++ name :: rest) = opening) ∧
          opening = match (EntryTable.resolve library.symbols).1 with
            | .ok table => (.ok { table, ownsLibrary := true },
                failed ++ [.libraryLoaded name, .bindingsResolved])
            | .error e => (.error e, failed ++ [.libraryLoaded name])) := by
  refine ⟨fun source => ?_, ?_⟩
  · have resolves := EntryTable.resolve_resolves source
    exact ⟨resolves, resolves.nodup, resolves.isOk_iff⟩
  obtain ⟨failures, failed, rfl | ⟨name, library, later, rfl, loads⟩⟩ := LibrarySearch.split libraries candidates
  · refine ⟨failures, failed, ?_⟩
    have tried : (LibrarySearch.run libraries (failures.map (·.name))).tried = failures.map (·.name) := by
      rw [LibrarySearch.run_of_failures failed]
      exact List.append_nil _
    rw [Bindings.openFirst_of_failures failed, LibrarySearch.runWith_noting, tried]
    exact ⟨Bindings.filter_debug_failureNotices failures, .inl ⟨rfl, rfl, rfl⟩⟩
  · have opening := Bindings.openFirst_of_loads failed loads later
    refine ⟨failures, failed, ?_, .inr ⟨name, library, later, rfl, loads, ?_, ?_, opening⟩⟩
    · rw [opening]
      cases (EntryTable.resolve library.symbols).1 with
      | ok table => exact Bindings.filter_debug_openFirst failures name (by decide)
      | error e => exact Bindings.filter_debug_openFirst failures name (by decide)
    · rw [LibrarySearch.runWith_noting, LibrarySearch.run_of_loads failed loads]
      rfl
    · intro others rest failed' loads'
      rw [opening, Bindings.openFirst_of_loads failed' loads' rest]

end SurfaceBridge
