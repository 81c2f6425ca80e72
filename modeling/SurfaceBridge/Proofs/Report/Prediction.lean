import SurfaceBridge.CommandLine.Run
import SurfaceBridge.Proofs.Binding.Opening
import SurfaceBridge.Proofs.Config.Reading
import SurfaceBridge.Proofs.Service.Acquisition

/-! Verification foretells what a host will meet: its checks pass where opening the native library succeeds, and its
messages are those of the errors. -/
namespace SurfaceBridge

namespace Report

/-- There is an entry of that name, and it passed. -/
def Passes (checks : List Check) (name : String) : Prop :=
  ∃ check ∈ checks, check.name = name ∧ check.status = .pass

end Report

namespace Verification
open Report

/-- A verification goes on with the configuration that a service would have. -/
theorem configuration_snd (env : Environment) (path : String) :
    (configuration env path).2 = (Config.loadOrDefault env path).1 := by
  unfold configuration Config.loadOrDefault Environment.pathExists
  cases found : env.lookup path with
  | ok node => cases Config.load env path <;> rfl
  | error reason =>
    rw [Config.load_of_absent found]
    rfl

theorem configuration_name (env : Environment) (path : String) :
    (configuration env path).1.name = "Configuration" := by
  unfold configuration
  split
  · split <;> rfl
  · rfl

/-- The configuration's check fails unless its path leads to nothing, or to a file that is loaded. -/
theorem configuration_ne_fail_iff (env : Environment) (path : String) :
    (configuration env path).1.status ≠ .fail ↔
      (∃ reason, env.lookup path = .error reason) ∨ ∃ config, Config.Loads env path config := by
  simp only [Config.loads_iff]
  unfold configuration Environment.pathExists
  cases env.lookup path with
  | error reason => simp [Except.isOk, Except.toBool]
  | ok node => cases Config.load env path <;> simp [Except.isOk, Except.toBool]

/-- The entries of a verification, once configuration and search are known. -/
def entries (settled : Check) (search : LibrarySearch) : List Check :=
  [settled, library search] ++ entryPoints (search.found.map (·.2))

theorem checks_eq (env : Environment) (path : Option String) (asked : List String) :
    let file := path.getD (Config.path env)
    checks env path asked = entries (configuration env file).1
      (LibrarySearch.run env.openLibrary (candidates (Config.loadOrDefault env file).1 asked)) := by
  intro file
  rw [← configuration_snd]
  rfl

/-- A symbol's entry has its name, and fails if the symbol is missing. -/
theorem symbol_eq (source : SymbolSource) (required : RequiredSymbol) :
    (symbol source required).name = required.name ∧
      ((symbol source required).status = .pass ↔ (EntryTable.address? source required).isSome) ∧
      ((symbol source required).status = .fail ↔ (EntryTable.address? source required).isNone) := by
  unfold symbol
  cases EntryTable.address? source required <;> simp

/-- The entry of the table is that of the first symbol that is missing. -/
theorem bindingTable_eq (source : SymbolSource) :
    (bindingTable source).name = "Binding table" ∧ match EntryTable.firstMissing? source with
      | some missing => (bindingTable source).status = .fail ∧
          (bindingTable source).message = (DriverError.missingSymbol missing.name).message
      | none => (bindingTable source).status = .pass := by
  unfold bindingTable
  rw [EntryTable.resolve_eq]
  cases EntryTable.firstMissing? source with
  | some missing => exact ⟨rfl, rfl, rfl⟩
  | none => exact ⟨rfl, rfl⟩

theorem library_eq (search : LibrarySearch) :
    (library search).name = "Native library" ∧ ((library search).status = .pass ↔ search.found.isSome) ∧
      ((library search).status = .fail ↔ search.found.isNone) := by
  unfold library
  cases search.found with
  | some named => simp
  | none =>
    dsimp only
    split <;> simp

/-- The entry of a symbol that failed. -/
def isFailedSymbol (check : Check) : Bool :=
  check.status = .fail ∧ check.name ∈ RequiredSymbol.all.map RequiredSymbol.name

theorem isFailedSymbol_symbol (source : SymbolSource) (required : RequiredSymbol) :
    isFailedSymbol (symbol source required) = (EntryTable.address? source required).isNone := by
  obtain ⟨name, _, failed⟩ := symbol_eq source required
  have among : required.name ∈ RequiredSymbol.all.map RequiredSymbol.name :=
    List.mem_map_of_mem required.mem_all
  rw [Bool.eq_iff_iff, isFailedSymbol, decide_eq_true_iff, name, failed, and_iff_left among]

theorem isFailedSymbol_of_name {check : Check} (other : check.name ∉ RequiredSymbol.all.map RequiredSymbol.name) :
    isFailedSymbol check = false :=
  decide_eq_false fun fails => other fails.2

variable {settled : Check} {search : LibrarySearch}

/-- The names of the entries, in order. -/
theorem names_entries (named : settled.name = "Configuration") :
    (entries settled search).map (·.name) = ["Configuration", "Native library"] ++
      if search.found.isSome then RequiredSymbol.all.map RequiredSymbol.name ++ ["Binding table"]
      else ["Entry points"] := by
  have symbols (source : SymbolSource) :
      (RequiredSymbol.all.map (symbol source)).map (·.name) = RequiredSymbol.all.map RequiredSymbol.name := by
    rw [List.map_map]
    exact List.map_congr_left fun required _ => (symbol_eq source required).1
  unfold entries entryPoints
  cases search.found with
  | none => simp [named, (library_eq search).1]
  | some opened =>
    simp only [Option.map_some, List.map_append, symbols, List.map_cons, List.map_nil, named, (library_eq search).1,
      (bindingTable_eq _).1]
    rfl

/-- No two entries have the same name. -/
theorem nodup_names_entries (named : settled.name = "Configuration") :
    ((entries settled search).map (·.name)).Nodup := by
  rw [names_entries named]
  cases search.found.isSome <;> decide

theorem passes_iff (named : settled.name = "Configuration") {check : Check}
    (member : check ∈ entries settled search) :
    Passes (entries settled search) check.name ↔ check.status = .pass := by
  constructor
  · rintro ⟨other, among, same, passed⟩
    rwa [← List.inj_on_of_nodup_map (nodup_names_entries named) among member same]
  · exact fun passed => ⟨check, member, rfl, passed⟩

theorem mem_entries_of_found (settled : Check) {name : String} {opened : Library}
    (found : search.found = some (name, opened)) (check : Check) :
    check ∈ entries settled search ↔ check = settled ∨ check = library search ∨
      (∃ required ∈ RequiredSymbol.all, check = symbol opened.symbols required) ∨
      check = bindingTable opened.symbols := by
  simp only [entries, found, Option.map_some, entryPoints, List.mem_append, List.mem_cons, List.not_mem_nil, or_false,
    List.mem_map, or_assoc, eq_comm]

theorem passes_library_iff (named : settled.name = "Configuration") :
    Passes (entries settled search) "Native library" ↔ search.found.isSome := by
  obtain ⟨name, passed, _⟩ := library_eq search
  rw [← name, passes_iff named (by simp [entries]), passed]

section Found

variable {libraries : LibraryEnv} {candidates : List String} {name : String} {opened : Library}
  (named : settled.name = "Configuration")
  (found : (LibrarySearch.run libraries candidates).found = some (name, opened))
include named found

theorem passes_symbol_iff {required : RequiredSymbol} (among : required ∈ RequiredSymbol.all) :
    Passes (entries settled (.run libraries candidates)) required.name ↔
      (EntryTable.address? opened.symbols required).isSome := by
  obtain ⟨name, passed, _⟩ := symbol_eq opened.symbols required
  rw [← name, passes_iff named, passed]
  exact (mem_entries_of_found settled found _).mpr (.inr (.inr (.inl ⟨required, among, rfl⟩)))

theorem passes_bindingTable_of_found :
    Passes (entries settled (.run libraries candidates)) "Binding table" ↔
      EntryTable.firstMissing? opened.symbols = none := by
  obtain ⟨name, outcome⟩ := bindingTable_eq opened.symbols
  rw [← name, passes_iff named]
  · cases missing : EntryTable.firstMissing? opened.symbols with
    | none =>
      rw [missing] at outcome
      exact iff_of_true outcome rfl
    | some symbol =>
      rw [missing] at outcome
      rw [outcome.1]
      simp
  · exact (mem_entries_of_found settled found _).mpr (.inr (.inr (.inr rfl)))

/-- The first entry of a symbol that failed is that of the first symbol that is missing. -/
theorem find?_failed_symbol :
    (entries settled (.run libraries candidates)).find? isFailedSymbol =
      (EntryTable.firstMissing? opened.symbols).map (symbol opened.symbols) := by
  have first : isFailedSymbol settled = false := isFailedSymbol_of_name (by rw [named]; decide)
  have second : isFailedSymbol (library (.run libraries candidates)) = false :=
    isFailedSymbol_of_name (by rw [(library_eq _).1]; decide)
  have last : isFailedSymbol (bindingTable opened.symbols) = false :=
    isFailedSymbol_of_name (by rw [(bindingTable_eq _).1]; decide)
  have symbols : isFailedSymbol ∘ symbol opened.symbols =
      fun required => (EntryTable.address? opened.symbols required).isNone :=
    funext (isFailedSymbol_symbol opened.symbols)
  simp only [entries, found, Option.map_some, entryPoints, List.cons_append, List.nil_append, List.find?_cons, first,
    second, List.find?_append, List.find?_map, symbols, last, List.find?_nil, Option.or_none]
  rfl

theorem failed_of_found :
    failed (entries settled (.run libraries candidates)) ↔
      settled.status = .fail ∨ EntryTable.firstMissing? opened.symbols ≠ none := by
  simp only [failed, List.any_eq_true, decide_eq_true_eq, mem_entries_of_found settled found]
  constructor
  · rintro ⟨check, rfl | rfl | ⟨required, among, rfl⟩ | rfl, fails⟩
    · exact .inl fails
    · rw [(library_eq _).2.2, found] at fails
      cases fails
    · right
      rw [ne_eq, EntryTable.firstMissing?_eq_none_iff]
      intro exported
      rw [(symbol_eq opened.symbols required).2.2, Option.isNone_iff_eq_none] at fails
      have address := exported required among
      rw [fails] at address
      cases address
    · right
      intro complete
      have outcome := (bindingTable_eq opened.symbols).2
      rw [complete] at outcome
      cases outcome.symm.trans fails
  · rintro (fails | missing)
    · exact ⟨settled, .inl rfl, fails⟩
    · obtain ⟨symbol, missing⟩ := Option.ne_none_iff_exists'.mp missing
      have outcome := (bindingTable_eq opened.symbols).2
      rw [missing] at outcome
      exact ⟨_, .inr (.inr (.inr rfl)), outcome.1⟩

end Found

section Prediction

variable (named : settled.name = "Configuration") (libraries : LibraryEnv) (candidates : List String)
include named

/-- Without a library the table has no entry, and the library's fails. -/
theorem entries_of_not_found (lost : (LibrarySearch.run libraries candidates).found = none) :
    ¬ Passes (entries settled (.run libraries candidates)) "Binding table" ∧
      failed (entries settled (.run libraries candidates)) := by
  constructor
  · rintro ⟨check, member, name, _⟩
    have among := List.mem_map_of_mem (f := (·.name)) member
    rw [names_entries named, lost, name] at among
    revert among
    decide
  · rw [failed, List.any_eq_true]
    exact ⟨library (.run libraries candidates), by simp [entries],
      decide_eq_true ((library_eq _).2.2.mpr (by rw [lost]; rfl))⟩

theorem passes_bindingTable_iff :
    Passes (entries settled (.run libraries candidates)) "Binding table" ↔
      (Bindings.openFirst libraries candidates).1.isOk := by
  cases found : (LibrarySearch.run libraries candidates).found with
  | none =>
    rw [Bindings.openFirst_isOk_of_not_found found]
    exact iff_of_false (entries_of_not_found named libraries candidates found).1 Bool.false_ne_true
  | some opened => rw [passes_bindingTable_of_found named found, Bindings.openFirst_isOk_of_found found]

theorem openFirst_isOk_iff_passes :
    (Bindings.openFirst libraries candidates).1.isOk ↔
      Passes (entries settled (.run libraries candidates)) "Native library" ∧
        ∀ required ∈ RequiredSymbol.all, Passes (entries settled (.run libraries candidates)) required.name := by
  rw [Bindings.openFirst_isOk_iff, passes_library_iff named, Option.isSome_iff_exists]
  constructor
  · rintro ⟨name, opened, found, exported⟩
    refine ⟨⟨_, found⟩, fun required among => ?_⟩
    exact (passes_symbol_iff named found among).mpr (exported required among)
  · rintro ⟨⟨⟨name, opened⟩, found⟩, pass⟩
    refine ⟨name, opened, found, fun required among => ?_⟩
    exact (passes_symbol_iff named found among).mp (pass required among)

theorem failed_iff :
    failed (entries settled (.run libraries candidates)) ↔
      settled.status = .fail ∨ (Bindings.openFirst libraries candidates).1.isOk = false := by
  cases found : (LibrarySearch.run libraries candidates).found with
  | none =>
    exact iff_of_true (entries_of_not_found named libraries candidates found).2
      (.inr (Bindings.openFirst_isOk_of_not_found found))
  | some opened => rw [failed_of_found named found, ← Bool.not_eq_true, Bindings.openFirst_isOk_of_found found]

/-- If a library loads and its table fails, the message names the symbol of the first entry that failed. -/
theorem first_failed_symbol (loads : Passes (entries settled (.run libraries candidates)) "Native library")
    (fails : (Bindings.openFirst libraries candidates).1.isOk = false) :
    ∃ entry table, (entries settled (.run libraries candidates)).find? isFailedSymbol = some entry ∧
      table ∈ entries settled (.run libraries candidates) ∧ table.name = "Binding table" ∧ table.status = .fail ∧
      table.message = (DriverError.missingSymbol entry.name).message ∧
      (Bindings.openFirst libraries candidates).1 = .error (.missingSymbol entry.name) := by
  obtain ⟨⟨name, opened⟩, found⟩ := Option.isSome_iff_exists.mp ((passes_library_iff named).mp loads)
  have outcome := Bindings.openFirst_of_found found
  obtain ⟨titled, table⟩ := bindingTable_eq opened.symbols
  have first := find?_failed_symbol named found
  cases missing : EntryTable.firstMissing? opened.symbols with
  | none =>
    rw [missing] at outcome
    rw [outcome] at fails
    cases fails
  | some required =>
    rw [missing] at outcome table first
    have member := (mem_entries_of_found settled found _).mpr (.inr (.inr (.inr rfl)))
    refine ⟨symbol opened.symbols required, _, first, member, titled, table.1, ?_, ?_⟩
    · rw [(symbol_eq opened.symbols required).1]
      exact table.2
    · rw [(symbol_eq opened.symbols required).1]
      exact outcome

end Prediction

/-- A verification tells what opening the first library that loads gives, of the libraries that are asked for or else
of those in the configuration: the table's entry passes if it succeeds, just as the entries of the library and of all
symbols do, and else names the first symbol that is missing. The program ends well if besides the configuration's path
leads to nothing or to a file that is loaded. Verifying what is configured, it tells whether a host that only registers
its window system is given the table. -/
theorem verification_predicts (env : Environment) (path : Option String) (asked : List String) :
    let file := path.getD (Config.path env)
    let config := (Config.loadOrDefault env file).1
    let names := if asked = [] then config.libraryCandidates else asked
    let opening := (Bindings.openFirst env.openLibrary names).1
    let report := checks env path asked
    ((path = none → Config.Sought env file) ∧ Config.InForce env file config) ∧
    (Passes report "Binding table" ↔ opening.isOk) ∧
    (opening.isOk ↔ ∃ name library,
      names.findSome? (fun name => (env.openLibrary name).toOption.map (name, ·)) = some (name, library) ∧
        ∀ symbol ∈ RequiredSymbol.all, library.symbols.Exports symbol) ∧
    (opening.isOk ↔ Passes report "Native library" ∧ ∀ symbol ∈ RequiredSymbol.all, Passes report symbol.name) ∧
    (Passes report "Native library" → opening.isOk = false →
      ∃ entry table, report.find? isFailedSymbol = some entry ∧ table ∈ report ∧ table.name = "Binding table" ∧
        table.status = .fail ∧ table.message = "native symbol missing: " ++ entry.name ∧
        opening = .error (.missingSymbol entry.name)) ∧
    (∀ arguments json, CommandLine.Request.ofArguments arguments = .verify path asked json →
      ((CommandLine.run env arguments).status = 0 ↔
        opening.isOk ∧
          ((∃ reason, env.lookup file = .error reason) ∨ ∃ config, Config.Loads env file config))) ∧
    (path = none → asked = [] → ∀ done : HostCalls, done.registered?.isSome →
      (∀ earlier ∈ done, earlier.2 = env ∧ earlier.1.supplies? = none) →
      (((({} : Service).after done).request env driverVersion).result = true ↔ Passes report "Binding table")) := by
  intro file config names opening report
  have named := configuration_name env file
  have listed : report = entries (configuration env file).1 (.run env.openLibrary names) := by
    rw [show report = _ from checks_eq env path asked, candidates]
    simp only [List.isEmpty_iff, names]
    rfl
  have sought : path = none → Config.Sought env file := by
    rintro rfl
    exact Config.sought_path env
  have table := passes_bindingTable_iff named env.openLibrary names
  rw [listed]
  refine ⟨⟨sought, Config.inForce_loadOrDefault env file⟩, table, ?_, openFirst_isOk_iff_passes named _ _,
    first_failed_symbol named _ _, ?_, ?_⟩
  · simp only [← LibrarySearch.found_eq, EntryTable.exports_iff]
    exact Bindings.openFirst_isOk_iff
  · intro arguments json asks
    have ended : (CommandLine.run env arguments).status = if failed report then 1 else 0 := by
      rw [CommandLine.run, asks]
      rfl
    have fails := failed_iff named env.openLibrary names
    rw [← listed] at fails
    have zero : (CommandLine.run env arguments).status = 0 ↔ ¬ failed report := by
      rw [ended]
      cases failed report <;> simp
    rw [zero, fails, not_or, and_comm, Bool.not_eq_false, ← configuration_ne_fail_iff]
  · rintro rfl rfl done known same
    obtain ⟨windows, known⟩ := Option.isSome_iff_exists.mp known
    rw [table, Service.request_result_of_same done known same]
    rfl

/-- The system's configuration file is there, but may not be read. -/
def unreadableConfig : Environment where
  configVariable := none
  lookup path := if path = "/etc/xwsi/xwsi.toml" then .ok (.unreadable .permissionDenied) else .error .notFound
  openLibrary name := if name = "libvulkan.so" then .ok { symbols := fun _ => some 9 } else .error "missing"

/-- The program looks at that file and fails, but the defaults lead to a library, and a host gets its table. -/
theorem verification_predicts_of_unreadableConfig :
    let host : HostCalls := [(.register (some ⟨3, 4, 0⟩), unreadableConfig)]
    Config.path unreadableConfig = "/etc/xwsi/xwsi.toml" ∧
      Passes (checks unreadableConfig none []) "Binding table" ∧
      (CommandLine.run unreadableConfig [[118, 101, 114, 105, 102, 121]]).status ≠ 0 ∧
      ((({} : Service).after host).request unreadableConfig driverVersion).result = true := by
  intro host
  obtain ⟨_, table, _, _, _, ended, given⟩ := verification_predicts unreadableConfig none []
  have passes := table.mpr (by decide)
  have asks : CommandLine.Request.ofArguments [[118, 101, 114, 105, 102, 121]] = .verify none [] false := by
    decide +kernel
  refine ⟨by decide, passes, fun zero => ?_, (given rfl rfl host rfl (by simp [host])).mpr passes⟩
  rcases ((ended _ false asks).mp zero).2 with ⟨reason, absent⟩ | ⟨config, text, entries, found, _⟩
  · cases absent
  · cases found

end Verification
end SurfaceBridge
