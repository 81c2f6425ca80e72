import SurfaceBridge.Binding.Library

/-! When the native library opens. The first candidate that loads is the only one whose symbols count, and its table
is resolved whole, or refused for the first symbol that is missing. -/
namespace SurfaceBridge

namespace EntryTable

/-- The first symbol that is not exported, or exported as null. -/
def firstMissing? (source : SymbolSource) : Option RequiredSymbol :=
  RequiredSymbol.all.find? fun symbol => (address? source symbol).isNone

variable {source : SymbolSource} {symbol : RequiredSymbol} {α : Type}

theorem firstMissing?_eq_none_iff :
    firstMissing? source = none ↔ ∀ symbol ∈ RequiredSymbol.all, (address? source symbol).isSome := by
  simp [firstMissing?, Option.isSome_iff_ne_none]

/-- A missing symbol ends the look-ups. -/
theorem run_ask_of_missing (missing : address? source symbol = none) (next : UInt64 → Lookup α)
    (asked : List RequiredSymbol) :
    ((ask source symbol >>= next).run.run asked).run = (.error symbol, asked ++ [symbol]) := by
  simp only [ask, missing]
  rfl

theorem run_ask_of_exported {address : UInt64} (exported : address? source symbol = some address)
    (next : UInt64 → Lookup α) (asked : List RequiredSymbol) :
    ((ask source symbol >>= next).run.run asked).run = ((next address).run.run (asked ++ [symbol])).run := by
  simp only [ask, exported]
  rfl

/-- The addresses that a source gives, with null for what it lacks. -/
def ofSource (source : SymbolSource) : EntryTable where
  createInstance := (address? source .createInstance).getD 0
  createXlibSurface := (address? source .createXlibSurface).getD 0
  destroyInstance := (address? source .destroyInstance).getD 0
  destroySurface := (address? source .destroySurface).getD 0
  getDeviceProcAddr := (address? source .getDeviceProcAddr).getD 0
  getInstanceProcAddr := (address? source .getInstanceProcAddr).getD 0
  xlibPresentationSupport := (address? source .xlibPresentationSupport).getD 0

/-- The look-ups ask for these symbols in order: they end at the first one that is missing, and give the value if none
is. -/
def Asks (source : SymbolSource) (symbols : List RequiredSymbol) (lookups : Lookup α) (value : α) : Prop :=
  ∀ asked, (lookups.run.run asked).run.1 =
    match symbols.find? fun symbol => (address? source symbol).isNone with
    | some symbol => .error symbol
    | none => .ok value

theorem Asks.ask {symbols : List RequiredSymbol} {next : UInt64 → Lookup α} {value : α}
    (rest : ∀ address, address? source symbol = some address → Asks source symbols (next address) value) :
    Asks source (symbol :: symbols) (ask source symbol >>= next) value := by
  intro asked
  cases exported : address? source symbol with
  | none =>
    rw [run_ask_of_missing exported, List.find?_cons_of_pos (by rw [exported]; rfl)]
  | some address =>
    rw [run_ask_of_exported exported, rest address exported,
      List.find?_cons_of_neg (by rw [exported]; exact Bool.false_ne_true)]

theorem lookup_asks (source : SymbolSource) :
    Asks source RequiredSymbol.all (lookup source) (ofSource source) := by
  -- One step for each field of the table, in the order of the look-ups.
  refine .ask fun a ha => .ask fun b hb => .ask fun c hc => .ask fun d hd => .ask fun e he => .ask fun f hf =>
    .ask fun g hg => fun asked => ?_
  simp only [ofSource, ha, hb, hc, hd, he, hf, hg, Option.getD_some]
  rfl

theorem resolve_eq (source : SymbolSource) :
    (resolve source).1 = match firstMissing? source with
      | some symbol => .error (.missingSymbol symbol.name)
      | none => .ok (ofSource source) := by
  have asked := lookup_asks source []
  simp only [resolve, asked, firstMissing?]
  cases RequiredSymbol.all.find? _ <;> rfl

end EntryTable

namespace LibrarySearch

theorem found_eq (libraries : LibraryEnv) (candidates : List String) :
    (run libraries candidates).found =
      candidates.findSome? fun name => (libraries name).toOption.map fun library => (name, library) := by
  induction candidates with
  | nil => rfl
  | cons name candidates ih =>
    rw [run, List.findSome?_cons]
    cases libraries name with
    | ok library => rfl
    | error reason => exact ih

end LibrarySearch

namespace Bindings

variable {libraries : LibraryEnv} {candidates : List String}

/-- The library that loads is the one that counts: no other one is tried for what it lacks. -/
theorem openFirst_of_found {name : String} {library : Library}
    (found : (LibrarySearch.run libraries candidates).found = some (name, library)) :
    (openFirst libraries candidates).1 = match EntryTable.firstMissing? library.symbols with
      | some symbol => .error (.missingSymbol symbol.name)
      | none => .ok { table := .ofSource library.symbols, ownsLibrary := true } := by
  have loaded : (LibrarySearch.run libraries candidates).library = .ok library := by
    rw [LibrarySearch.library, found]
  simp only [openFirst, loaded, Except.bind, bind, EntryTable.resolve_eq]
  cases EntryTable.firstMissing? library.symbols <;> rfl

theorem openFirst_of_not_found (lost : (LibrarySearch.run libraries candidates).found = none) :
    ∃ reason, (openFirst libraries candidates).1 = .error (.libraryUnavailable reason) := by
  obtain ⟨reason, unavailable⟩ : ∃ reason,
      (LibrarySearch.run libraries candidates).library = .error (.libraryUnavailable reason) := by
    rw [LibrarySearch.library, lost]
    cases (LibrarySearch.run libraries candidates).failures.getLast? <;> exact ⟨_, rfl⟩
  refine ⟨reason, ?_⟩
  simp only [openFirst, unavailable]
  rfl

theorem openFirst_isOk_of_found {name : String} {library : Library}
    (found : (LibrarySearch.run libraries candidates).found = some (name, library)) :
    (openFirst libraries candidates).1.isOk ↔ EntryTable.firstMissing? library.symbols = none := by
  rw [openFirst_of_found found]
  cases EntryTable.firstMissing? library.symbols <;> simp [Except.isOk, Except.toBool]

theorem openFirst_isOk_of_not_found (lost : (LibrarySearch.run libraries candidates).found = none) :
    (openFirst libraries candidates).1.isOk = false := by
  obtain ⟨reason, unavailable⟩ := openFirst_of_not_found lost
  rw [unavailable]
  rfl

theorem openFirst_isOk_iff :
    (openFirst libraries candidates).1.isOk ↔ ∃ name library,
      (LibrarySearch.run libraries candidates).found = some (name, library) ∧
        ∀ symbol ∈ RequiredSymbol.all, (EntryTable.address? library.symbols symbol).isSome := by
  cases found : (LibrarySearch.run libraries candidates).found with
  | none => simp [openFirst_isOk_of_not_found found]
  | some opened =>
    rw [openFirst_isOk_of_found found, EntryTable.firstMissing?_eq_none_iff]
    constructor
    · exact fun exported => ⟨opened.1, opened.2, rfl, exported⟩
    · rintro ⟨_, _, same, exported⟩
      cases same
      exact exported

end Bindings
end SurfaceBridge
