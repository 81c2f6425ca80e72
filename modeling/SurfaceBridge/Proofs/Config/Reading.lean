import SurfaceBridge.Config.File
import SurfaceBridge.Proofs.Text.Encoding
import SurfaceBridge.Proofs.Toml.Keys

/-! What a configuration file gives, and where it is looked for. Each section gives its field or nothing, whatever else
the file holds, and a fault anywhere in the file leaves the whole configuration at its defaults. -/
namespace SurfaceBridge.Config

/-- What a table holds behind a name. -/
def valueOf (entries : List Toml.Entry) (name : String) : Option Toml.Value :=
  (Toml.find? entries name).map (·.node.value)

/-- What a section gives as its field: a table the value behind the field's name, a sequence its first item, a date
nothing. Other values are no sections. -/
inductive Gives (name : String) : Option Toml.Value → Option Toml.Value → Prop where
  | absent : Gives name none none
  | table (kind : Toml.TableKind) (entries : List Toml.Entry) :
    Gives name (some (.table kind entries)) (valueOf entries name)
  | array (items : List Toml.Node) : Gives name (some (.array items)) (items.head?.map (·.value))
  | tables (items : List Toml.Node) : Gives name (some (.tables items)) (items.head?.map (·.value))
  | moment : Gives name (some .moment) none

def IsText (value : Toml.Value) (text : String) : Prop := value = .string text

inductive IsTexts : Toml.Value → List String → Prop where
  | array {items : List Toml.Node} {texts : List String} (each : items.map (·.value) = texts.map .string) :
    IsTexts (.array items) texts
  | tables {items : List Toml.Node} {texts : List String} (each : items.map (·.value) = texts.map .string) :
    IsTexts (.tables items) texts

/-- The section gives no field and there is nothing to read, or it gives one that holds what is read. -/
def Reads {α : Type} (name : String) (holds : Toml.Value → α → Prop) (part : Option Toml.Value) (given : Option α) :
    Prop :=
  ∃ field, Gives name part field ∧ Option.Rel holds field given

/-- The configuration that a document's table stands for. -/
structure Configures (entries : List Toml.Entry) (config : Config) : Prop where
  candidates : ∃ given, Reads "library_candidates" IsTexts (valueOf entries "native") given ∧
    config.libraryCandidates = given.getD ["libvulkan.so.1", "libvulkan.so"]
  filter : ∃ given, Reads "filter" IsText (valueOf entries "log") given ∧ config.logFilter = given.getD "warn"

/-- Both sections of the table can be read. -/
structure Readable (entries : List Toml.Entry) : Prop where
  native : ∃ given, Reads "library_candidates" IsTexts (valueOf entries "native") given
  log : ∃ given, Reads "filter" IsText (valueOf entries "log") given

theorem readable_iff {entries : List Toml.Entry} : Readable entries ↔ ∃ config, Configures entries config := by
  constructor
  · rintro ⟨⟨candidates, native⟩, ⟨filter, log⟩⟩
    exact ⟨⟨candidates.getD ["libvulkan.so.1", "libvulkan.so"], filter.getD "warn"⟩,
      ⟨candidates, native, rfl⟩, ⟨filter, log, rfl⟩⟩
  · rintro ⟨config, ⟨candidates, native, -⟩, ⟨filter, log, -⟩⟩
    exact ⟨⟨candidates, native⟩, ⟨filter, log⟩⟩

section Sections
variable {α : Type} {name : String} {holds : Toml.Value → α → Prop} {given : Option α}

@[simp] theorem reads_none_iff : Reads name holds none given ↔ given = none := by
  constructor
  · rintro ⟨_, ⟨⟩, ⟨⟩⟩
    rfl
  · rintro rfl
    exact ⟨none, .absent, .none⟩

/-- A section gives one field or none. -/
theorem Gives.unique {part field other : Option Toml.Value} (gives : Gives name part field)
    (again : Gives name part other) : field = other := by
  cases gives <;> cases again <;> rfl

end Sections

section Entries
variable {entries : List Toml.Entry} {entry : Toml.Entry} {name : String}

theorem valueOf_cons : valueOf (entry :: entries) name =
    if entry.key = name then some entry.node.value else valueOf entries name := by
  by_cases same : entry.key = name <;> simp [valueOf, Toml.find?, same]

theorem valueOf_eq_none (missing : name ∉ Toml.keys entries) : valueOf entries name = none := by
  rw [valueOf, Toml.find?_eq_none_iff.mpr missing, Option.map_none]

end Entries

namespace Located
variable {located part : Located}

theorem text_eq_ok_iff {text : String} : located.text = .ok text ↔ IsText located.value text := by
  rw [Located.text, IsText]
  split
  · rename_i value
    rw [value]
    simp
  · rename_i other
    exact ⟨nofun, fun same => (other text same).elim⟩

private theorem mapM_text_eq_ok_iff {items : List Toml.Node} {texts : List String} :
    (items.mapM fun item => (located.ofItem item).text) = .ok texts ↔
      items.map (·.value) = texts.map .string := by
  induction items generalizing texts with
  | nil => cases texts <;> simp [pure, Except.pure]
  | cons item items ih =>
    rw [List.mapM_cons]
    constructor
    · intro read
      obtain ⟨text, first, read⟩ := Toml.exists_of_bind_eq_ok read
      obtain ⟨rest, others, same⟩ := Toml.exists_of_bind_eq_ok read
      cases same
      rw [List.map_cons, List.map_cons, ih.mp others]
      exact congrArg (· :: _) (text_eq_ok_iff.mp first)
    · intro each
      obtain ⟨text, rest, rfl⟩ : ∃ text rest, texts = text :: rest := by
        cases texts with
        | nil => cases each
        | cons text rest => exact ⟨text, rest, rfl⟩
      obtain ⟨first, others⟩ := List.cons.inj each
      have read : (located.ofItem item).text = .ok text := text_eq_ok_iff.mpr first
      rw [read, ih.mpr others]
      rfl

theorem texts_eq_ok_iff {texts : List String} : located.texts = .ok texts ↔ IsTexts located.value texts := by
  rw [Located.texts]
  split
  · rename_i items value
    rw [value, mapM_text_eq_ok_iff]
    exact ⟨.array, fun | .array each => each⟩
  · rename_i items value
    rw [value, mapM_text_eq_ok_iff]
    exact ⟨.tables, fun | .tables each => each⟩
  · rename_i noArray noTables
    refine ⟨nofun, fun is => ?_⟩
    cases value : located.value with
    | array items => exact (noArray items value).elim
    | tables items => exact (noTables items value).elim
    | _ =>
      rw [value] at is
      cases is

theorem map_value_ofEntry {entries : List Toml.Entry} {name : String} :
    ((Toml.find? entries name).map ofEntry).map (·.value) = valueOf entries name := by
  rw [Option.map_map]
  rfl

theorem map_value_ofItem {items : List Toml.Node} :
    (items.head?.map part.ofItem).map (·.value) = items.head?.map (·.value) := by
  rw [Option.map_map]
  rfl

theorem field?_eq_ok_iff {name : String} {expected : Expected} {shown : Option Toml.Value} :
    (∃ field, part.field? name expected = .ok field ∧ field.map (·.value) = shown) ↔
      Gives name (some part.value) shown := by
  rw [field?]
  constructor
  · rintro ⟨field, read, rfl⟩
    split at read
    · rename_i kind entries value
      cases read
      rw [value, map_value_ofEntry]
      exact .table kind entries
    · rename_i items value
      cases read
      rw [value, map_value_ofItem]
      exact .array items
    · rename_i items value
      cases read
      rw [value, map_value_ofItem]
      exact .tables items
    · rename_i value
      cases read
      rw [value]
      exact .moment
    · cases read
  · intro gives
    generalize part.value = value at gives
    cases gives with
    | table kind entries => exact ⟨_, rfl, map_value_ofEntry⟩
    | array items => exact ⟨_, rfl, map_value_ofItem⟩
    | tables items => exact ⟨_, rfl, map_value_ofItem⟩
    | moment => exact ⟨_, rfl, rfl⟩

/-- The field of a section, read if the section gives it. -/
def given {α : Type} (part : Located) (name : String) (expected : Expected) (read : Located → Except Mismatch α) :
    Except Mismatch (Option α) := do
  (← part.field? name expected).mapM read

theorem given_eq_ok_iff {α : Type} {name : String} {expected : Expected} {read : Located → Except Mismatch α}
    {holds : Toml.Value → α → Prop} (reads : ∀ located value, read located = .ok value ↔ holds located.value value)
    {given : Option α} : part.given name expected read = .ok given ↔ Reads name holds (some part.value) given := by
  have optional (field : Option Located) :
      field.mapM read = .ok given ↔ Option.Rel holds (field.map (·.value)) given := by
    cases field with
    | none =>
      constructor
      · rintro ⟨⟩
        exact .none
      · rintro ⟨⟩
        rfl
    | some field =>
      constructor
      · intro done
        obtain ⟨value, first, same⟩ := Toml.exists_of_bind_eq_ok done
        cases same
        exact .some ((reads field value).mp first)
      · rintro (⟨first⟩ | _)
        exact congrArg (some <$> ·) ((reads field _).mpr first)
  constructor
  · intro done
    obtain ⟨field, gives, read⟩ := Toml.exists_of_bind_eq_ok done
    exact ⟨_, field?_eq_ok_iff.mp ⟨field, gives, rfl⟩, (optional field).mp read⟩
  · rintro ⟨_, gives, holds⟩
    obtain ⟨field, gives, rfl⟩ := field?_eq_ok_iff.mpr gives
    rw [Located.given, gives]
    exact (optional field).mpr holds

end Located

section Fold
variable {entries : List Toml.Entry} {entry : Toml.Entry} {config next : Config}

theorem readEntry_native (named : entry.key = "native") : readEntry config entry =
    (fun given => { config with libraryCandidates := given.getD config.libraryCandidates }) <$>
      (Located.ofEntry entry).given "library_candidates" .nativeSection Located.texts := by
  rw [readEntry, if_pos named, Located.given]
  cases (Located.ofEntry entry).field? "library_candidates" .nativeSection with
  | error mismatch => rfl
  | ok field =>
    cases field with
    | none => rfl
    | some field =>
      show (do return { config with libraryCandidates := ← field.texts }) = _ <$> (some <$> field.texts)
      cases field.texts <;> rfl

theorem readEntry_log (named : entry.key = "log") : readEntry config entry =
    (fun given => { config with logFilter := given.getD config.logFilter }) <$>
      (Located.ofEntry entry).given "filter" .logSection Located.text := by
  rw [readEntry, if_neg (by simp [named]), if_pos named, Located.given]
  cases (Located.ofEntry entry).field? "filter" .logSection with
  | error mismatch => rfl
  | ok field =>
    cases field with
    | none => rfl
    | some field =>
      show (do return { config with logFilter := ← field.text }) = _ <$> (some <$> field.text)
      cases field.text <;> rfl

theorem readEntry_other (native : entry.key ≠ "native") (log : entry.key ≠ "log") :
    readEntry config entry = .ok config := by
  rw [readEntry, if_neg native, if_neg log]
  rfl

private theorem map_bind_eq_ok_iff {ε α β γ : Type} {first : Except ε α} {f : α → β} {rest : β → Except ε γ}
    {result : γ} : f <$> first >>= rest = .ok result ↔ ∃ value, first = .ok value ∧ rest (f value) = .ok result := by
  cases first with
  | error e => exact ⟨nofun, nofun⟩
  | ok value => exact ⟨fun done => ⟨value, rfl, done⟩, fun | ⟨_, .refl _, done⟩ => done⟩

/-- Reading every entry in turn finds each section once, and changes its field if the section gives one. -/
theorem foldlM_readEntry_eq_ok_iff (distinct : (Toml.keys entries).Nodup) :
    entries.foldlM readEntry config = .ok next ↔
      ∃ candidates filter, Reads "library_candidates" IsTexts (valueOf entries "native") candidates ∧
        Reads "filter" IsText (valueOf entries "log") filter ∧
        next = ⟨candidates.getD config.libraryCandidates, filter.getD config.logFilter⟩ := by
  induction entries generalizing config with
  | nil =>
    have missing (name : String) : valueOf [] name = none := rfl
    simp only [missing, reads_none_iff]
    constructor
    · rintro ⟨⟩
      exact ⟨none, none, rfl, rfl, rfl⟩
    · rintro ⟨_, _, rfl, rfl, rfl⟩
      rfl
  | cons entry entries ih =>
    obtain ⟨fresh, distinct⟩ := List.nodup_cons.mp distinct
    rw [List.foldlM_cons, valueOf_cons, valueOf_cons]
    -- A section that is found is not found again: the other entries have other keys.
    by_cases native : entry.key = "native"
    · have log : entry.key ≠ "log" := by simp [native]
      have once : valueOf entries "native" = none := valueOf_eq_none (native ▸ fresh)
      simp only [readEntry_native native, if_pos native, if_neg log, map_bind_eq_ok_iff, ih distinct, once,
        reads_none_iff, Located.given_eq_ok_iff fun _ _ => Located.texts_eq_ok_iff]
      constructor
      · rintro ⟨candidates, first, _, filter, rfl, second, rfl⟩
        exact ⟨candidates, filter, first, second, rfl⟩
      · rintro ⟨candidates, filter, first, second, rfl⟩
        exact ⟨candidates, first, none, filter, rfl, second, rfl⟩
    · by_cases log : entry.key = "log"
      · have once : valueOf entries "log" = none := valueOf_eq_none (log ▸ fresh)
        simp only [readEntry_log log, if_neg native, if_pos log, map_bind_eq_ok_iff, ih distinct, once,
          reads_none_iff, Located.given_eq_ok_iff fun _ _ => Located.text_eq_ok_iff]
        constructor
        · rintro ⟨filter, second, candidates, _, first, rfl, rfl⟩
          exact ⟨candidates, filter, first, second, rfl⟩
        · rintro ⟨candidates, filter, first, second, rfl⟩
          exact ⟨filter, second, candidates, none, first, rfl, rfl⟩
      · rw [readEntry_other native log, if_neg native, if_neg log]
        exact ih distinct

theorem ofEntries_eq_ok_iff (distinct : (Toml.keys entries).Nodup) :
    ofEntries entries = .ok config ↔ Configures entries config := by
  rw [ofEntries, foldlM_readEntry_eq_ok_iff distinct]
  constructor
  · rintro ⟨candidates, filter, native, log, rfl⟩
    exact ⟨⟨candidates, native, rfl⟩, ⟨filter, log, rfl⟩⟩
  · rintro ⟨⟨candidates, native, first⟩, ⟨filter, log, second⟩⟩
    refine ⟨candidates, filter, native, log, ?_⟩
    cases config
    cases first
    cases second
    rfl

end Fold

section Files
variable {text : String} {entries : List Toml.Entry} {config : Config} {env : Environment} {path : String}

theorem parse_of_document (read : Toml.document? text = .ok entries) :
    parse text = (ofEntries entries).mapError (.mistyped text) := by
  rw [parse, read]

theorem parse_eq_ok_iff (read : Toml.document? text = .ok entries) :
    parse text = .ok config ↔ Configures entries config := by
  rw [parse_of_document read, ← ofEntries_eq_ok_iff (Toml.document_nodup read)]
  cases ofEntries entries <;> simp [Except.mapError]

/-- What is wrong with a file that gives no configuration. -/
inductive Fault (env : Environment) (path : String) : Prop where
  | unreadable {reason : FileError} (refused : env.read path = .error reason)
  | notText {content : List UInt8} (found : env.read path = .ok content)
    (foreign : ∀ text : String, content ≠ text.toUTF8.data.toList)
  | malformed {text : String} {position : Nat} (found : env.read path = .ok text.toUTF8.data.toList)
    (stopped : Toml.document? text = .error position)
  | mistyped {text : String} {entries : List Toml.Entry} (found : env.read path = .ok text.toUTF8.data.toList)
    (read : Toml.document? text = .ok entries) (strange : ¬ Readable entries)

theorem load_of_foreign {content : List UInt8} (found : env.read path = .ok content)
    (foreign : Text.decode? content = none) : load env path = .error (.notText path) := by
  simp only [load, found, foreign]

theorem load_of_text (found : env.read path = .ok text.toUTF8.data.toList) : load env path = parse text := by
  have decoded : Text.decode? text.toUTF8.data.toList = some text := Text.decode?_eq_some_iff.mpr rfl
  simp only [load, found, decoded]

/-- A file gives a configuration or has a fault. -/
theorem load_cases (env : Environment) (path : String) :
    Fault env path ∧ (∃ e, load env path = .error e) ∨
      ∃ text entries config, env.read path = .ok text.toUTF8.data.toList ∧ Toml.document? text = .ok entries ∧
        Configures entries config ∧ load env path = .ok config := by
  cases found : env.read path with
  | error reason =>
    refine .inl ⟨.unreadable found, .unreadable path reason, ?_⟩
    rw [load, found]
  | ok content =>
    cases decoded : Text.decode? content with
    | none =>
      refine .inl ⟨.notText found fun text same => ?_, .notText path, load_of_foreign found decoded⟩
      rw [Text.decode?_eq_some_iff.mpr same] at decoded
      cases decoded
    | some text =>
      obtain rfl := Text.decode?_eq_some_iff.mp decoded
      cases read : Toml.document? text with
      | error position =>
        refine .inl ⟨.malformed found read, .malformed text position, ?_⟩
        rw [load_of_text found, parse, read]
      | ok entries =>
        cases given : ofEntries entries with
        | error mismatch =>
          refine .inl ⟨.mistyped found read fun readable => ?_, .mistyped text mismatch, ?_⟩
          · obtain ⟨config, configures⟩ := readable_iff.mp readable
            rw [(ofEntries_eq_ok_iff (Toml.document_nodup read)).mpr configures] at given
            cases given
          · rw [load_of_text found, parse_of_document read, given]
            rfl
        | ok config =>
          have configures := (ofEntries_eq_ok_iff (Toml.document_nodup read)).mp given
          refine .inr ⟨text, entries, config, rfl, read, configures, ?_⟩
          rw [load_of_text found, (parse_eq_ok_iff read).mpr configures]

theorem load_eq_ok_iff : load env path = .ok config ↔ ∃ text entries,
    env.read path = .ok text.toUTF8.data.toList ∧ Toml.document? text = .ok entries ∧ Configures entries config := by
  constructor
  · intro loaded
    rcases load_cases env path with ⟨_, e, refused⟩ | ⟨text, entries, other, found, read, configures, again⟩
    · rw [loaded] at refused
      cases refused
    · rw [loaded] at again
      cases again
      exact ⟨text, entries, found, read, configures⟩
  · rintro ⟨text, entries, found, read, configures⟩
    rw [load_of_text found, (parse_eq_ok_iff read).mpr configures]

theorem fault_iff : Fault env path ↔ ∃ e, load env path = .error e := by
  constructor
  · intro fault
    cases loaded : load env path with
    | error e => exact ⟨e, rfl⟩
    | ok config =>
      obtain ⟨text, entries, found, read, configures⟩ := load_eq_ok_iff.mp loaded
      have same {other : String} (again : env.read path = .ok other.toUTF8.data.toList) : text = other := by
        rw [found] at again
        exact Option.some.inj ((Text.decode?_eq_some_iff.mpr rfl).symm.trans
          (Text.decode?_eq_some_iff.mpr (Except.ok.inj again)))
      cases fault with
      | unreadable refused =>
        rw [found] at refused
        cases refused
      | notText again foreign =>
        rw [found] at again
        exact (foreign text (Except.ok.inj again).symm).elim
      | malformed again stopped =>
        rw [← same again, read] at stopped
        cases stopped
      | mistyped again another strange =>
        rw [← same again, read] at another
        cases another
        exact (strange (readable_iff.mpr ⟨config, configures⟩)).elim
  · rintro ⟨e, refused⟩
    rcases load_cases env path with ⟨fault, _⟩ | ⟨_, _, config, _, _, _, loaded⟩
    · exact fault
    · rw [refused] at loaded
      cases loaded

theorem loadOrDefault_of_ok (loaded : load env path = .ok config) : loadOrDefault env path = (config, []) := by
  rw [loadOrDefault, loaded]

theorem loadOrDefault_of_error {e : ConfigError} (refused : load env path = .error e) :
    loadOrDefault env path = ({}, [.defaultConfiguration e.driverError]) := by
  rw [loadOrDefault, refused]

theorem load_of_absent {reason : FileError} (absent : env.lookup path = .error reason) :
    load env path = .error (.unreadable path reason) := by
  rw [load, Environment.read, absent]
  rfl

/-- The path leads to a file with a document that configures. -/
def Loads (env : Environment) (path : String) (config : Config) : Prop :=
  ∃ text entries, env.lookup path = .ok (.file text.toUTF8.data.toList) ∧ Toml.document? text = .ok entries ∧
    Configures entries config

/-- What is in force: what the file says, or else the defaults. -/
inductive InForce (env : Environment) (path : String) : Config → Prop where
  | loaded {config : Config} (loads : Loads env path config) : InForce env path config
  | defaults (useless : ∀ config, ¬ Loads env path config) :
    InForce env path ⟨["libvulkan.so.1", "libvulkan.so"], "warn"⟩

/-- Only files have content. -/
theorem read_eq_ok_iff {content : List UInt8} :
    env.read path = .ok content ↔ env.lookup path = .ok (.file content) := by
  unfold Environment.read
  cases env.lookup path with
  | error reason => constructor <;> rintro ⟨⟩
  | ok node => cases node <;> constructor <;> rintro ⟨⟩ <;> rfl

theorem loads_iff : Loads env path config ↔ load env path = .ok config := by
  simp only [load_eq_ok_iff, read_eq_ok_iff, Loads]

theorem inForce_loadOrDefault (env : Environment) (path : String) : InForce env path (loadOrDefault env path).1 := by
  cases loaded : load env path with
  | ok config =>
    rw [loadOrDefault_of_ok loaded]
    exact .loaded (loads_iff.mpr loaded)
  | error e =>
    rw [loadOrDefault_of_error loaded]
    refine .defaults fun config loads => ?_
    rw [loads_iff.mp loads] at loaded
    cases loaded

end Files

section Paths
variable {env : Environment}

/-- Where a configuration is looked for: where the variable says, if it holds a text that is not empty; else at the
system's path, if that leads to anything; else at the local path. -/
inductive Sought (env : Environment) : String → Prop where
  | named {text : String} (set : env.configVariable = some text.toUTF8.data.toList) (useful : text ≠ "") :
    Sought env text
  | system {node : FileNode} (useless : ∀ text, env.configVariable = some text.toUTF8.data.toList → text = "")
    (there : env.lookup "/etc/xwsi/xwsi.toml" = .ok node) : Sought env "/etc/xwsi/xwsi.toml"
  | beside {reason : FileError} (useless : ∀ text, env.configVariable = some text.toUTF8.data.toList → text = "")
    (absent : env.lookup "/etc/xwsi/xwsi.toml" = .error reason) : Sought env "xwsi.toml"

theorem sought_fallback (useless : ∀ text, env.configVariable = some text.toUTF8.data.toList → text = "") :
    Sought env (path.fallback env) := by
  unfold path.fallback Environment.pathExists
  cases found : env.lookup systemPath with
  | ok node => exact .system useless found
  | error reason => exact .beside useless found

theorem sought_path (env : Environment) : Sought env (path env) := by
  have setting (text : String) : env.configVariable.bind Text.decode? = some text ↔
      env.configVariable = some text.toUTF8.data.toList := by
    cases env.configVariable with
    | none => simp
    | some bytes => simp [Text.decode?_eq_some_iff]
  unfold path
  cases read : env.configVariable.bind Text.decode? with
  | none =>
    refine sought_fallback fun text set => ?_
    rw [(setting text).mpr set] at read
    cases read
  | some named =>
    have set := (setting named).mp read
    dsimp only
    split
    · rename_i blank
      refine sought_fallback fun text again => ?_
      rw [(setting text).mpr again] at read
      cases read
      exact String.isEmpty_iff.mp blank
    · rename_i useful
      exact .named set fun blank => useful (String.isEmpty_iff.mpr blank)

end Paths

section Independence
variable {entries others : List Toml.Entry} {config other : Config}

theorem Reads.unique {α : Type} {name : String} {holds : Toml.Value → α → Prop} {part part' : Option Toml.Value}
    {given given' : Option α} (single : ∀ value first second, holds value first → holds value second → first = second)
    (same : ∀ field, Gives name part field → Gives name part' field) (reads : Reads name holds part given)
    (again : Reads name holds part' given') : given = given' := by
  obtain ⟨field, gives, holds⟩ := reads
  obtain ⟨field', gives', holds'⟩ := again
  obtain rfl := (same field gives).unique gives'
  cases holds with
  | none =>
    cases holds'
    rfl
  | some first =>
    obtain ⟨second⟩ := holds'
    rw [single _ _ _ first second]

theorem IsText.unique (value : Toml.Value) (first second : String) (holds : IsText value first)
    (again : IsText value second) : first = second :=
  Toml.Value.string.inj (holds.symm.trans again)

theorem IsTexts.unique (value : Toml.Value) (first second : List String) (holds : IsTexts value first)
    (again : IsTexts value second) : first = second := by
  have inject := List.map_injective_iff.mpr fun _ _ => Toml.Value.string.inj
  cases holds with
  | array each =>
    obtain ⟨each'⟩ := again
    exact inject (each.symm.trans each')
  | tables each =>
    obtain _ | ⟨each'⟩ := again
    exact inject (each.symm.trans each')

theorem Configures.candidates_eq (configures : Configures entries config) (again : Configures others other)
    (same : ∀ field, Gives "library_candidates" (valueOf entries "native") field →
      Gives "library_candidates" (valueOf others "native") field) :
    config.libraryCandidates = other.libraryCandidates := by
  obtain ⟨given, reads, shown⟩ := configures.candidates
  obtain ⟨given', reads', shown'⟩ := again.candidates
  rw [shown, shown', reads.unique IsTexts.unique same reads']

theorem Configures.filter_eq (configures : Configures entries config) (again : Configures others other)
    (same : ∀ field, Gives "filter" (valueOf entries "log") field → Gives "filter" (valueOf others "log") field) :
    config.logFilter = other.logFilter := by
  obtain ⟨given, reads, shown⟩ := configures.filter
  obtain ⟨given', reads', shown'⟩ := again.filter
  rw [shown, shown', reads.unique IsText.unique same reads']

end Independence

/-- A document gives a configuration exactly if both of its sections can be read, each field is read from its own
section alone, and a file with any fault gives an error and all defaults. -/
theorem fields_or_defaults :
    (∀ entries : List Toml.Entry, (Toml.keys entries).Nodup →
      ((∃ config, ofEntries entries = .ok config) ↔ Readable entries) ∧
      ∀ config, ofEntries entries = .ok config ↔ Configures entries config) ∧
    (∀ entries others config other, Configures entries config → Configures others other →
      ((∀ field, Gives "library_candidates" (valueOf entries "native") field →
          Gives "library_candidates" (valueOf others "native") field) →
        config.libraryCandidates = other.libraryCandidates) ∧
      ((∀ field, Gives "filter" (valueOf entries "log") field → Gives "filter" (valueOf others "log") field) →
        config.logFilter = other.logFilter)) ∧
    (∀ text, match Toml.document? text with
      | .error position => parse text = .error (.malformed text position)
      | .ok entries => (Toml.keys entries).Nodup ∧
        ((∃ config, parse text = .ok config) ↔ Readable entries) ∧
        ∀ config, parse text = .ok config ↔ Configures entries config) ∧
    ∀ env path,
      (∀ config, load env path = .ok config ↔ ∃ text entries, env.read path = .ok text.toUTF8.data.toList ∧
        Toml.document? text = .ok entries ∧ Configures entries config) ∧
      (Fault env path ↔ ∃ e, load env path = .error e) ∧
      match load env path with
      | .ok config => loadOrDefault env path = (config, [])
      | .error e => (∃ reason, e.driverError = .config reason) ∧ loadOrDefault env path =
        (⟨["libvulkan.so.1", "libvulkan.so"], "warn"⟩, [.defaultConfiguration e.driverError]) := by
  refine ⟨fun entries distinct => ⟨?_, fun config => ofEntries_eq_ok_iff distinct⟩,
    fun entries others config other configures again =>
      ⟨configures.candidates_eq again, configures.filter_eq again⟩,
    fun text => ?_, fun env path => ⟨fun config => load_eq_ok_iff, fault_iff, ?_⟩⟩
  · rw [readable_iff]
    exact exists_congr fun config => ofEntries_eq_ok_iff distinct
  · cases read : Toml.document? text with
    | error position =>
      show parse text = _
      rw [parse, read]
    | ok entries =>
      refine ⟨Toml.document_nodup read, ?_, fun config => parse_eq_ok_iff read⟩
      rw [readable_iff]
      exact exists_congr fun config => parse_eq_ok_iff read
  · cases loaded : load env path with
    | ok config => exact loadOrDefault_of_ok loaded
    | error e => exact ⟨⟨e.text, rfl⟩, loadOrDefault_of_error loaded⟩

/-- Sections that are a sequence, with an item too many, and a date. -/
def shortSections : List Toml.Entry :=
  [⟨"native", ⟨0, 6⟩, ⟨.array [⟨.array [⟨.string "libnative.so", none⟩], none⟩, ⟨.integer 5, none⟩], none⟩⟩,
    ⟨"log", ⟨7, 10⟩, ⟨.moment, none⟩⟩]

/-- Sections that are tables, with keys that mean nothing. -/
def longSections : List Toml.Entry :=
  [⟨"colour", ⟨0, 6⟩, ⟨.boolean true, none⟩⟩,
    ⟨"log", ⟨7, 10⟩, ⟨.table .explicit [⟨"filter", ⟨11, 17⟩, ⟨.string "trace", none⟩⟩], none⟩⟩,
    ⟨"native", ⟨18, 24⟩, ⟨.table .inline [⟨"filter", ⟨25, 31⟩, ⟨.integer 1, none⟩⟩,
      ⟨"library_candidates", ⟨32, 50⟩, ⟨.array [⟨.string "libnative.so", none⟩], none⟩⟩], none⟩⟩]

theorem fields_or_defaults_short_and_long :
    (Toml.keys shortSections).Nodup ∧ ofEntries shortSections = .ok ⟨["libnative.so"], "warn"⟩ ∧
      (Toml.keys longSections).Nodup ∧ ofEntries longSections = .ok ⟨["libnative.so"], "trace"⟩ ∧
      (⟨["libnative.so"], "warn"⟩ : Config).libraryCandidates =
        (⟨["libnative.so"], "trace"⟩ : Config).libraryCandidates := by
  have gives (items : List Toml.Node) :
      Gives "library_candidates" (some (.array items)) (items.head?.map (·.value)) := .array items
  have short : Configures shortSections ⟨["libnative.so"], "warn"⟩ :=
    ⟨⟨some ["libnative.so"], ⟨_, gives _, .some (.array rfl)⟩, rfl⟩, ⟨none, ⟨none, .moment, .none⟩, rfl⟩⟩
  have long : Configures longSections ⟨["libnative.so"], "trace"⟩ :=
    ⟨⟨some ["libnative.so"], ⟨_, .table _ _, .some (.array rfl)⟩, rfl⟩,
      ⟨some "trace", ⟨_, .table _ _, .some rfl⟩, rfl⟩⟩
  have distinct : (Toml.keys shortSections).Nodup := by decide
  have distinct' : (Toml.keys longSections).Nodup := by decide
  refine ⟨distinct, ((fields_or_defaults.1 _ distinct).2 _).mpr short, distinct',
    ((fields_or_defaults.1 _ distinct').2 _).mpr long, ?_⟩
  refine (fields_or_defaults.2.1 _ _ _ _ short long).1 fun field shown => ?_
  obtain rfl := shown.unique (gives _)
  exact .table _ _

example : parse "native = [[], 5]\nlog = 1979-05-27\n" = .ok ⟨[], "warn"⟩ := by decide +kernel

example : parse "log = [\"trace\"]\n[native]\nfilter = 1\n" = .ok ⟨["libvulkan.so.1", "libvulkan.so"], "trace"⟩ := by
  decide +kernel

end SurfaceBridge.Config
