import SurfaceBridge.CommandLine.Run
import SurfaceBridge.Proofs.Text.Encoding
import SurfaceBridge.Proofs.Translation.Descriptor

/-! The dry run of a translation. It prints the names that the native driver receives when an instance is created
with these extensions and layers, and those are also the names that are read back from the memory of the rewritten
descriptor. -/
namespace SurfaceBridge

namespace Extension

/-- The native name of an extension, as text. -/
def nativeText (name : String) : String :=
  if name = "VK_KHR_win32_surface" then "VK_KHR_xlib_surface" else name

theorem nativeText_whole {name : String} (whole : '\x00' ∉ name.toList) : '\x00' ∉ (nativeText name).toList := by
  rw [nativeText]
  split
  · decide
  · exact whole

theorem nativeName_ofText {name : String} (whole : '\x00' ∉ name.toList) :
    nativeName (.ofText name) = .ofText (nativeText name) := by
  have named : Label.ofText name = win32Surface ↔ name = "VK_KHR_win32_surface" := by
    constructor
    · intro same
      rw [← Label.text_ofText whole, same]
      exact Label.text_ofText (by decide)
    · rintro rfl
      rfl
  rw [nativeName_eq, nativeText]
  simp only [named]
  split <;> rfl

end Extension

/-- The names spelled in memory are read back. -/
theorem HostMemory.mapM_text_name?_eq {memory : HostMemory} {addresses : List Address} {labels : List Label}
    (spelled : List.Forall₂ memory.HasName addresses labels) :
    (addresses.mapM fun address => (memory.name? address).map (·.label.text)) = some (labels.map Label.text) := by
  induction spelled with
  | nil => rfl
  | cons here _ ih =>
    rw [List.mapM_cons, name?_eq here, ih]
    rfl

namespace CommandLine

section Words
variable {command : Command} {settings : List Setting}

/-- A setting as a user writes it in one word. -/
def written (setting : Setting) : String := "--" ++ setting.1.long ++ "=" ++ setting.2

theorem ofBytes_toUTF8 (text : String) : Word.ofBytes text.toUTF8.data.toList = { text, isText := true } := by
  rw [Word.ofBytes, Text.decode?_eq_some_iff.mpr rfl]

/-- Settings in words of their own are read one after the other. -/
theorem readSettings_written (known : ∀ setting ∈ settings, setting.1 = .extension ∨ setting.1 = .layer)
    (before : List Setting) :
    Command.translate.readSettings before (settings.map fun setting => { text := written setting, isText := true }) =
      .ok (before ++ settings) := by
  induction settings generalizing before with
  | nil => simp [Command.readSettings]
  | cons setting settings ih =>
    obtain ⟨opt, value⟩ := setting
    have rest := ih (fun setting among => known setting (.tail _ among)) (before ++ [(opt, value)])
    rw [List.append_assoc, List.singleton_append] at rest
    rw [List.map_cons, ← rest]
    rcases known (opt, value) (.head _) with rfl | rfl
    · exact Command.readSettings_long rfl rfl rfl before value _
    · exact Command.readSettings_long rfl rfl rfl before value _

theorem ofArguments_written (known : ∀ setting ∈ settings, setting.1 = .extension ∨ setting.1 = .layer) :
    Request.ofArguments (("translate" :: settings.map written).map (·.toUTF8.data.toList)) =
      .translate (valuesOf settings .extension) (valuesOf settings .layer) := by
  have words : (("translate" :: settings.map written).map (·.toUTF8.data.toList)).map Word.ofBytes =
      { text := "translate", isText := true } ::
        settings.map fun setting => { text := written setting, isText := true } := by
    rw [List.map_map, List.map_cons, List.map_map]
    exact congrArg₂ _ (ofBytes_toUTF8 _) (List.map_congr_left fun setting _ => ofBytes_toUTF8 (written setting))
  have command : Command.ofName? "translate" = some .translate := rfl
  rw [Request.ofArguments, words, Request.ofWords, if_neg (by decide), command]
  simp only [readSettings_written known]
  rfl

end Words

/-- A line of the dry run. -/
inductive Line where
  | heading (text : String)
  | blank
  /-- Stands where no name is passed on. -/
  | placeholder
  | name (text : String)

namespace Line

def text : Line → String
  | heading text => text
  | blank => ""
  | placeholder => "  (none)"
  | name text => "  " ++ text

def passed (names : List String) : List Line :=
  [heading "Extensions passed to the native driver:", blank] ++ if names = [] then [placeholder] else names.map name

def stripped (layers : List String) : List Line :=
  if layers = [] then [] else [blank, heading "Layers stripped:", blank] ++ layers.map name

/-- Lines as they are printed. -/
def printed (lines : List Line) : String := String.join ((lines.map text).map (· ++ "\n"))

end Line

section Names
variable {names : List String} (whole : ∀ name ∈ names, '\x00' ∉ name.toList)
include whole

theorem map_nativeText_whole : ∀ name ∈ names.map Extension.nativeText, '\x00' ∉ name.toList := by
  intro name among
  obtain ⟨asked, member, rfl⟩ := List.mem_map.mp among
  exact Extension.nativeText_whole (whole asked member)

theorem map_nativeName_ofText :
    (names.map Label.ofText).map Extension.nativeName = (names.map Extension.nativeText).map Label.ofText := by
  rw [List.map_map, List.map_map]
  exact List.map_congr_left fun name among => Extension.nativeName_ofText (whole name among)

theorem map_text_ofText : (names.map Label.ofText).map Label.text = names := by
  rw [List.map_map]
  exact (List.map_congr_left fun name among => Label.text_ofText (whole name among)).trans (List.map_id _)

theorem map_indented : (names.map Label.ofText).map ("  " ++ ·.text) = (names.map Line.name).map Line.text := by
  rw [List.map_map, List.map_map]
  exact List.map_congr_left fun name among => congrArg ("  " ++ ·) (Label.text_ofText (whole name among))

end Names

variable {extensions layers : List String}

theorem lines_passed (layers : List String) (whole : ∀ name ∈ extensions, '\x00' ∉ name.toList) :
    let names := (Translation.ofInfo (requested extensions layers)).names
    ["Extensions passed to the native driver:", ""] ++
        (if names.isEmpty then ["  (none)"] else names.map ("  " ++ ·.text)) =
      (Line.passed (extensions.map Extension.nativeText)).map Line.text := by
  intro names
  have shown : names = (extensions.map Extension.nativeText).map Label.ofText := map_nativeName_ofText whole
  rw [shown, map_indented (map_nativeText_whole whole), Line.passed]
  cases extensions <;> rfl

theorem lines_stripped (extensions : List String) (whole : ∀ name ∈ layers, '\x00' ∉ name.toList) :
    (if layers.isEmpty then []
      else ["", "Layers stripped:", ""] ++ (requested extensions layers).layerNames.map ("  " ++ ·.text)) =
      (Line.stripped layers).map Line.text := by
  have shown : (requested extensions layers).layerNames = layers.map Label.ofText := rfl
  rw [shown, map_indented whole, Line.stripped]
  cases layers <;> rfl

theorem translate_eq (wholeExtensions : ∀ name ∈ extensions, '\x00' ∉ name.toList)
    (wholeLayers : ∀ name ∈ layers, '\x00' ∉ name.toList) : translate extensions layers =
      .printed (Line.printed (Line.passed (extensions.map Extension.nativeText) ++ Line.stripped layers)) := by
  have uncut : ((extensions ++ layers).any fun name => '\x00' ∈ name.toList) = false := by
    rw [List.any_append, Bool.or_eq_false_iff]
    exact ⟨by simpa using wholeExtensions, by simpa using wholeLayers⟩
  rw [translate, if_neg (by rw [uncut]; decide), Line.printed, List.map_append,
    ← lines_passed layers wholeExtensions, ← lines_stripped extensions wholeLayers]
  rfl

theorem Line.placeholder_mem_iff {names : List String} :
    Line.placeholder ∈ Line.passed names ++ Line.stripped layers ↔ names = [] := by
  by_cases empty : names = [] <;> by_cases bare : layers = [] <;> simp [passed, stripped, empty, bare]

theorem Line.heading_mem_iff {names : List String} :
    Line.heading "Layers stripped:" ∈ Line.passed names ++ Line.stripped layers ↔ layers ≠ [] := by
  by_cases empty : names = [] <;> by_cases bare : layers = [] <;> simp [passed, stripped, empty, bare]

/-- A dry run shows exactly what an instance with these extensions and layers would pass on. -/
theorem dry_run_is_faithful (extensions layers : List String)
    (wholeExtensions : ∀ name ∈ extensions, '\x00' ∉ name.toList)
    (wholeLayers : ∀ name ∈ layers, '\x00' ∉ name.toList) :
    let names := extensions.map Extension.nativeText
    let lines := Line.passed names ++ Line.stripped layers
    (∀ env arguments, Request.ofArguments arguments = .translate extensions layers →
      run env arguments = { status := 0, output := Line.printed lines }) ∧
    (∀ settings : List Setting, (∀ setting ∈ settings, setting.1 = .extension ∨ setting.1 = .layer) →
      valuesOf settings .extension = extensions → valuesOf settings .layer = layers →
      Request.ofArguments (("translate" :: settings.map written).map (·.toUTF8.data.toList)) =
        .translate extensions layers) ∧
    (Line.placeholder ∈ lines ↔ extensions = []) ∧
    (Line.heading "Layers stripped:" ∈ lines ↔ layers ≠ []) ∧
    ∀ (driver : Driver) info allocator answers, info.extensionNames = extensions.map Label.ofText →
      info.layerNames = layers.map Label.ofText →
      ∃ native, (driver.step (.createInstance info allocator) answers).events =
          [.createInstance native .absent answers.code answers.written] ∧
        native.extensionNames.map (·.bytes) = names.map (·.toUTF8.data.toList) ∧ native.layerNames = [] ∧
        ∀ (memory : HostMemory) raw, memory.Denotes raw info → ∃ owned log,
          memory.translate raw = some (owned, log) ∧ memory.Denotes owned.raw native ∧
          (owned.names.mapM fun address => (memory.name? address).map (·.label.text)) = some names := by
  intro names lines
  refine ⟨fun env arguments asked => ?_, fun settings known given stripped => ?_, ?_, Line.heading_mem_iff,
    fun driver info allocator answers named _ => ?_⟩
  · rw [run, asked]
    exact translate_eq wholeExtensions wholeLayers
  · rw [ofArguments_written known, given, stripped]
  · rw [Line.placeholder_mem_iff]
    exact List.map_eq_nil_iff
  · have received : (Translation.ofInfo info).native.extensionNames = names.map Label.ofText := by
      rw [Translation.native_extensionNames, named]
      exact map_nativeName_ofText wholeExtensions
    have whole := map_nativeText_whole wholeExtensions
    refine ⟨_, driver.createInstance_events info allocator answers, ?_, rfl, fun memory raw denotes => ?_⟩
    · rw [received, List.map_map]
      exact List.map_congr_left fun name among => Label.bytes_ofText (whole name among)
    · have done := HostMemory.translate_eq denotes
      have spelled := HostMemory.spells_nativeAddresses denotes.extensions.spelled.2
      have texts : (info.extensionNames.map Extension.nativeName).map Label.text = names := by
        rw [← Translation.native_extensionNames, received]
        exact map_text_ofText whole
      exact ⟨_, _, done, HostMemory.denotes_native denotes done,
        (HostMemory.mapM_text_name?_eq spelled).trans (congrArg some texts)⟩

/-- A name asked for twice, one that looks like it, and a layer in between. -/
def crowdedSettings : List Setting :=
  [(.extension, "VK_KHR_win32_surface"), (.layer, "VK_KHR_win32_surface_2"),
    (.extension, "VK_KHR_win32_surface_2"), (.extension, "VK_KHR_win32_surface")]

theorem dry_run_is_faithful_of_crowdedSettings :
    let arguments := ("translate" :: crowdedSettings.map written).map (·.toUTF8.data.toList)
    let step := Driver.step { windows := ⟨3, 4, 0⟩ } (.createInstance Driver.crowdedInfo .callbacks)
      { written := some 16 }
    (∀ env, run env arguments = { status := 0, output := String.join [
        "Extensions passed to the native driver:\n\n",
        "  VK_KHR_xlib_surface\n", "  VK_KHR_win32_surface_2\n", "  VK_KHR_xlib_surface\n",
        "\nLayers stripped:\n\n", "  VK_KHR_win32_surface_2\n"] }) ∧
    ∃ native owned log, step.events = [.createInstance native .absent .success (some 16)] ∧
      native.extensionNames.map (·.bytes) = ["VK_KHR_xlib_surface", "VK_KHR_win32_surface_2",
        "VK_KHR_xlib_surface"].map (·.toUTF8.data.toList) ∧
      Driver.sharedPages.translate Driver.crowdedDescriptor = some (owned, log) ∧
      (owned.names.mapM fun address => (Driver.sharedPages.name? address).map (·.label.text)) =
        some ["VK_KHR_xlib_surface", "VK_KHR_win32_surface_2", "VK_KHR_xlib_surface"] := by
  intro arguments step
  obtain ⟨output, delivered, _, _, received⟩ := dry_run_is_faithful (valuesOf crowdedSettings .extension)
    (valuesOf crowdedSettings .layer) (by decide) (by decide)
  have denotes : Driver.sharedPages.Denotes Driver.crowdedDescriptor Driver.crowdedInfo := by
    have first : Spells Driver.sharedPages.byte 0x100 Extension.win32Surface.bytes := by decide +kernel
    have second : Spells Driver.sharedPages.byte 0x200 Driver.lookAlike.bytes := by decide +kernel
    exact ⟨rfl, rfl, rfl, ⟨by decide, rfl, by decide, rfl, rfl⟩, ⟨rfl, .cons second .nil⟩,
      ⟨rfl, .cons first (.cons second (.cons first .nil))⟩⟩
  have asked := delivered crowdedSettings (by decide) rfl rfl
  obtain ⟨native, events, names, _, inMemory⟩ := received { windows := ⟨3, 4, 0⟩ } Driver.crowdedInfo .callbacks
    { written := some 16 } (by decide) (by decide)
  obtain ⟨owned, log, done, _, back⟩ := inMemory _ _ denotes
  refine ⟨fun env => ?_, native, owned, log, events, names, done, back⟩
  exact (output env arguments asked).trans (by decide +kernel)

end CommandLine
end SurfaceBridge
