import SurfaceBridge.Driver.Call
import SurfaceBridge.Proofs.Translation.Raw

/-! What the native driver receives for an instance descriptor: its content with one name replaced wherever it
occurs. The translation in memory yields a descriptor of just this content, and it keeps all pointers of the caller
but those to replaced names. -/
namespace SurfaceBridge

namespace Extension

theorem nativeName_eq (label : Label) :
    nativeName label = if label = win32Surface then xlibSurface else label := by
  by_cases named : label = win32Surface
  · simp [nativeName, substitutions, named]
  · simp [nativeName, substitutions, named, Ne.symm named]

/-- A name that stays is not in the table: no name there is replaced by itself. -/
theorem find?_substitutions_eq_none {label : Label} (same : nativeName label = label) :
    substitutions.find? (·.1 = label) = none := by
  cases found : substitutions.find? (·.1 = label) with
  | none => rfl
  | some pair =>
    have differ : ∀ pair ∈ substitutions, pair.2 ≠ pair.1 := by decide
    have named : pair.1 = label := by simpa using List.find?_some found
    rw [nativeName, found] at same
    exact absurd (same.trans named.symm) (differ pair (List.mem_of_find?_eq_some found))

theorem nativeName_ne_self_iff (label : Label) : nativeName label ≠ label ↔ label = win32Surface := by
  rw [nativeName_eq]
  split
  · rename_i named
    exact iff_of_true (named ▸ by decide) named
  · rename_i other
    exact iff_of_false (not_not_intro rfl) other

end Extension

namespace Translation

theorem native_extensionNames (info : InstanceInfo) :
    (ofInfo info).native.extensionNames = info.extensionNames.map Extension.nativeName := by
  show (if (info.extensionNames.map Extension.nativeName).isEmpty then none
    else some (info.extensionNames.map Extension.nativeName)).getD [] = _
  cases info.extensionNames with
  | nil => rfl
  | cons first rest => rfl

theorem native_extensions_eq_none_iff (info : InstanceInfo) :
    (ofInfo info).native.extensions = none ↔ info.extensionNames = [] := by
  simp [native, ofInfo]

theorem ofInfo_substitutions (info : InstanceInfo) :
    (ofInfo info).substitutions = info.extensionNames.count Extension.win32Surface := by
  simp only [ofInfo, List.count, Extension.nativeName_ne_self_iff]
  rfl

end Translation

/-- The type of the structure that a warning tells was left out. -/
def Notice.droppedType? : Notice → Option StructureType
  | chainDropped type => some type
  | _ => none

namespace Driver

variable (driver : Driver) (info : InstanceInfo) (allocator : Allocator) (answers : Answers)

theorem createInstance_events :
    (driver.step (.createInstance info allocator) answers).events =
      [.createInstance (Translation.ofInfo info).native .absent answers.code answers.written] := by
  simp only [step, createInstance, Step.map]
  split <;> rfl

theorem createInstance_warnings :
    (driver.step (.createInstance info allocator) answers).log.filterMap Notice.droppedType? = info.chain := by
  have chain : (Translation.ofInfo info).notices.filterMap Notice.droppedType? = info.chain := by
    rw [Translation.notices, List.filterMap_map]
    exact List.filterMap_some
  have silent : (allocatorNotices allocator).filterMap Notice.droppedType? = [] := by
    cases allocator <;> rfl
  simp only [step, createInstance, Step.map]
  split <;> simp only [List.cons_append, List.append_assoc, List.filterMap_cons, List.filterMap_append,
    List.filterMap_nil, Notice.droppedType?, chain, silent, List.nil_append, List.append_nil]

end Driver

namespace HostMemory

variable {memory : HostMemory}

/-- Reading goes on from what was read before. -/
private theorem loop_readTurn {address : Address} {bytes : List UInt8}
    (spells : Spells memory.byte address bytes) (before : List UInt8) :
    loop memory.readTurn (address, before) = some (before ++ bytes) := by
  induction bytes generalizing address before with
  | nil =>
    have ends : memory.readTurn (address, before) = .inr before := if_pos spells
    rw [loop_of_inr ends, List.append_nil]
  | cons first rest ih =>
    obtain ⟨nonzero, rfl, later⟩ := spells
    have goes : memory.readTurn (address, before) =
        .inl (address + 1, before ++ [memory.byte address]) := if_neg nonzero
    rw [loop_of_inl goes, ih later, List.append_assoc]
    rfl

/-- What is spelled at an address is what is read there. -/
theorem cstring_eq {address : Address} {bytes : List UInt8} (spells : Spells memory.byte address bytes) :
    memory.cstring address = some bytes :=
  loop_readTurn spells []

theorem spells_unique {address : Address} {bytes other : List UInt8}
    (spells : Spells memory.byte address bytes) (again : Spells memory.byte address other) : bytes = other :=
  Option.some.inj ((cstring_eq spells).symm.trans (cstring_eq again))

theorem name?_eq {address : Address} {label : Label} (spells : memory.HasName address label) :
    memory.name? address = some ⟨address, label⟩ := by
  rw [name?, cstring_eq spells]
  simp

/-- The walk goes on from what it found before. -/
private theorem loop_walkTurn {next : Address} {found : List StructureType} (chain : memory.Chain next found)
    (types : List StructureType) (log : List Notice) :
    loop memory.walkTurn (next, types, log) = some (types ++ found, log ++ found.map .chainDropped) := by
  induction found generalizing next types log with
  | nil =>
    have ends : memory.walkTurn (next, types, log) = .inr (types, log) := if_pos chain
    rw [loop_of_inr ends, List.map_nil, List.append_nil, List.append_nil]
  | cons type rest ih =>
    obtain ⟨linked, rfl, later⟩ := chain
    have goes : memory.walkTurn (next, types, log) = .inl ((memory.header next).2,
        types ++ [(memory.header next).1], log ++ [.chainDropped (memory.header next).1]) := if_neg linked
    rw [loop_of_inl goes, ih later, List.append_assoc, List.append_assoc]
    rfl

/-- The walk ends, and it finds every structure. -/
theorem walkChain_eq {next : Address} {found : List StructureType} (chain : memory.Chain next found) :
    memory.walkChain next = some (found, found.map .chainDropped) :=
  loop_walkTurn chain [] []

theorem nativeName_label (memory : HostMemory) (name : BorrowedName) :
    (memory.nativeName name).label = Extension.nativeName name.label := by
  unfold nativeName Extension.nativeName
  cases Extension.substitutions.find? (·.1 = name.label) with
  | none => rfl
  | some pair => rfl

/-- A name's native name lies where it is looked for. -/
theorem spells_nativeName (name : BorrowedName) (spells : memory.HasName name.address name.label) :
    memory.HasName (memory.nativeName name).address (Extension.nativeName name.label) := by
  rw [← memory.nativeName_label]
  unfold nativeName
  split
  · rename_i pair found
    exact memory.own_spells _ (List.mem_of_find?_eq_some found)
  · exact spells

/-- A native name takes the place of the name itself exactly if it is the same name. -/
theorem samePlace_nativeName_iff (name : BorrowedName) (spells : memory.HasName name.address name.label) :
    (memory.nativeName name).SamePlace name ↔ Extension.nativeName name.label = name.label := by
  constructor
  · -- Only one name is spelled at an address.
    rintro ⟨here, -⟩
    have native := spells_nativeName name spells
    rw [here] at native
    have same := spells_unique native spells
    rwa [Label.mk.injEq]
  · intro same
    rw [nativeName, Extension.find?_substitutions_eq_none same]
    exact ⟨rfl, rfl⟩

/-- The names of a list, each at its address. -/
theorem Lists.spelled {count : UInt32} {pointers : Option (List Address)} {labels : Option (List Label)}
    (lists : memory.Lists count pointers labels) :
    (pointers.getD []).length = count.toNat ∧
      List.Forall₂ memory.HasName (pointers.getD []) (labels.getD []) := by
  match pointers, labels, lists with
  | none, none, null => exact ⟨(congrArg UInt32.toNat null).symm, .nil⟩
  | some _, some _, spelled => exact spelled

variable {addresses : List Address} {labels : List Label}

theorem substitute_eq (spelled : List.Forall₂ memory.HasName addresses labels) (natives : List Address)
    (replaced : Nat) :
    memory.substitute addresses natives replaced = some (natives ++ memory.nativeAddresses addresses labels,
      replaced + labels.countP fun label => Extension.nativeName label ≠ label) := by
  induction spelled generalizing natives replaced with
  | nil => simp [substitute, nativeAddresses]
  | @cons address label addresses labels here _ ih =>
    have place := samePlace_nativeName_iff ⟨address, label⟩ here
    simp only [substitute, name?_eq here, Option.bind_eq_bind, Option.bind_some, ih, place]
    by_cases same : Extension.nativeName label = label
    · rw [if_pos same, List.countP_cons_of_neg (by simpa using same), List.append_assoc]
      rfl
    · rw [if_neg same, List.countP_cons_of_pos (by simpa using same), List.append_assoc, Nat.add_right_comm]
      rfl

theorem spells_nativeAddresses (spelled : List.Forall₂ memory.HasName addresses labels) :
    List.Forall₂ memory.HasName (memory.nativeAddresses addresses labels)
      (labels.map Extension.nativeName) := by
  induction spelled with
  | nil => exact .nil
  | @cons address label _ _ here _ ih => exact .cons (spells_nativeName ⟨address, label⟩ here) ih

theorem nativeName_address (memory : HostMemory) (name : BorrowedName) :
    (memory.nativeName name).address =
      if name.label = Extension.win32Surface then memory.own Extension.xlibSurface else name.address := by
  by_cases named : name.label = Extension.win32Surface
  · simp [nativeName, Extension.substitutions, named]
  · simp [nativeName, Extension.substitutions, named, Ne.symm named]

variable {raw : RawInstanceInfo} {info : InstanceInfo}

theorem nativeNames_eq (denotes : memory.Denotes raw info) :
    memory.nativeNames raw = some (memory.nativeAddresses (raw.extensions.getD []) info.extensionNames,
      (Translation.ofInfo info).substitutions) := by
  obtain ⟨length, spelled⟩ := denotes.extensions.spelled
  unfold nativeNames
  split
  · rw [substitute_eq spelled, List.nil_append, Nat.zero_add]
    rfl
  · -- The list may be null then.
    rename_i none_named
    have zero : raw.extensionCount.toNat = 0 := by
      simpa [UInt32.lt_iff_toNat_lt] using none_named
    have no_pointers := List.length_eq_zero_iff.mp (length.trans zero)
    rw [no_pointers] at spelled
    have no_names : info.extensionNames = [] := List.forall₂_nil_left_iff.mp spelled
    rw [no_pointers, Translation.ofInfo, no_names]
    rfl

/-- Both loops end, and they find what the content of the descriptor says. -/
theorem translate_eq (denotes : memory.Denotes raw info) :
    memory.translate raw = some (
      { type := raw.type
        flags := raw.flags
        application := raw.application
        extensionCount := raw.extensionCount
        names := memory.nativeAddresses (raw.extensions.getD []) info.extensionNames
        dropped := info.chain
        substitutions := (Translation.ofInfo info).substitutions },
      info.chain.map .chainDropped) := by
  rw [translate, walkChain_eq denotes.chain, nativeNames_eq denotes]
  rfl

theorem length_nativeAddresses (denotes : memory.Denotes raw info) :
    (memory.nativeAddresses (raw.extensions.getD []) info.extensionNames).length =
      raw.extensionCount.toNat := by
  obtain ⟨length, spelled⟩ := denotes.extensions.spelled
  have names : info.extensionNames.length = (raw.extensions.getD []).length := spelled.length_eq.symm
  rw [nativeAddresses, List.length_zipWith, names, Nat.min_self, length]

/-- A list that is not kept when it is empty. -/
theorem Lists.of_spelled {count : UInt32} (length : addresses.length = count.toNat)
    (spelled : List.Forall₂ memory.HasName addresses labels) :
    memory.Lists count (if addresses.isEmpty then none else some addresses)
      (if labels.isEmpty then none else some labels) := by
  cases spelled with
  | nil => exact UInt32.toNat_inj.mp length.symm
  | cons here rest => exact ⟨length, .cons here rest⟩

/-- Translating in memory and reading the content commute. -/
theorem denotes_native (denotes : memory.Denotes raw info) {owned : OwnedInstanceInfo} {log : List Notice}
    (done : memory.translate raw = some (owned, log)) :
    memory.Denotes owned.raw (Translation.ofInfo info).native := by
  rw [translate_eq denotes] at done
  obtain ⟨rfl, -⟩ := Prod.mk.inj (Option.some.inj done)
  have spelled := spells_nativeAddresses denotes.extensions.spelled.2
  exact ⟨denotes.type, denotes.flags, denotes.application, rfl, rfl,
    .of_spelled (length_nativeAddresses denotes) spelled⟩

theorem rewrites_of_denotes (denotes : memory.Denotes raw info) {owned : OwnedInstanceInfo}
    {log : List Notice} (done : memory.translate raw = some (owned, log)) :
    owned.raw.Rewrites memory raw info.extensionNames := by
  rw [translate_eq denotes] at done
  obtain ⟨rfl, -⟩ := Prod.mk.inj (Option.some.inj done)
  have length := length_nativeAddresses denotes
  refine ⟨rfl, rfl, rfl, rfl, rfl, rfl, rfl, ?_, ?_⟩
  · rw [OwnedInstanceInfo.raw, ite_eq_left_iff]
    rw [← UInt32.toNat_inj, ← length]
    simp
  · intro k address name pointer named
    have kept : (memory.nativeAddresses (raw.extensions.getD []) info.extensionNames)[k]? =
        some (memory.nativeName ⟨address, name⟩).address := by
      rw [nativeAddresses, List.getElem?_zipWith, pointer, named]
    rw [← memory.nativeName_address ⟨address, name⟩, ← kept]
    cases memory.nativeAddresses (raw.extensions.getD []) info.extensionNames <;> rfl

end HostMemory

namespace Driver

/-- The creation of an instance calls the native driver once. The descriptor is the caller's without chain and
layers, each name is the caller's or, in the place of the one that is replaced, its native counterpart, and there is
one warning for each chained structure. In memory a descriptor of that content is handed on, which shares all else
with the caller's. -/
theorem createInstance_receives (driver : Driver) (info : InstanceInfo) (allocator : Allocator)
    (answers : Answers) :
    let step := driver.step (.createInstance info allocator) answers
    let translation := Translation.ofInfo info
    (∃ native, step.events = [.createInstance native .absent answers.code answers.written] ∧
      native.type = info.type ∧ native.flags = info.flags ∧ native.application = info.application ∧
      native.chain = [] ∧ native.layers = none ∧
      native.extensionNames.length = info.extensionNames.length ∧
      (native.extensions = none ↔ info.extensionNames = []) ∧
      (∀ (k : Nat) name, info.extensionNames[k]? = some name → native.extensionNames[k]? =
        some (if name = Extension.win32Surface then Extension.xlibSurface else name)) ∧
      ∀ (memory : HostMemory) raw, memory.Denotes raw info → ∃ owned,
        memory.translate raw = some (owned, info.chain.map .chainDropped) ∧
        owned.substitutions = translation.substitutions ∧ owned.dropped = translation.dropped ∧
        owned.raw.Rewrites memory raw info.extensionNames ∧ memory.Denotes owned.raw native) ∧
    translation.substitutions = info.extensionNames.count Extension.win32Surface ∧
    translation.dropped = info.chain ∧
    step.log.filterMap Notice.droppedType? = info.chain := by
  refine ⟨⟨_, driver.createInstance_events info allocator answers, rfl, rfl, rfl, rfl, rfl, ?_,
      Translation.native_extensions_eq_none_iff info, ?_, ?_⟩, Translation.ofInfo_substitutions info, rfl,
    driver.createInstance_warnings info allocator answers⟩
  · rw [Translation.native_extensionNames, List.length_map]
  · intro k name named
    rw [Translation.native_extensionNames, List.getElem?_map, named, Option.map_some,
      Extension.nativeName_eq]
  · intro memory raw denotes
    have done := HostMemory.translate_eq denotes
    exact ⟨_, done, rfl, rfl, HostMemory.rewrites_of_denotes denotes done,
      HostMemory.denotes_native denotes done⟩

/-- A name that begins like the one that is replaced. -/
def lookAlike : Label := ⟨Extension.win32Surface.bytes ++ [95, 50], by decide⟩

/-- The two names and the driver's own one, each at the start of a page, and two structures in a chain. -/
def sharedPages : HostMemory where
  byte address :=
    let text := match address.toNat / 256 with
      | 1 => Extension.win32Surface.bytes
      | 2 => lookAlike.bytes
      | 3 => Extension.xlibSurface.bytes
      | _ => []
    text[address.toNat % 256]?.getD 0
  header address := if address = 0x400 then (⟨1000247000⟩, 0x500) else (⟨1000128004⟩, 0)
  application _ := { name := none, api := 4194304 }
  own _ := 0x300
  own_spells := by decide +kernel

def crowdedDescriptor : RawInstanceInfo where
  type := .instanceCreateInfo
  next := 0x400
  flags := 1
  application := 0x600
  layerCount := 1
  layers := some [0x200]
  extensionCount := 3
  extensions := some [0x100, 0x200, 0x100]

def crowdedInfo : InstanceInfo where
  flags := 1
  application := some { name := none, api := 4194304 }
  chain := [⟨1000247000⟩, ⟨1000128004⟩]
  layers := some [lookAlike]
  extensions := some [Extension.win32Surface, lookAlike, Extension.win32Surface]

theorem createInstance_receives_of_crowdedInfo :
    let step := Driver.step { windows := ⟨3, 4, 0⟩ } (.createInstance crowdedInfo .callbacks) { written := some 16 }
    sharedPages.Denotes crowdedDescriptor crowdedInfo ∧
    (∃ native owned, step.events = [.createInstance native .absent .success (some 16)] ∧
      native.extensionNames[1]? = some lookAlike ∧ native.extensionNames[2]? = some Extension.xlibSurface ∧
      sharedPages.translate crowdedDescriptor =
        some (owned, [.chainDropped ⟨1000247000⟩, .chainDropped ⟨1000128004⟩]) ∧
      owned.substitutions = 2 ∧ owned.raw.application = 0x600 ∧
      (owned.raw.extensions.getD [])[1]? = some 0x200 ∧ (owned.raw.extensions.getD [])[2]? = some 0x300 ∧
      sharedPages.Denotes owned.raw native) ∧
    step.log.filterMap Notice.droppedType? = [⟨1000247000⟩, ⟨1000128004⟩] := by
  intro step
  have spelled : sharedPages.Denotes crowdedDescriptor crowdedInfo := by
    have first : Spells sharedPages.byte 0x100 Extension.win32Surface.bytes := by decide +kernel
    have second : Spells sharedPages.byte 0x200 lookAlike.bytes := by decide +kernel
    exact ⟨rfl, rfl, rfl, ⟨by decide, rfl, by decide, rfl, rfl⟩, ⟨rfl, .cons second .nil⟩,
      ⟨rfl, .cons first (.cons second (.cons first .nil))⟩⟩
  obtain ⟨⟨native, events, _, _, _, _, _, _, _, names, inMemory⟩, count, _, warnings⟩ :=
    createInstance_receives { windows := ⟨3, 4, 0⟩ } crowdedInfo .callbacks { written := some 16 }
  obtain ⟨owned, done, replaced, _, rewrites, denotes⟩ := inMemory sharedPages crowdedDescriptor spelled
  have other : lookAlike ≠ Extension.win32Surface := by decide
  have second := rewrites.pointers 1 0x200 lookAlike rfl rfl
  rw [if_neg other] at second
  have stays := names 1 lookAlike rfl
  rw [if_neg other] at stays
  exact ⟨spelled, ⟨native, owned, events, stays, names 2 Extension.win32Surface rfl, done,
    replaced.trans (count.trans (by decide)), rewrites.application, second,
    rewrites.pointers 2 0x100 Extension.win32Surface rfl rfl, denotes⟩, warnings⟩

end Driver
end SurfaceBridge
