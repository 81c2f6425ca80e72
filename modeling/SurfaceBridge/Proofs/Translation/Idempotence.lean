import SurfaceBridge.Proofs.Translation.Descriptor

/-! Translating a descriptor that was translated before. No name that the native driver knows is itself replaced, so
the second translation finds nothing to replace and nothing to leave out, and hands on the descriptor it was given. -/
namespace SurfaceBridge

namespace Extension

/-- The table replaces no name that it puts in the place of another. -/
theorem find?_substitutions_native :
    ∀ pair ∈ substitutions, substitutions.find? (·.1 = pair.2) = none := by
  decide

@[simp] theorem nativeName_nativeName (label : Label) : nativeName (nativeName label) = nativeName label := by
  cases found : substitutions.find? (·.1 = label) with
  | none =>
    have same : nativeName label = label := by rw [nativeName, found]
    rw [same, same]
  | some pair =>
    have native : nativeName label = pair.2 := by rw [nativeName, found]
    rw [native, nativeName, find?_substitutions_native pair (List.mem_of_find?_eq_some found)]

end Extension

namespace Translation

variable (info : InstanceInfo)

theorem ofInfo_native_names : (ofInfo (ofInfo info).native).names = (ofInfo info).names := by
  show (ofInfo info).native.extensionNames.map Extension.nativeName = info.extensionNames.map Extension.nativeName
  rw [native_extensionNames, List.map_map]
  exact List.map_congr_left fun label _ => Extension.nativeName_nativeName label

theorem native_native : (ofInfo (ofInfo info).native).native = (ofInfo info).native := by
  show (⟨_, _, _, [], none, if (ofInfo (ofInfo info).native).names.isEmpty then none
    else some (ofInfo (ofInfo info).native).names⟩ : InstanceInfo) = _
  rw [ofInfo_native_names]
  rfl

/-- A translated descriptor has no name that is replaced. -/
theorem substitutions_native : (ofInfo (ofInfo info).native).substitutions = 0 := by
  show (ofInfo info).native.extensionNames.countP (fun name => Extension.nativeName name ≠ name) = 0
  rw [native_extensionNames, List.countP_eq_zero]
  intro name member
  obtain ⟨label, _, rfl⟩ := List.mem_map.mp member
  simp

end Translation

namespace HostMemory

variable {memory : HostMemory} {raw : RawInstanceInfo} {info : InstanceInfo}

@[simp] theorem nativeName_nativeName (memory : HostMemory) (name : BorrowedName) :
    memory.nativeName (memory.nativeName name) = memory.nativeName name := by
  have settled : Extension.substitutions.find? (·.1 = (memory.nativeName name).label) = none := by
    rw [memory.nativeName_label]
    exact Extension.find?_substitutions_eq_none (Extension.nativeName_nativeName name.label)
  rw [nativeName, settled]

/-- The pointers to native names stay, since those names stay. -/
theorem nativeAddresses_native (memory : HostMemory) (addresses : List Address) (labels : List Label) :
    memory.nativeAddresses (memory.nativeAddresses addresses labels) (labels.map Extension.nativeName) =
      memory.nativeAddresses addresses labels := by
  induction addresses generalizing labels with
  | nil => rfl
  | cons address addresses ih =>
    cases labels with
    | nil => rfl
    | cons label labels =>
      have first : (memory.nativeName ⟨(memory.nativeName ⟨address, label⟩).address,
          Extension.nativeName label⟩).address = (memory.nativeName ⟨address, label⟩).address := by
        rw [← memory.nativeName_label ⟨address, label⟩, nativeName_nativeName]
      exact congrArg₂ List.cons first (ih labels)

theorem getD_raw_extensions (owned : OwnedInstanceInfo) : owned.raw.extensions.getD [] = owned.names := by
  rw [OwnedInstanceInfo.raw]
  cases owned.names <;> rfl

/-- The descriptor that is handed on can be translated, and is handed on again as it is. -/
theorem translate_again (denotes : memory.Denotes raw info) {owned : OwnedInstanceInfo} {log : List Notice}
    (done : memory.translate raw = some (owned, log)) :
    ∃ again, memory.translate owned.raw = some (again, []) ∧ again.raw = owned.raw ∧
      again.substitutions = 0 ∧ again.dropped = [] := by
  have handed := translate_eq (denotes_native denotes done)
  rw [translate_eq denotes] at done
  obtain ⟨rfl, -⟩ := Prod.mk.inj (Option.some.inj done)
  rw [getD_raw_extensions, Translation.native_extensionNames, nativeAddresses_native] at handed
  exact ⟨_, handed, rfl, Translation.substitutions_native info, rfl⟩

end HostMemory

/-- A translated descriptor is translated into itself, whatever was replaced or left out before: nothing is replaced,
nothing is left out, and there is no warning. In memory the translation of what was handed on succeeds and hands on
the same fields and pointers. -/
theorem translation_idempotent (info : InstanceInfo) :
    let first := Translation.ofInfo info
    let again := Translation.ofInfo first.native
    again.native = first.native ∧ again.substitutions = 0 ∧ again.dropped = [] ∧ again.notices = [] ∧
    ∀ (memory : HostMemory) raw, memory.Denotes raw info → ∃ owned log again,
      memory.translate raw = some (owned, log) ∧ owned.raw.Rewrites memory raw info.extensionNames ∧
      memory.translate owned.raw = some (again, []) ∧ again.raw = owned.raw ∧ again.substitutions = 0 ∧
      again.dropped = [] ∧ memory.Denotes again.raw first.native := by
  refine ⟨Translation.native_native info, Translation.substitutions_native info, rfl, rfl, ?_⟩
  intro memory raw denotes
  have done := HostMemory.translate_eq denotes
  obtain ⟨again, handed, same, none_replaced, none_dropped⟩ := HostMemory.translate_again denotes done
  refine ⟨_, _, again, done, HostMemory.rewrites_of_denotes denotes done, handed, same, none_replaced,
    none_dropped, ?_⟩
  rw [same]
  exact HostMemory.denotes_native denotes done

/-- A name that is replaced, the name that takes its place, and a look-alike: the first two share a pointer then. -/
def mixedDescriptor : RawInstanceInfo :=
  { Driver.crowdedDescriptor with extensions := some [0x100, 0x300, 0x200] }

def mixedInfo : InstanceInfo :=
  { Driver.crowdedInfo with
    extensions := some [Extension.win32Surface, Extension.xlibSurface, Driver.lookAlike] }

theorem translation_idempotent_of_mixedInfo :
    let memory := Driver.sharedPages
    memory.Denotes mixedDescriptor mixedInfo ∧ (Translation.ofInfo mixedInfo).substitutions = 1 ∧
    (Translation.ofInfo mixedInfo).dropped.length = 2 ∧ ∃ owned log again,
      memory.translate mixedDescriptor = some (owned, log) ∧
      (owned.raw.extensions.getD [])[0]? = some 0x300 ∧ (owned.raw.extensions.getD [])[1]? = some 0x300 ∧
      memory.translate owned.raw = some (again, []) ∧ again.raw = owned.raw ∧ again.substitutions = 0 := by
  intro memory
  have spelled : memory.Denotes mixedDescriptor mixedInfo := by
    have first : Spells memory.byte 0x100 Extension.win32Surface.bytes := by decide +kernel
    have second : Spells memory.byte 0x200 Driver.lookAlike.bytes := by decide +kernel
    have third : Spells memory.byte 0x300 Extension.xlibSurface.bytes := by decide +kernel
    exact ⟨rfl, rfl, rfl, ⟨by decide, rfl, by decide, rfl, rfl⟩, ⟨rfl, .cons second .nil⟩,
      ⟨rfl, .cons first (.cons third (.cons second .nil))⟩⟩
  obtain ⟨_, _, _, _, inMemory⟩ := translation_idempotent mixedInfo
  obtain ⟨owned, log, again, done, rewrites, handed, same, none_replaced, _⟩ :=
    inMemory memory mixedDescriptor spelled
  have native : Extension.xlibSurface ≠ Extension.win32Surface := by decide
  have stays := rewrites.pointers 1 0x300 Extension.xlibSurface rfl rfl
  rw [if_neg native] at stays
  exact ⟨spelled, by decide, rfl, owned, log, again, done,
    rewrites.pointers 0 0x100 Extension.win32Surface rfl rfl, stays, handed, same, none_replaced⟩

end SurfaceBridge
