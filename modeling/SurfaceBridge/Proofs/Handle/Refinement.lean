import SurfaceBridge.Proofs.Handle.Issue
import SurfaceBridge.Proofs.Handle.Ledger
import SurfaceBridge.Proofs.Handle.Map

/-! An arena is a finite map whose keys are never used again: every run of a new arena is a run of a ledger. Callers
see the arena through `get?` alone, so the two agree as soon as they resolve every word alike. -/
namespace SurfaceBridge.Handle.Arena

variable {α β : Type}

def perform (arena : Arena α) : Operation α β → Answer α β × Arena α
  | .insert value =>
    match arena.insert value with
    | some (word, stored) => (.handle word, stored)
    | none => (.full, arena)
  | .read word f => (.result ((arena.get? word).map f), arena)
  | .update word f =>
    (.result ((arena.get? word).map fun value => (f value).1), arena.modify word fun value => (f value).2)
  | .contains word => (.holds (arena.contains word), arena)
  | .remove word =>
    match arena.remove? word with
    | some (value, rest) => (.taken (some value), rest)
    | none => (.taken none, arena)
  | .drain p => (.drained (arena.drain p).1, (arena.drain p).2)
  | .size => (.size arena.live, arena)

/-- The operations of a run, each with its answer. -/
def transcript (arena : Arena α) : List (Operation α β) → List (Operation α β × Answer α β)
  | [] => []
  | operation :: rest =>
    (operation, (arena.perform operation).1) :: (arena.perform operation).2.transcript rest

/-- The arena after a run. -/
def performAll (arena : Arena α) (operations : List (Operation α β)) : Arena α :=
  operations.foldl (fun arena operation => (arena.perform operation).2) arena

/-- Whether the operation takes the value of a slot out. -/
def retired (arena : Arena α) (operation : Operation α β) (index : Nat) : Nat :=
  arena.taken (arena.perform operation).2 index

/-- How often a slot was retired during a run: how many operations took its value out. -/
def retirements (arena : Arena α) (index : Nat) : List (Operation α β) → Nat
  | [] => 0
  | operation :: rest =>
    arena.retired operation index + (arena.perform operation).2.retirements index rest

theorem retirements_le_length (arena : Arena α) (index : Nat) (operations : List (Operation α β)) :
    arena.retirements index operations ≤ operations.length := by
  induction operations generalizing arena with
  | nil => exact Nat.le_refl 0
  | cons operation operations ih =>
    have here : arena.retired operation index ≤ 1 := taken_le_one ..
    have rest := ih (arena.perform operation).2
    rw [retirements, List.length_cons]
    omega

/-- The live handles with their values, in slot order. -/
def bindings (arena : Arena α) : List (Σ _ : UInt64, α) :=
  (List.range arena.slots.size).filterMap fun index =>
    (arena.slotAt index).value.map fun value => ⟨handle index (arena.slotAt index).generation, value⟩

theorem mem_bindings_iff {arena : Arena α} (bounded : arena.slots.size ≤ slotLimit) {word : UInt64}
    {value : α} : ⟨word, value⟩ ∈ arena.bindings ↔ arena.get? word = some value := by
  rw [get?_eq_some_iff bounded, bindings, List.mem_filterMap]
  constructor
  · rintro ⟨index, _, bound⟩
    obtain ⟨held, occupied, same⟩ := Option.map_eq_some_iff.mp bound
    cases same
    exact ⟨index, _, rfl, by rw [← occupied]⟩
  · rintro ⟨index, generation, rfl, slot⟩
    have occupied : (arena.slotAt index).value = some value := by rw [slot]
    refine ⟨index, List.mem_range.mpr (lt_size_of_slotAt occupied), ?_⟩
    rw [slot, Option.map_some]

/-- Different slots have different handles. -/
theorem nodupKeys_bindings {arena : Arena α} (bounded : arena.slots.size ≤ slotLimit) :
    arena.bindings.NodupKeys := by
  rw [List.NodupKeys, List.keys, bindings, List.map_filterMap]
  refine List.Nodup.filterMap ?_ List.nodup_range
  intro i j word atI atJ
  simp only [Option.map_map, Option.mem_def, Option.map_eq_some_iff] at atI atJ
  obtain ⟨_, occupied, rfl⟩ := atI
  obtain ⟨_, occupied', same⟩ := atJ
  have fits := (lt_size_of_slotAt occupied).trans_le bounded
  have fits' := (lt_size_of_slotAt occupied').trans_le bounded
  exact (handle_inj fits' fits same).1.symm

theorem values_eq_map_bindings (arena : Arena α) : arena.values = arena.bindings.map Sigma.snd := by
  rw [values, toList_slots, List.filterMap_map, bindings, List.map_filterMap]
  congr 1
  funext index
  simp only [Function.comp, Option.map_map]
  exact (Option.map_id' ..).symm

section Agreement

variable {arena : Arena α} {bound : Finmap fun _ : UInt64 => α}

/-- A map that resolves every word as the arena does has the arena's bindings as its entries. -/
theorem entries_eq_bindings (sound : arena.WellFormed)
    (agrees : ∀ word, arena.get? word = bound.lookup word) : bound.entries = ↑arena.bindings := by
  refine (Multiset.Nodup.ext bound.nodup_entries
    (Multiset.coe_nodup.mpr (nodupKeys_bindings sound.size_le).nodup)).mpr ?_
  rintro ⟨word, value⟩
  rw [← Finmap.lookup_eq_some_iff, ← agrees, Multiset.mem_coe, mem_bindings_iff sound.size_le]

theorem values_eq_entries (sound : arena.WellFormed)
    (agrees : ∀ word, arena.get? word = bound.lookup word) :
    (arena.values : Multiset α) = bound.entries.map Sigma.snd := by
  rw [entries_eq_bindings sound agrees, values_eq_map_bindings, Multiset.map_coe]

theorem live_eq_card (sound : arena.WellFormed)
    (agrees : ∀ word, arena.get? word = bound.lookup word) : arena.live = bound.keys.card := by
  have entries : bound.keys.card = bound.entries.card := Multiset.card_map ..
  rw [entries, entries_eq_bindings sound agrees, Multiset.coe_card, sound.live_eq, values_eq_map_bindings,
    List.length_map]

/-- Where one word gets a value in the arena, it gets it in the map. -/
theorem agrees_insert (agrees : ∀ word, arena.get? word = bound.lookup word) {next : Arena α} {named : UInt64}
    {value : α} (changed : ∀ word, next.get? word = if word = named then some value else arena.get? word)
    (word : UInt64) :
    next.get? word = (bound.insert named value).lookup word := by
  rw [changed]
  split
  · rename_i same
    rw [same, Finmap.lookup_insert]
  · rename_i other
    rw [Finmap.lookup_insert_of_ne _ other, agrees]

theorem agrees_erase (agrees : ∀ word, arena.get? word = bound.lookup word) {next : Arena α} {named : UInt64}
    (changed : ∀ word, next.get? word = if word = named then none else arena.get? word) (word : UInt64) :
    next.get? word = (bound.erase named).lookup word := by
  rw [changed]
  split
  · rename_i same
    rw [same, Finmap.lookup_erase]
  · rename_i other
    rw [Finmap.lookup_erase_ne other, agrees]

/-- Some map resolves every word as the arena does. -/
theorem exists_lookup_eq (sound : arena.WellFormed) :
    ∃ bound : Finmap fun _ : UInt64 => α, ∀ word, arena.get? word = bound.lookup word := by
  refine ⟨⟨arena.bindings, Multiset.coe_nodupKeys.mpr (nodupKeys_bindings sound.size_le)⟩,
    fun word => Option.ext fun value => ?_⟩
  rw [Finmap.lookup_eq_some_iff]
  exact (mem_bindings_iff sound.size_le).symm

end Agreement

/-- Every way an operation can go, with what decides it. -/
inductive Change (arena : Arena α) : Operation α β → Answer α β → Arena α → Prop where
  | issued (value stored index) : arena.live ≠ slotLimit → arena.Stores value stored index →
      Change arena (.insert value) (.handle (handle index (arena.slotAt index).generation)) stored
  | full (value) : arena.live = slotLimit → Change arena (.insert value) .full arena
  | read (word f) : Change arena (.read word f) (.result ((arena.get? word).map f)) arena
  | updated (value rest index) (f : α → β × α) : arena.Refills value (f value).2 rest index →
      Change arena (.update (handle index (arena.slotAt index).generation) f)
        (.result (some (f value).1)) rest
  | missed (word f) : arena.get? word = none → Change arena (.update word f) (.result none) arena
  | contains (word) : Change arena (.contains word) (.holds (arena.contains word)) arena
  | removed (value rest index) : arena.Retires value rest index →
      Change arena (.remove (handle index (arena.slotAt index).generation)) (.taken (some value)) rest
  | absent (word) : arena.get? word = none → Change arena (.remove word) (.taken none) arena
  | drained (p rest) : arena.Drains p rest →
      Change arena (.drain p) (.drained (arena.values.filter p)) rest
  | size : Change arena .size (.size arena.live) arena

theorem perform_change {arena : Arena α} (sound : arena.WellFormed) (operation : Operation α β) :
    arena.Change operation (arena.perform operation).1 (arena.perform operation).2 := by
  cases operation with
  | insert value =>
    simp only [perform]
    have full : arena.insert value = none ↔ arena.live = slotLimit := insert_eq_none_iff sound
    cases done : arena.insert value with
    | none => exact .full value (full.mp done)
    | some placed =>
      obtain ⟨word, stored⟩ := placed
      obtain ⟨index, rfl, stores⟩ := insert_spec sound done
      have room : arena.live ≠ slotLimit := fun limit => by simp [full.mpr limit] at done
      exact .issued value stored index room stores
  | read word f => exact .read word f
  | update word f =>
    simp only [perform]
    cases found : arena.get? word with
    | none =>
      rw [modify_of_get?_eq_none found]
      exact .missed word f found
    | some value =>
      obtain ⟨index, rfl, refills⟩ := modify_spec sound found fun value => (f value).2
      exact .updated value _ index f refills
  | contains word => exact .contains word
  | remove word =>
    simp only [perform]
    cases found : arena.get? word with
    | none =>
      rw [remove?_of_get?_eq_none found]
      exact .absent word found
    | some value =>
      obtain ⟨rest, taken⟩ := remove?_of_get? found
      obtain ⟨index, rfl, retires⟩ := remove?_spec sound taken
      rw [taken]
      exact .removed value rest index retires
  | drain p => exact .drained p _ (drain_spec sound p)
  | size => exact .size

namespace Change

variable {arena next : Arena α} {operation : Operation α β} {answer : Answer α β}

theorem wellFormed (change : arena.Change operation answer next) (sound : arena.WellFormed) :
    next.WellFormed := by
  cases change with
  | issued _ _ _ _ stores => exact stores.wellFormed
  | updated _ _ _ _ refills => exact refills.wellFormed
  | removed _ _ _ retires => exact retires.wellFormed
  | drained _ _ drains => exact drains.wellFormed
  | _ => exact sound

theorem follows (change : arena.Change operation answer next) (index : Nat) :
    (arena.slotAt index).Follows (next.slotAt index) := by
  cases change with
  | issued _ _ _ _ stores => exact stores.follows index
  | updated _ _ _ _ refills => exact refills.follows index
  | removed _ _ _ retires => exact retires.follows index
  | drained _ _ drains => exact drains.follows index
  | _ => exact .refl _

end Change

/-- An answered handle is live afterwards. -/
theorem Change.live_of_issued {arena next : Arena α} {operation : Operation α β} {word : UInt64}
    (change : arena.Change operation (.handle word) next) (sound : arena.WellFormed) :
    ∃ value, next.get? word = some value := by
  cases change with
  | issued value _ _ _ stores => exact ⟨value, by rw [stores.get?_eq sound, if_pos rfl]⟩

theorem perform_advances {arena : Arena α} (sound : arena.WellFormed) (operation : Operation α β)
    (count : Nat → Nat) :
    arena.Advances (arena.perform operation).2 count
      fun index => count index + arena.retired operation index :=
  advances_of_follows (perform_change sound operation).follows count

/-- An arena, with the retirements of its slots, stands for a ledger. -/
structure Represents (arena : Arena α) (count : Nat → Nat) (ledger : Ledger α) : Prop where
  sound : arena.WellFormed
  counted : arena.CountedBy count
  agrees : ∀ word, arena.get? word = ledger.bound.lookup word
  used : ∀ word ∈ ledger.issued, arena.Used count word

theorem represents_empty : Represents ({} : Arena α) (fun _ => 0) {} where
  sound := wellFormed_empty
  counted := countedBy_empty
  agrees word := by
    cases found : ({} : Arena α).get? word with
    | none => rfl
    | some value =>
      have member := (mem_values_iff_get? wellFormed_empty.size_le).mpr ⟨word, found⟩
      cases member
  used := by simp

namespace Represents

variable {arena : Arena α} {count : Nat → Nat} {ledger : Ledger α}

/-- What the arena does, the ledger allows, and the two agree again. -/
theorem allows (represents : arena.Represents count ledger) (few : ∀ index, count index < 2 ^ 32)
    {operation : Operation α β} {answer : Answer α β} {next : Arena α}
    (change : arena.Change operation answer next) :
    ∃ ledger', ledger.Allows operation answer ledger' ∧
      ∀ word, next.get? word = ledger'.bound.lookup word := by
  obtain ⟨sound, counted, agrees, used⟩ := represents
  have gone {word : UInt64} (dead : arena.get? word = none) : word ∉ ledger.bound := by
    rw [← Finmap.lookup_eq_none, ← agrees, dead]
  have size := live_eq_card sound agrees
  cases change with
  | issued value stored index room stores =>
    refine ⟨_, .issued value _ ?_ (handle_ne_zero stores.fits _) (gone (stores.fresh sound)) ?_,
      agrees_insert agrees (stores.get?_eq sound)⟩
    · rw [← size]
      have whole := live_add_free sound
      have bounded := sound.size_le
      omega
    · intro issued
      exact (used _ issued).ne_vacant counted (few index) stores.fits stores.vacant rfl
  | full value limit =>
    exact ⟨ledger, .full value (size ▸ limit), agrees⟩
  | read word f =>
    rw [agrees]
    exact ⟨ledger, .read word f, agrees⟩
  | updated value rest index f refills =>
    have found : ledger.bound.lookup _ = some value := agrees _ ▸ refills.found sound
    exact ⟨_, .updated _ value f found, agrees_insert agrees (refills.get?_eq sound)⟩
  | missed word f dead => exact ⟨ledger, .missed word f (gone dead), agrees⟩
  | contains word =>
    have holds : arena.contains word = decide (word ∈ ledger.bound) := by
      rw [contains, agrees, Bool.eq_iff_iff, Finmap.lookup_isSome, decide_eq_true_iff]
    rw [holds]
    exact ⟨ledger, .contains word, agrees⟩
  | removed value rest index retires =>
    have found : ledger.bound.lookup _ = some value := agrees _ ▸ retires.found sound
    exact ⟨_, .removed _ value found, agrees_erase agrees (retires.get?_eq sound)⟩
  | absent word dead => exact ⟨ledger, .absent word (gone dead), agrees⟩
  | drained p rest drains =>
    obtain ⟨kept, agrees'⟩ := exists_lookup_eq drains.wellFormed
    refine ⟨_, .drained p _ kept ?_ ?_, agrees'⟩
    · rw [← values_eq_entries sound agrees, Multiset.filter_coe]
      simp
    · intro word
      rw [← agrees', drains.get?_eq sound, agrees]
  | size =>
    rw [size]
    exact ⟨ledger, .size, agrees⟩

theorem step (represents : arena.Represents count ledger) (few : ∀ index, count index < 2 ^ 32)
    (operation : Operation α β) :
    ∃ ledger', ledger.Allows operation (arena.perform operation).1 ledger' ∧
      (arena.perform operation).2.Represents (fun index => count index + arena.retired operation index)
        ledger' := by
  have change := perform_change represents.sound operation
  have advances := perform_advances represents.sound operation count
  obtain ⟨ledger', allowed, agrees⟩ := represents.allows few change
  have sound := change.wellFormed represents.sound
  have counted := represents.counted.advance advances
  refine ⟨ledger', allowed, sound, counted, agrees, ?_⟩
  intro word member
  rcases allowed.mem_issued_iff.mp member with answered | old
  · rw [answered] at change
    obtain ⟨value, live⟩ := change.live_of_issued represents.sound
    exact counted.used sound.size_le live
  · exact (represents.used word old).advance advances

/-- Along a run the arena and the ledger agree, as long as no generation has come around. -/
theorem run (represents : arena.Represents count ledger) (operations : List (Operation α β))
    (few : ∀ index, count index + arena.retirements index operations < 2 ^ 32) :
    ∃ last, Ledger.Run ledger (arena.transcript operations) last ∧
      (arena.performAll operations).Represents
        (fun index => count index + arena.retirements index operations) last := by
  induction operations generalizing arena count ledger with
  | nil => exact ⟨ledger, .done ledger, represents⟩
  | cons operation operations ih =>
    obtain ⟨ledger', allowed, represents'⟩ :=
      represents.step (fun index => (Nat.le_add_right _ _).trans_lt (few index)) operation
    simp only [retirements, ← Nat.add_assoc] at few ⊢
    obtain ⟨last, run, represents''⟩ := ih represents' few
    exact ⟨last, .step allowed run, represents''⟩

end Represents

/-- Every run of a new arena is a run of a ledger: handles are not null, resolve to nothing before and were never
answered before; every word is looked up, changed and removed as in the map; draining takes exactly the values with
the property; and inserting fails exactly when all slots are live. The answers determine the ledger. -/
theorem refines_finite_map (operations : List (Operation α β))
    (wrapless : ∀ index, ({} : Arena α).retirements index operations < 2 ^ 32) :
    let arena := ({} : Arena α).performAll operations
    let transcript := ({} : Arena α).transcript operations
    ∃ ledger : Ledger α, Ledger.Run {} transcript ledger ∧
      (∀ other, Ledger.Run {} transcript other → other = ledger) ∧
      (∀ word, arena.get? word = ledger.bound.lookup word) ∧ arena.live = ledger.bound.keys.card ∧
      ∀ word, word ∈ ledger.issued ↔ .handle word ∈ transcript.map Prod.snd := by
  intro arena transcript
  obtain ⟨ledger, run, represents⟩ := represents_empty.run operations (by simpa using wrapless)
  refine ⟨ledger, run, fun _ other => other.last_unique run, represents.agrees,
    live_eq_card represents.sound represents.agrees, fun word => ?_⟩
  rw [run.mem_issued_iff]
  exact or_iff_left (Finset.notMem_empty word)

/-- A slot is used twice: the handle of its first value is dead, also while the second one lives. -/
def reusedSlot : List (Operation Nat Nat) := [
  .insert 7,
  .insert 8,
  .remove 1,
  .insert 9,
  .read 1 id,
  .read 0x100000001 id,
  .update 2 fun value => (value, value + 10),
  .drain (· = 9),
  .contains 0x100000001,
  .size]

theorem refines_finite_map_of_reusedSlot :
    let transcript := ({} : Arena Nat).transcript reusedSlot
    (∀ index, ({} : Arena Nat).retirements index reusedSlot < 2 ^ 32) ∧
      transcript.map Prod.snd = [.handle 1, .handle 2, .taken (some 7), .handle 0x100000001,
        .result none, .result (some 9), .result (some 8), .drained [9], .holds false, .size 1] ∧
      ∃ ledger : Ledger Nat, Ledger.Run {} transcript ledger ∧ ledger.bound.lookup 2 = some 18 ∧
        0x100000001 ∈ ledger.issued := by
  intro transcript
  have few (index : Nat) : ({} : Arena Nat).retirements index reusedSlot < 2 ^ 32 :=
    (retirements_le_length _ index reusedSlot).trans_lt (by decide)
  obtain ⟨ledger, run, _, agrees, _, issued⟩ := refines_finite_map reusedSlot few
  refine ⟨few, by decide +kernel, ledger, run, ?_, (issued _).mpr (by decide)⟩
  rw [← agrees]
  decide +kernel

end SurfaceBridge.Handle.Arena
