import SurfaceBridge.Proofs.Handle.Refinement

/-! Which values an operation takes out of an arena, by their handles: those that were live and are not any more. A
handle that was issued is live until its value is taken out, and never again. -/
namespace SurfaceBridge.Handle

/-- The operation changes no value that has the property into one that lacks it. -/
def Operation.Respects {α β : Type} (p : α → Prop) : Operation α β → Prop
  | .update _ f => ∀ value, p value → p (f value).2
  | _ => True

/-- The values that an operation hands over for good. -/
def Answer.values {α β : Type} : Answer α β → List α
  | .taken value => value.toList
  | .drained values => values
  | _ => []

namespace Ledger

variable {α β : Type} {ledger next : Ledger α} {operation : Operation α β} {answer : Answer α β} {word : UInt64}
  {p : α → Prop}

/-- A handle names what was inserted when it was issued, what an update made of its value, or what it named before. -/
theorem Allows.lookup_cases (step : Allows ledger operation answer next) {value : α}
    (found : next.bound.lookup word = some value) :
    operation = .insert value ∧ answer = .handle word ∨
      (∃ f before, operation = .update word f ∧ ledger.bound.lookup word = some before ∧ value = (f before).2) ∨
      ledger.bound.lookup word = some value := by
  cases step with
  | issued inserted other =>
    by_cases same : word = other
    · subst same
      rw [Finmap.lookup_insert, Option.some.injEq] at found
      exact .inl ⟨by rw [found], rfl⟩
    · rw [Finmap.lookup_insert_of_ne _ same] at found
      exact .inr (.inr found)
  | updated other before f live =>
    by_cases same : word = other
    · subst same
      rw [Finmap.lookup_insert, Option.some.injEq] at found
      exact .inr (.inl ⟨f, before, rfl, live, found.symm⟩)
    · rw [Finmap.lookup_insert_of_ne _ same] at found
      exact .inr (.inr found)
  | removed other =>
    by_cases same : word = other
    · subst same
      rw [Finmap.lookup_erase] at found
      cases found
    · rw [Finmap.lookup_erase_ne same] at found
      exact .inr (.inr found)
  | drained _ _ rest _ lookup =>
    rw [lookup, Option.filter_eq_some_iff] at found
    exact .inr (.inr found.1)
  | _ => exact .inr (.inr found)

/-- A handle becomes live when it is issued for the first time, and in no other way. -/
theorem Allows.mem_cases (step : Allows ledger operation answer next) (word : UInt64) :
    (word ∉ ledger.issued ∧ word ∉ ledger.bound ∧ word ∈ next.issued ∧ word ∈ next.bound) ∨
      (word ∈ next.issued ↔ word ∈ ledger.issued) ∧ (word ∈ next.bound → word ∈ ledger.bound) := by
  by_cases answered : answer = .handle word
  · subst answered
    cases step with
    | issued _ _ _ _ unbound unissued =>
      exact .inl ⟨unissued, unbound, Finset.mem_insert_self .., Finmap.mem_insert.mpr (.inl rfl)⟩
  · refine .inr ⟨step.mem_issued_iff.trans (or_iff_right answered), fun bound => ?_⟩
    obtain ⟨value, found⟩ := Finmap.mem_iff.mp bound
    obtain ⟨_, named⟩ | ⟨_, _, _, live, _⟩ | live := step.lookup_cases found
    · exact (answered named).elim
    · exact Finmap.mem_of_lookup_eq_some live
    · exact Finmap.mem_of_lookup_eq_some live

/-- The handle was issued, and its value has the property as long as it is there. -/
def Keeps (ledger : Ledger α) (word : UInt64) (p : α → Prop) : Prop :=
  word ∈ ledger.issued ∧ ∀ value, ledger.bound.lookup word = some value → p value

/-- An issued handle names the same value forever, but for updates. -/
theorem Keeps.step (keeps : ledger.Keeps word p) (step : Allows ledger operation answer next)
    (respects : operation.Respects p) : next.Keeps word p := by
  obtain ⟨old, holds⟩ := keeps
  refine ⟨step.mem_issued_iff.mpr (.inr old), fun value found => ?_⟩
  obtain ⟨rfl, rfl⟩ | ⟨f, before, rfl, live, rfl⟩ | live := step.lookup_cases found
  · cases step with
    | issued _ _ _ _ _ unissued => exact (unissued old).elim
  · exact respects before (holds before live)
  · exact holds value live

/-- Every issued handle is live or has left, not both, and none has left twice. -/
structure Balanced (ledger : Ledger α) (left : List UInt64) : Prop where
  nodup : left.Nodup
  mem_iff : ∀ word, word ∈ left ↔ word ∈ ledger.issued ∧ word ∉ ledger.bound
  issued : ∀ word ∈ ledger.bound, word ∈ ledger.issued

theorem balanced_empty : ({} : Ledger α).Balanced [] where
  nodup := List.nodup_nil
  mem_iff := by simp
  issued word bound := (Finmap.notMem_empty bound).elim

theorem Balanced.step {left leaving : List UInt64} (balanced : ledger.Balanced left)
    (step : Allows ledger operation answer next) (distinct : leaving.Nodup)
    (leaves : ∀ word, word ∈ leaving ↔ word ∈ ledger.bound ∧ word ∉ next.bound) :
    next.Balanced (left ++ leaving) where
  nodup := by
    refine balanced.nodup.append distinct fun word before now => ?_
    exact ((balanced.mem_iff word).mp before).2 ((leaves word).mp now).1
  mem_iff word := by
    rw [List.mem_append, balanced.mem_iff, leaves]
    have old := balanced.issued word
    rcases step.mem_cases word with fresh | ⟨same, shrinks⟩ <;> tauto
  issued word bound := by
    rcases step.mem_cases word with ⟨_, _, issued, _⟩ | ⟨same, shrinks⟩
    · exact issued
    · exact same.mpr (balanced.issued word (shrinks bound))

end Ledger

namespace Arena

variable {α β : Type} {arena next : Arena α} {operation : Operation α β} {answer : Answer α β} {word : UInt64}
  {value : α}

/-- The handles whose values an operation takes out, with the values, in the order in which it hands them over. -/
def leaving (arena : Arena α) : Operation α β → List (Σ _ : UInt64, α)
  | .remove word => (arena.get? word).toList.map fun value => ⟨word, value⟩
  | .drain p => arena.bindings.filter fun binding => p binding.2
  | _ => []

theorem perform_remove (arena : Arena α) (word : UInt64) :
    (arena.perform (.remove word : Operation α β)).1 = .taken (arena.get? word) := by
  simp only [perform]
  cases found : arena.get? word with
  | none => rw [remove?_of_get?_eq_none found]
  | some value =>
    obtain ⟨rest, taken⟩ := remove?_of_get? found
    rw [taken]

/-- What an operation hands over is what leaves. -/
theorem values_perform (arena : Arena α) (operation : Operation α β) :
    (arena.perform operation).1.values = (arena.leaving operation).map Sigma.snd := by
  cases operation with
  | insert value =>
    simp only [perform]
    cases arena.insert value <;> rfl
  | remove word =>
    rw [perform_remove, leaving, List.map_map]
    exact (List.map_id' ..).symm
  | drain p =>
    show arena.values.filter p = _
    rw [values_eq_map_bindings, List.filter_map]
    rfl
  | _ => rfl

/-- What leaves is what was live and is not any more. -/
theorem Change.mem_leaving_iff (change : arena.Change operation answer next) (sound : arena.WellFormed) :
    ⟨word, value⟩ ∈ arena.leaving operation ↔ arena.get? word = some value ∧ next.get? word = none := by
  cases change with
  | issued _ _ _ _ stores =>
    rw [stores.get?_eq sound]
    split <;> simp_all [leaving]
  | updated _ _ _ _ refills =>
    rw [refills.get?_eq sound]
    split <;> simp_all [leaving]
  | removed held _ index retires =>
    have found := retires.found sound
    rw [retires.get?_eq sound, leaving, found]
    by_cases named : word = handle index (arena.slotAt index).generation
    · subst named
      simp [found, eq_comm]
    · simp only [named, Option.toList_some, List.map_singleton, List.mem_singleton, Sigma.mk.injEq, if_false,
        false_and, false_iff]
      rintro ⟨live, dead⟩
      rw [live] at dead
      cases dead
  | absent other dead =>
    rw [leaving, dead]
    simp_all
  | drained p _ drains =>
    rw [drains.get?_eq sound, leaving, List.mem_filter, mem_bindings_iff sound.size_le]
    refine and_congr_right fun live => ?_
    rw [live, Option.filter_some]
    cases p value <;> simp
  | _ => simp_all [leaving]

/-- No handle leaves twice at a time. -/
theorem nodup_leaving (sound : arena.WellFormed) (operation : Operation α β) :
    ((arena.leaving operation).map Sigma.fst).Nodup := by
  cases operation with
  | remove word =>
    rw [leaving]
    cases arena.get? word <;> simp
  | drain p => exact (nodupKeys_bindings sound.size_le).sublist List.filter_sublist
  | _ => exact List.nodup_nil

namespace Represents

variable {count count' : Nat → Nat} {ledger ledger' : Ledger α}

theorem get?_eq_none_iff (represents : arena.Represents count ledger) :
    arena.get? word = none ↔ word ∉ ledger.bound := by
  rw [represents.agrees, Finmap.lookup_eq_none]

theorem mem_bound (represents : arena.Represents count ledger) (live : arena.get? word = some value) :
    word ∈ ledger.bound :=
  Finmap.mem_of_lookup_eq_some (represents.agrees word ▸ live)

/-- What the arena hands over is what the ledger loses. -/
theorem balanced {left : List UInt64} (represents : arena.Represents count ledger)
    (represents' : next.Represents count' ledger') (change : arena.Change operation answer next)
    (step : ledger.Allows operation answer ledger') (balanced : ledger.Balanced left) :
    ledger'.Balanced (left ++ (arena.leaving operation).map Sigma.fst) := by
  refine balanced.step step (nodup_leaving represents.sound operation) fun word => ?_
  rw [← represents'.get?_eq_none_iff]
  constructor
  · intro leaves
    obtain ⟨⟨_, value⟩, member, rfl⟩ := List.mem_map.mp leaves
    obtain ⟨live, dead⟩ := (change.mem_leaving_iff represents.sound).mp member
    exact ⟨represents.mem_bound live, dead⟩
  · rintro ⟨bound, dead⟩
    obtain ⟨value, found⟩ := Finmap.mem_iff.mp bound
    have live := (represents.agrees word).trans found
    exact List.mem_map.mpr ⟨_, (change.mem_leaving_iff represents.sound).mpr ⟨live, dead⟩, rfl⟩

end Represents

end Arena

end SurfaceBridge.Handle
