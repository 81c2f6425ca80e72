import SurfaceBridge.Handle.Arena
import Mathlib.Data.Finmap

/-! What callers of an arena may rely on, said without slots: a finite map from handles to values, and the handles
issued so far, none of which is issued again. -/
namespace SurfaceBridge.Handle

/-- One use of an arena; `read` and `update` look at the value behind a word through a function. -/
inductive Operation (α β : Type) where
  | insert (value : α)
  | read (word : UInt64) (f : α → β)
  | update (word : UInt64) (f : α → β × α)
  | contains (word : UInt64)
  | remove (word : UInt64)
  | drain (p : α → Bool)
  | size

inductive Answer (α β : Type) where
  | handle (word : UInt64)
  | full
  | result (found : Option β)
  | holds (yes : Bool)
  | taken (value : Option α)
  | drained (values : List α)
  | size (count : Nat)
  deriving DecidableEq

structure Ledger (α : Type) where
  /-- The value behind each live handle. -/
  bound : Finmap fun _ : UInt64 => α := ∅
  /-- Every handle that was answered. -/
  issued : Finset UInt64 := ∅

namespace Ledger

variable {α β : Type}

/-- What an operation may answer, and what the ledger holds afterwards. -/
inductive Allows (ledger : Ledger α) : Operation α β → Answer α β → Ledger α → Prop where
  | issued (value : α) (word : UInt64) : ledger.bound.keys.card < Arena.slotLimit → word ≠ 0 →
      word ∉ ledger.bound → word ∉ ledger.issued →
      Allows ledger (.insert value) (.handle word)
        { bound := ledger.bound.insert word value, issued := insert word ledger.issued }
  | full (value : α) : ledger.bound.keys.card = Arena.slotLimit →
      Allows ledger (.insert value) .full ledger
  | read (word : UInt64) (f : α → β) :
      Allows ledger (.read word f) (.result ((ledger.bound.lookup word).map f)) ledger
  | updated (word : UInt64) (value : α) (f : α → β × α) : ledger.bound.lookup word = some value →
      Allows ledger (.update word f) (.result (some (f value).1))
        { ledger with bound := ledger.bound.insert word (f value).2 }
  | missed (word : UInt64) (f : α → β × α) : word ∉ ledger.bound →
      Allows ledger (.update word f) (.result none) ledger
  | contains (word : UInt64) : Allows ledger (.contains word) (.holds (word ∈ ledger.bound)) ledger
  | removed (word : UInt64) (value : α) : ledger.bound.lookup word = some value →
      Allows ledger (.remove word) (.taken (some value)) { ledger with bound := ledger.bound.erase word }
  | absent (word : UInt64) : word ∉ ledger.bound → Allows ledger (.remove word) (.taken none) ledger
  | drained (p : α → Bool) (values : List α) (rest : Finmap fun _ : UInt64 => α) :
      (values : Multiset α) = (ledger.bound.entries.map Sigma.snd).filter (fun value => p value) →
      (∀ word, rest.lookup word = (ledger.bound.lookup word).filter fun value => !p value) →
      Allows ledger (.drain p) (.drained values) { ledger with bound := rest }
  | size : Allows ledger .size (.size ledger.bound.keys.card) ledger

/-- The answers that a run of operations may get, and the ledger after it. -/
inductive Run : Ledger α → List (Operation α β × Answer α β) → Ledger α → Prop where
  | done (ledger : Ledger α) : Run ledger [] ledger
  | step {ledger next last : Ledger α} {operation : Operation α β} {answer : Answer α β}
      {entries : List (Operation α β × Answer α β)} : Allows ledger operation answer next →
      Run next entries last → Run ledger ((operation, answer) :: entries) last

variable {ledger next next' last : Ledger α} {operation : Operation α β} {answer : Answer α β}
  {entries : List (Operation α β × Answer α β)} {word : UInt64}

/-- An operation and its answer leave no choice. -/
theorem Allows.next_unique (first : Allows ledger operation answer next)
    (second : Allows ledger operation answer next') : next = next' := by
  cases first with
  | drained p values rest _ lookup =>
    cases second with
    | drained _ _ rest' _ lookup' =>
      congr 1
      exact Finmap.ext_lookup fun word => (lookup word).trans (lookup' word).symm
  | updated word value f found =>
    generalize same : Answer.result _ = answer at second
    cases second with
    | updated _ value' _ found' =>
      rw [found, Option.some.injEq] at found'
      rw [found']
    | missed => simp at same
  | missed =>
    generalize same : Answer.result _ = answer at second
    cases second with
    | updated => simp at same
    | missed => rfl
  | _ =>
    cases second
    rfl

theorem Run.last_unique {last' : Ledger α} (first : Run ledger entries last)
    (second : Run ledger entries last') : last = last' := by
  induction first with
  | done =>
    cases second
    rfl
  | step allowed _ ih =>
    cases second with
    | step allowed' rest =>
      rw [← allowed.next_unique allowed'] at rest
      exact ih rest

theorem Allows.mem_issued_iff (step : Allows ledger operation answer next) :
    word ∈ next.issued ↔ answer = .handle word ∨ word ∈ ledger.issued := by
  cases step with
  | issued => simp [eq_comm]
  | _ => simp

/-- The handles that a ledger has issued are those that were answered. -/
theorem Run.mem_issued_iff (run : Run ledger entries last) :
    word ∈ last.issued ↔ .handle word ∈ entries.map Prod.snd ∨ word ∈ ledger.issued := by
  induction run with
  | done => simp
  | step step _ ih => rw [ih, step.mem_issued_iff, List.map_cons, List.mem_cons, eq_comm, or_assoc, or_left_comm]

end Ledger
end SurfaceBridge.Handle
