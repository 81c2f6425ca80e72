import Mathlib.Data.List.Induction

/-! What holds since it was last started: a list of entries holds one that starts it and none after that which ends
it. Both a surface that is outstanding and an instance that stands are of this form. -/
namespace SurfaceBridge

/-- Some entry starts it, and no later entry ends it. -/
def Since {β : Type} (starts ends : β → Prop) (entries : List β) : Prop :=
  ∃ before entry after, entries = before ++ entry :: after ∧ starts entry ∧ ∀ later ∈ after, ¬ ends later

namespace Since

variable {β : Type} {starts ends : β → Prop}

theorem not_of_unstarted {entries : List β} (never : ∀ entry ∈ entries, ¬ starts entry) :
    ¬ Since starts ends entries := by
  rintro ⟨before, entry, after, rfl, started, _⟩
  exact never entry (by simp) started

theorem not_nil : ¬ Since starts ends [] :=
  not_of_unstarted (by simp)

theorem concat (entries : List β) (entry : β) :
    Since starts ends (entries ++ [entry]) ↔ starts entry ∨ Since starts ends entries ∧ ¬ ends entry := by
  constructor
  · rintro ⟨before, start, after, split, started, lasting⟩
    rcases List.eq_nil_or_concat after with rfl | ⟨middle, last, rfl⟩
    · left
      obtain ⟨_, same⟩ := List.append_inj' split rfl
      rw [List.singleton_inj.mp same]
      exact started
    · right
      rw [List.concat_eq_append, ← List.cons_append, ← List.append_assoc] at split
      obtain ⟨rfl, same⟩ := List.append_inj' split rfl
      rw [List.singleton_inj.mp same]
      refine ⟨⟨before, start, middle, rfl, started, ?_⟩, lasting last (by simp)⟩
      exact fun later member => lasting later (by simp [member])
  · rintro (started | ⟨⟨before, start, after, rfl, started, lasting⟩, stays⟩)
    · exact ⟨entries, entry, [], rfl, started, by simp⟩
    · refine ⟨before, start, after ++ [entry], by simp, started, ?_⟩
      intro later member
      rcases List.mem_append.mp member with early | last
      · exact lasting later early
      · rw [List.mem_singleton.mp last]
        exact stays

/-- What holds since some entry of two lists was started in the second one, or in the first one and not ended. -/
theorem append (front back : List β) :
    Since starts ends (front ++ back) ↔
      Since starts ends back ∨ Since starts ends front ∧ ∀ later ∈ back, ¬ ends later := by
  induction back using List.reverseRecOn with
  | nil => simp [not_nil]
  | append_singleton back last ih =>
    rw [← List.append_assoc, concat, concat, ih]
    simp only [List.mem_append, List.mem_singleton]
    constructor
    · rintro (started | ⟨here | ⟨early, lasting⟩, stays⟩)
      · exact .inl (.inl started)
      · exact .inl (.inr ⟨here, stays⟩)
      · refine .inr ⟨early, ?_⟩
        rintro later (old | rfl)
        · exact lasting later old
        · exact stays
    · rintro ((started | ⟨here, stays⟩) | ⟨early, lasting⟩)
      · exact .inl started
      · exact .inr ⟨.inl here, stays⟩
      · exact .inr ⟨.inr ⟨early, fun later old => lasting later (.inl old)⟩, lasting last (.inr rfl)⟩

/-- Entries that neither start nor end it make no difference. -/
theorem append_of_silent {back : List β} (silent : ∀ entry ∈ back, ¬ starts entry ∧ ¬ ends entry)
    (front : List β) : Since starts ends (front ++ back) ↔ Since starts ends front := by
  have unstarted : ¬ Since starts ends back := not_of_unstarted fun entry member => (silent entry member).1
  have lasting : ∀ later ∈ back, ¬ ends later := fun later member => (silent later member).2
  rw [append, or_iff_right unstarted, and_iff_left lasting]

/-- What started with the first entry was not ended by the others. -/
theorem cons (entry : β) (entries : List β) :
    Since starts ends (entry :: entries) ↔
      Since starts ends entries ∨ starts entry ∧ ∀ later ∈ entries, ¬ ends later := by
  have single : Since starts ends [entry] ↔ starts entry := by
    rw [← List.nil_append [entry], concat, or_iff_left fun early => not_nil early.1]
  rw [← List.singleton_append, append, single]

instance decidable [DecidablePred starts] [DecidablePred ends] :
    DecidablePred (Since starts ends)
  | [] => isFalse not_nil
  | entry :: entries =>
    have := decidable entries
    decidable_of_iff _ (cons entry entries).symm

end Since
end SurfaceBridge
