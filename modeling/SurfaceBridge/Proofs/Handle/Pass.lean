import SurfaceBridge.Proofs.Handle.Refinement

/-! Draining as it goes over the slots, and what it comes to: the removals of the leaving handles, one by one.
The pass asks of each live value once, in slot order, also if the answers depend on what was asked before. -/
namespace SurfaceBridge.Handle.Arena

variable {α β σ : Type}

/-- The values behind these handles are taken out one after the other; each handle is live when its turn comes. -/
inductive Removes : Arena α → List UInt64 → List α → Arena α → Prop where
  | done (arena : Arena α) : Removes arena [] [] arena
  | step {arena next rest : Arena α} {word : UInt64} {value : α} {words : List UInt64} {values : List α} :
      arena.remove? word = some (value, next) → Removes next words values rest →
      Removes arena (word :: words) (value :: values) rest

/-- A pass over the slots: the ones behind it as it left them, the values that it took, and where they were. -/
structure Pass (α : Type) where
  behind : List (Slot α) := []
  values : List α := []
  freed : List Nat := []

namespace Pass

def keep (pass : Pass α) (slot : Slot α) : Pass α := { pass with behind := pass.behind ++ [slot] }

def take (pass : Pass α) (slot : Slot α) (value : α) : Pass α where
  behind := pass.behind ++ [slot.retire]
  values := pass.values ++ [value]
  freed := pass.freed ++ [pass.behind.length]

/-- Only a slot that holds a value leads to a question. -/
def visit (ask : α → StateM σ Bool) (pass : Pass α) (slot : Slot α) : StateM σ (Pass α) :=
  match slot.value with
  | none => return pass.keep slot
  | some value => do
    if ← ask value then return pass.take slot value else return pass.keep slot

/-- The arena as it would be if the pass ended here. -/
def arena (pass : Pass α) (start : Arena α) (ahead : List (Slot α)) : Arena α where
  slots := (pass.behind ++ ahead).toArray
  free := pass.freed.reverse ++ start.free
  live := start.live - pass.values.length

end Pass

/-- Draining with a question that may remember what it was asked. -/
def drainBy (arena : Arena α) (ask : α → StateM σ Bool) : StateM σ (List α × Arena α) := do
  let pass ← arena.slots.toList.foldlM (Pass.visit ask) {}
  return (pass.values, pass.arena arena [])

/-- A question about the value alone, that notes what it was asked. -/
def noting (p : α → Bool) (value : α) : StateM (List α) Bool := do
  modifyThe (List α) (· ++ [value])
  return p value

/-- Those of the bindings for which the answer is yes. -/
def chosen (bindings : List (Σ _ : UInt64, α)) (answers : List Bool) : List (Σ _ : UInt64, α) :=
  ((bindings.zip answers).filter (·.2)).map (·.1)

/-- The bindings of slots that stand from an index on. -/
def bindingsFrom (index : Nat) : List (Slot α) → List (Σ _ : UInt64, α)
  | [] => []
  | slot :: slots =>
    (slot.value.map fun value => ⟨handle index slot.generation, value⟩).toList ++ bindingsFrom (index + 1) slots

theorem bindingsFrom_cons_none (index : Nat) {slot : Slot α} (vacant : slot.value = none) (slots : List (Slot α)) :
    bindingsFrom index (slot :: slots) = bindingsFrom (index + 1) slots := by
  rw [bindingsFrom, vacant]
  rfl

theorem bindingsFrom_cons_some (index : Nat) {slot : Slot α} {value : α} (occupied : slot.value = some value)
    (slots : List (Slot α)) :
    bindingsFrom index (slot :: slots) = ⟨handle index slot.generation, value⟩ :: bindingsFrom (index + 1) slots := by
  rw [bindingsFrom, occupied]
  rfl

/-- The live bindings are those of all slots. -/
theorem bindings_eq_bindingsFrom (arena : Arena α) : arena.bindings = bindingsFrom 0 arena.slots.toList := by
  have placed (slots : List (Slot α)) (index : Nat) :
      bindingsFrom index slots = (List.range slots.length).filterMap fun j =>
        (slots[j]?.getD ⟨0, none⟩).value.map fun value =>
          ⟨handle (index + j) (slots[j]?.getD ⟨0, none⟩).generation, value⟩ := by
    induction slots generalizing index with
    | nil => rfl
    | cons slot slots ih =>
      rw [bindingsFrom, ih, List.length_cons, List.range_succ_eq_map, List.filterMap_cons, List.filterMap_map]
      have further : (fun j => (slots[j]?.getD ⟨0, none⟩).value.map fun value =>
            (⟨handle (index + 1 + j) (slots[j]?.getD ⟨0, none⟩).generation, value⟩ : Σ _ : UInt64, α)) =
          (fun j => ((slot :: slots)[j]?.getD ⟨0, none⟩).value.map fun value =>
            ⟨handle (index + j) ((slot :: slots)[j]?.getD ⟨0, none⟩).generation, value⟩) ∘ Nat.succ := by
        funext j
        rw [Function.comp_apply, Nat.succ_eq_add_one, List.getElem?_cons_succ, Nat.add_right_comm, Nat.add_assoc]
      rw [further]
      cases occupied : slot.value <;> simp [occupied]
  rw [placed]
  simp only [Nat.zero_add, Array.getElem?_toList, Array.length_toList]
  rfl

section Visit

variable {ask : α → StateM σ Bool} {pass : Pass α} {slot : Slot α} {value : α} {start : Arena α}
  {ahead : List (Slot α)}

theorem run_visit_vacant (vacant : slot.value = none) (state : σ) :
    (pass.visit ask slot).run state = (pass.keep slot, state) := by
  rw [Pass.visit, vacant]
  rfl

theorem run_visit_occupied (occupied : slot.value = some value) (state : σ) :
    (pass.visit ask slot).run state =
      (if ((ask value).run state).1 then pass.take slot value else pass.keep slot, ((ask value).run state).2) := by
  rw [Pass.visit, occupied]
  show (StateT.run (if ((ask value).run state).1 then pure (pass.take slot value) else pure (pass.keep slot))
    ((ask value).run state).2 : Id _) = _
  split <;> rfl

/-- A slot that stays changes nothing. -/
theorem arena_keep : (pass.keep slot).arena start ahead = pass.arena start (slot :: ahead) := by
  simp [Pass.arena, Pass.keep]

private theorem modify_append_cons (front back : List (Slot α)) (slot : Slot α) (f : Slot α → Slot α) :
    (front ++ slot :: back).modify front.length f = front ++ f slot :: back := by
  induction front with
  | nil => rfl
  | cons first front ih => exact congrArg (first :: ·) ih

/-- A slot whose value goes is one removal. -/
theorem remove?_arena (occupied : slot.value = some value)
    (fits : pass.behind.length + (slot :: ahead).length ≤ slotLimit) :
    (pass.arena start (slot :: ahead)).remove? (handle pass.behind.length slot.generation) =
      some (value, (pass.take slot value).arena start ahead) := by
  have within : (pass.arena start (slot :: ahead)).slots.size ≤ slotLimit := by
    simpa [Pass.arena] using fits
  have stands : (pass.arena start (slot :: ahead)).slots[pass.behind.length]? =
      some ⟨slot.generation, some value⟩ := by
    simp [Pass.arena, ← occupied]
  have found := (resolve_eq_some_iff within).mpr ⟨slot.generation, rfl, stands⟩
  have retired : (pass.behind ++ slot :: ahead).modify pass.behind.length Slot.retire =
      pass.behind ++ [slot.retire] ++ ahead := by
    rw [modify_append_cons, List.append_assoc, List.singleton_append]
  rw [remove?, found]
  simp [Pass.arena, Pass.take, retired, Nat.sub_sub]

end Visit

section Run

variable (ask : α → StateM σ Bool) (state : σ)

private theorem run_foldlM_cons (pass : Pass α) (slot : Slot α) (ahead : List (Slot α)) :
    ((slot :: ahead).foldlM (Pass.visit ask) pass).run state =
      (ahead.foldlM (Pass.visit ask) ((pass.visit ask slot).run state).1).run ((pass.visit ask slot).run state).2 := by
  rw [List.foldlM_cons]
  rfl

private theorem run_mapM_cons (value : α) (values : List α) :
    ((value :: values).mapM ask).run state =
      (((ask value).run state).1 :: ((values.mapM ask).run ((ask value).run state).2).1,
        ((values.mapM ask).run ((ask value).run state).2).2) := by
  rw [List.mapM_cons]
  rfl

/-- The pass asks what asking of the values ahead asks, and what goes by the answers is removed handle by handle. -/
theorem run_pass (start : Arena α) (pass : Pass α) (ahead : List (Slot α))
    (fits : pass.behind.length + ahead.length ≤ slotLimit) :
    let asked := ((ahead.filterMap (·.value)).mapM ask).run state
    let leaving := chosen (bindingsFrom pass.behind.length ahead) asked.1
    ∃ last : Pass α, (ahead.foldlM (Pass.visit ask) pass).run state = (last, asked.2) ∧
      last.values = pass.values ++ leaving.map Sigma.snd ∧
      (pass.arena start ahead).Removes (leaving.map Sigma.fst) (leaving.map Sigma.snd) (last.arena start []) := by
  induction ahead generalizing pass state with
  | nil => exact ⟨pass, rfl, (List.append_nil _).symm, .done _⟩
  | cons slot ahead ih =>
    have fits' : pass.behind.length + 1 + ahead.length ≤ slotLimit := by
      rw [List.length_cons] at fits
      omega
    have kept : (pass.keep slot).behind.length = pass.behind.length + 1 := by simp [Pass.keep]
    rw [run_foldlM_cons]
    cases occupied : slot.value with
    | none =>
      rw [List.filterMap_cons_none occupied, bindingsFrom_cons_none _ occupied, run_visit_vacant occupied,
        ← arena_keep, ← kept]
      exact ih state (pass.keep slot) (kept ▸ fits')
    | some value =>
      rw [List.filterMap_cons_some occupied, bindingsFrom_cons_some _ occupied, run_visit_occupied occupied,
        run_mapM_cons]
      cases answer : ((ask value).run state).1 with
      | false =>
        rw [← arena_keep, ← kept]
        exact ih _ (pass.keep slot) (kept ▸ fits')
      | true =>
        have took : (pass.take slot value).behind.length = pass.behind.length + 1 := by simp [Pass.take]
        obtain ⟨last, ran, values, removes⟩ := ih ((ask value).run state).2 (pass.take slot value) (took ▸ fits')
        rw [took] at values removes
        refine ⟨last, ran, ?_, .step (remove?_arena occupied fits) removes⟩
        rw [values, Pass.take, List.append_assoc]
        rfl

end Run

/-- With a question about the values alone the pass takes what satisfies it, and asks of every value once. -/
theorem run_noting (p : α → Bool) (seen : List α) (pass : Pass α) (ahead : List (Slot α)) :
    (ahead.foldlM (Pass.visit (noting p)) pass).run seen =
      ({ behind := pass.behind ++ ahead.map fun slot => if slot.value.any p then slot.retire else slot
         values := pass.values ++ (ahead.filterMap (·.value)).filter p
         freed := pass.freed ++ ((List.range ahead.length).filter fun j =>
          ahead[j]?.any fun slot => slot.value.any p).map (pass.behind.length + ·) },
        seen ++ ahead.filterMap (·.value)) := by
  induction ahead generalizing pass seen with
  | nil =>
    simp only [List.map_nil, List.append_nil, List.filterMap_nil, List.filter_nil, List.length_nil, List.range_zero]
    rfl
  | cons slot ahead ih =>
    have positions : ((List.range (slot :: ahead).length).filter fun j =>
          (slot :: ahead)[j]?.any fun slot => slot.value.any p).map (pass.behind.length + ·) =
        (if slot.value.any p then [pass.behind.length] else []) ++
          ((List.range ahead.length).filter fun j => ahead[j]?.any fun slot => slot.value.any p).map
            (pass.behind.length + 1 + ·) := by
      rw [List.length_cons, List.range_succ_eq_map, List.filter_cons, List.filter_map, List.getElem?_cons_zero,
        Option.any_some]
      split
      · simp [Function.comp_def, Nat.add_assoc, Nat.add_comm 1]
      · simp [Function.comp_def, Nat.add_assoc, Nat.add_comm 1]
    rw [run_foldlM_cons, positions]
    cases occupied : slot.value with
    | none =>
      rw [run_visit_vacant occupied, ih]
      simp [Pass.keep, occupied]
    | some value =>
      have answered : (noting p value).run seen = (p value, seen ++ [value]) := rfl
      rw [run_visit_occupied occupied, answered, ih]
      cases leaves : p value with
      | false => simp [Pass.keep, occupied, leaves]
      | true => simp [Pass.take, occupied, leaves]

/-- A pass with a question about the values alone is what draining is, and it asks of every live value once. -/
theorem run_drainBy_noting (arena : Arena α) (p : α → Bool) :
    (arena.drainBy (noting p)).run [] = (arena.drain p, arena.values) := by
  have ran := run_noting p [] {} arena.slots.toList
  have passed : (arena.drainBy (noting p)).run [] =
      ((((arena.slots.toList.foldlM (Pass.visit (noting p)) {}).run []).1.values,
        ((arena.slots.toList.foldlM (Pass.visit (noting p)) {}).run []).1.arena arena []),
        ((arena.slots.toList.foldlM (Pass.visit (noting p)) {}).run []).2) := rfl
  have slots (f : Slot α → Slot α) : (arena.slots.toList.map f).toArray = arena.slots.map f := by
    rw [← Array.toList_map]
  rw [passed, ran]
  simp [Pass.arena, drain, values, slots]

variable {arena next rest : Arena α} {words : List UInt64} {values : List α}

/-- Removals leave every other handle with its value. -/
theorem Removes.get?_eq (removes : arena.Removes words values rest) (sound : arena.WellFormed) (word : UInt64) :
    rest.get? word = if word ∈ words then none else arena.get? word := by
  induction removes with
  | done => simp
  | step taken _ ih =>
    obtain ⟨index, rfl, retires⟩ := remove?_spec sound taken
    rw [ih retires.wellFormed, retires.get?_eq sound]
    simp only [List.mem_cons]
    split_ifs <;> tauto

theorem wellFormed_performAll (sound : arena.WellFormed) (operations : List (Operation α β)) :
    (arena.performAll operations).WellFormed := by
  induction operations generalizing arena with
  | nil => exact sound
  | cons operation operations ih => exact ih ((perform_change sound operation).wellFormed sound)

/-- Draining takes what the answers choose, handle by handle, and asks what asking of the live values asks. -/
theorem run_drainBy (bounded : arena.slots.size ≤ slotLimit) (ask : α → StateM σ Bool) (state : σ) :
    let asked := (arena.values.mapM ask).run state
    let leaving := chosen arena.bindings asked.1
    let drained := (arena.drainBy ask).run state
    arena.Removes (leaving.map Sigma.fst) drained.1.1 drained.1.2 ∧ drained.2 = asked.2 := by
  intro asked leaving drained
  obtain ⟨last, ran, taken, removes⟩ := run_pass ask state arena {} arena.slots.toList (by simpa using bounded)
  have whole : ({} : Pass α).arena arena arena.slots.toList = arena := by simp [Pass.arena]
  have passed : drained = ((last.values, last.arena arena []), asked.2) := by
    show (let pass := (arena.slots.toList.foldlM (Pass.visit ask) {}).run state
      ((pass.1.values, pass.1.arena arena []), pass.2)) = _
    rw [ran]
    rfl
  have listed : bindingsFrom ({} : Pass α).behind.length arena.slots.toList = arena.bindings :=
    (bindings_eq_bindingsFrom arena).symm
  rw [listed] at taken removes
  rw [whole] at removes
  rw [passed, taken]
  exact ⟨removes, rfl⟩

theorem run_mapM_noting (p : α → Bool) (values seen : List α) :
    (values.mapM (noting p)).run seen = (values.map p, seen ++ values) := by
  induction values generalizing seen with
  | nil => exact congrArg (Prod.mk _) (List.append_nil seen).symm
  | cons value values ih =>
    have answered : (noting p value).run seen = (p value, seen ++ [value]) := rfl
    rw [run_mapM_cons, answered, ih, List.append_assoc]
    rfl

/-- Answers that depend on the values alone choose the bindings by them. -/
theorem chosen_map (p : α → Bool) (bindings : List (Σ _ : UInt64, α)) :
    chosen bindings ((bindings.map Sigma.snd).map p) = bindings.filter fun binding => p binding.2 := by
  induction bindings with
  | nil => rfl
  | cons binding bindings ih =>
    rw [chosen, List.map_cons, List.map_cons, List.zip_cons_cons, List.filter_cons, List.filter_cons, ← ih]
    cases p binding.2 <;> rfl

/-- Draining a reachable arena is removing the handles of the values that satisfy the predicate, one after the other
and in slot order; it asks of every live value once, in slot order, and of nothing else, and all other handles keep
their values. So it is, too, if an answer depends on what was asked before. -/
theorem drain_is_removals (operations : List (Operation α β)) :
    let arena := ({} : Arena α).performAll operations
    (∀ p : α → Bool,
      let leaving := arena.bindings.filter fun binding => p binding.2
      arena.Removes (leaving.map Sigma.fst) (arena.drain p).1 (arena.drain p).2 ∧
      (arena.drainBy (noting p)).run [] = (arena.drain p, arena.values) ∧
      ∀ word, (arena.drain p).2.get? word = (arena.get? word).filter fun value => !p value) ∧
    ∀ (σ : Type) (ask : α → StateM σ Bool) (state : σ),
      let asked := (arena.values.mapM ask).run state
      let leaving := chosen arena.bindings asked.1
      let drained := (arena.drainBy ask).run state
      arena.Removes (leaving.map Sigma.fst) drained.1.1 drained.1.2 ∧ drained.2 = asked.2 ∧
      ∀ word, drained.1.2.get? word = if word ∈ leaving.map Sigma.fst then none else arena.get? word := by
  intro arena
  have sound : arena.WellFormed := wellFormed_performAll wellFormed_empty operations
  refine ⟨fun p => ?_, fun σ ask state => ?_⟩
  · have drained := run_drainBy_noting arena p
    obtain ⟨removes, _⟩ := run_drainBy sound.size_le (noting p) []
    rw [drained, run_mapM_noting, values_eq_map_bindings, chosen_map] at removes
    exact ⟨removes, drained, (drain_spec sound p).get?_eq sound⟩
  · obtain ⟨removes, states⟩ := run_drainBy sound.size_le ask state
    exact ⟨removes, states, removes.get?_eq sound⟩

end SurfaceBridge.Handle.Arena
