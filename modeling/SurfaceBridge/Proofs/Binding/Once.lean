import SurfaceBridge.Binding.Factory
import Mathlib.Data.List.Induction

/-! Loading happens once. A binding state is settled by the first loader that it meets, and a factory by the
loader at the first request for its version; what any later loader would answer makes no difference. -/
namespace SurfaceBridge

/-- The answer with the number of the call that it would be given in: tables of different calls are told apart. -/
def Loading.inCall {β : Type} (number : Nat) (load : Loading β) : Loading (Nat × β) :=
  (load.1.map fun bindings => (number, bindings), load.2)

namespace BindingState

variable {β : Type}

/-- The state that a loader's answer leads to. -/
def settledBy (load : Loading β) : BindingState β :=
  match load.1 with
  | .ok bindings => .ready bindings
  | .error _ => .unavailable

def bindings? : BindingState β → Option β
  | ready bindings => some bindings
  | uninitialized | unavailable => none

/-- The state after some calls, each with a loader of its own. -/
def after (state : BindingState β) (loads : List (Loading β)) : BindingState β :=
  loads.foldl (fun state load => (state.acquire load).state) state

theorem acquire_uninitialized (load : Loading β) :
    let acquired := (uninitialized : BindingState β).acquire load
    acquired.state = settledBy load ∧ acquired.bindings = (settledBy load).bindings? ∧
      acquired.loaded = true := by
  obtain ⟨answer, log⟩ := load
  cases answer with
  | ok bindings => exact ⟨rfl, rfl, rfl⟩
  | error e => exact ⟨rfl, rfl, rfl⟩

/-- Once a loader was called, no other one is. -/
theorem acquire_settledBy (first load : Loading β) :
    (settledBy first).acquire load =
      { state := settledBy first, bindings := (settledBy first).bindings?, loaded := false, log := [] } := by
  unfold settledBy
  cases first.1 with
  | ok bindings => rfl
  | error e => rfl

/-- A loader that was not called makes no difference. -/
theorem acquire_of_not_loaded (state : BindingState β) {load : Loading β}
    (idle : (state.acquire load).loaded = false) (other : Loading β) : state.acquire other = state.acquire load := by
  cases state with
  | uninitialized =>
    rw [(acquire_uninitialized load).2.2] at idle
    cases idle
  | ready bindings => rfl
  | unavailable => rfl

theorem after_settledBy (first : Loading β) (loads : List (Loading β)) :
    (settledBy first).after loads = settledBy first := by
  induction loads with
  | nil => rfl
  | cons load loads ih =>
    rw [after, List.foldl_cons, acquire_settledBy]
    exact ih

theorem after_cons (first : Loading β) (loads : List (Loading β)) :
    uninitialized.after (first :: loads) = settledBy first := by
  rw [after, List.foldl_cons, (acquire_uninitialized first).1]
  exact after_settledBy first loads

/-- What a call is answered after others: the first of all loaders decides. -/
theorem acquire_after (done : List (Loading β)) (load : Loading β) :
    let acquired := (uninitialized.after done).acquire load
    acquired.state = settledBy (done.headD load) ∧ acquired.bindings = (settledBy (done.headD load)).bindings? ∧
      (acquired.loaded = true ↔ done = []) := by
  cases done with
  | nil =>
    obtain ⟨next, given, called⟩ := acquire_uninitialized load
    exact ⟨next, given, iff_of_true called rfl⟩
  | cons first done =>
    simp only [after_cons, acquire_settledBy, List.headD_cons]
    exact ⟨trivial, trivial, by simp⟩

end BindingState

theorem Loading.headD_inCall {β : Type} (done : List (Loading β)) (load : Loading β) :
    (done.mapIdx Loading.inCall).headD (load.inCall done.length) = (done.headD load).inCall 0 := by
  cases done with
  | nil => rfl
  | cons first done => rw [List.mapIdx_cons, List.headD_cons, List.headD_cons]

namespace Factory

variable {β : Type}

/-- The factory after some requests. A request is a version, with what the loader would answer at that time. -/
def after (factory : Factory β) (requests : List (UInt32 × Loading β)) : Factory β :=
  requests.foldl (fun factory request => (factory.getDriver request.1 request.2).factory) factory

/-- The outcomes of some requests. -/
def run (factory : Factory β) : List (UInt32 × Loading β) → List (Handout β)
  | [] => []
  | (version, load) :: rest =>
    let handout := factory.getDriver version load
    handout :: handout.factory.run rest

/-- The first request for the version that there is a driver for. -/
def firstMatch? (requests : List (UInt32 × Loading β)) : Option (UInt32 × Loading β) :=
  requests.find? fun request => request.1 = driverVersion

/-- The factory that a loader's answer leads to. -/
def ofLoad (load : Loading β) : Factory β :=
  match load.1 with
  | .ok bindings => { state := .ready bindings, driver := some { number := 0, bindings }, count := 1 }
  | .error _ => { state := .unavailable }

theorem driver_ofLoad (load : Loading β) :
    (ofLoad load).driver = load.1.toOption.map fun bindings => { number := 0, bindings } := by
  unfold ofLoad
  cases load.1 with
  | ok bindings => rfl
  | error e => rfl

theorem getDriver_of_ne (factory : Factory β) {version : UInt32} (other : version ≠ driverVersion)
    (load : Loading β) :
    factory.getDriver version load =
      { factory, driver := none, loaded := false, log := [.rejected (.versionMismatch driverVersion version)] } := by
  simp only [getDriver, checkVersion, if_neg other]

/-- A loader that was not called makes no difference. -/
theorem getDriver_of_not_loaded (factory : Factory β) {version : UInt32} {load : Loading β}
    (idle : (factory.getDriver version load).loaded = false) (other : Loading β) :
    factory.getDriver version other = factory.getDriver version load := by
  by_cases right : version = driverVersion
  · simp only [getDriver, checkVersion, if_pos right] at idle ⊢
    cases held : factory.driver with
    | some driver => rfl
    | none =>
      have unasked : (factory.state.acquire load).loaded = false := by
        rw [held] at idle
        cases given : (factory.state.acquire load).bindings <;> simpa only [given] using idle
      rw [BindingState.acquire_of_not_loaded factory.state unasked other]
  · rw [getDriver_of_ne factory right, getDriver_of_ne factory right]

/-- The first request for the right version calls the loader. -/
theorem getDriver_empty (load : Loading β) :
    let handout := ({} : Factory β).getDriver driverVersion load
    handout.factory = ofLoad load ∧ handout.driver = (ofLoad load).driver ∧ handout.loaded = true := by
  obtain ⟨answer, log⟩ := load
  cases answer with
  | ok bindings => exact ⟨rfl, rfl, rfl⟩
  | error e => exact ⟨rfl, rfl, rfl⟩

/-- All later ones answer as it did. -/
theorem getDriver_ofLoad (first load : Loading β) :
    (ofLoad first).getDriver driverVersion load =
      { factory := ofLoad first, driver := (ofLoad first).driver, loaded := false, log := [] } := by
  unfold ofLoad
  cases first.1 with
  | ok bindings => rfl
  | error e => rfl

theorem after_concat (factory : Factory β) (requests : List (UInt32 × Loading β)) (version : UInt32)
    (load : Loading β) :
    factory.after (requests ++ [(version, load)]) = ((factory.after requests).getDriver version load).factory := by
  rw [after, List.foldl_append]
  rfl

theorem firstMatch?_concat (requests : List (UInt32 × Loading β)) (version : UInt32) (load : Loading β) :
    firstMatch? (requests ++ [(version, load)]) =
      (firstMatch? requests).or (if version = driverVersion then some (version, load) else none) := by
  rw [firstMatch?, List.find?_append, List.find?_singleton]
  simp only [decide_eq_true_eq, firstMatch?]

theorem firstMatch?_eq_none_iff (requests : List (UInt32 × Loading β)) :
    firstMatch? requests = none ↔ ∀ request ∈ requests, request.1 ≠ driverVersion := by
  simp [firstMatch?]

/-- The first match is all that a factory remembers. -/
theorem after_empty (requests : List (UInt32 × Loading β)) :
    ({} : Factory β).after requests = (firstMatch? requests).elim {} fun first => ofLoad first.2 := by
  induction requests using List.reverseRecOn with
  | nil => rfl
  | append_singleton requests last ih =>
    obtain ⟨version, load⟩ := last
    rw [after_concat, firstMatch?_concat, ih]
    by_cases right : version = driverVersion
    · subst right
      cases firstMatch? requests with
      | none => exact (getDriver_empty load).1
      | some first => exact congrArg Handout.factory (getDriver_ofLoad first.2 load)
    · rw [getDriver_of_ne _ right, if_neg right, Option.or_none]

/-- A request for the right version is answered by the first loader that was called, if need be by its own. -/
theorem getDriver_elim (first : Option (Loading β)) (load : Loading β) :
    let handout := (first.elim {} ofLoad).getDriver driverVersion load
    handout.factory = ofLoad (first.getD load) ∧ handout.driver = (ofLoad (first.getD load)).driver ∧
      (handout.loaded = true ↔ first = none) := by
  cases first with
  | none =>
    obtain ⟨next, given, loaded⟩ := getDriver_empty load
    exact ⟨next, given, iff_of_true loaded rfl⟩
  | some first =>
    simp only [Option.elim_some, Option.getD_some, getDriver_ofLoad]
    exact ⟨trivial, trivial, by simp⟩

theorem getDriver_after (done : List (UInt32 × Loading β)) (load : Loading β) :
    let handout := (({} : Factory β).after done).getDriver driverVersion load
    let first := (firstMatch? done).getD (driverVersion, load)
    handout.driver = (ofLoad first.2).driver ∧ (handout.loaded = true ↔ firstMatch? done = none) := by
  intro handout first
  have settled : ({} : Factory β).after done = ((firstMatch? done).map Prod.snd).elim {} ofLoad := by
    rw [after_empty, Option.elim_map]
    rfl
  have same : ((firstMatch? done).map Prod.snd).getD load = first.2 :=
    Option.getD_map Prod.snd (driverVersion, load) _
  obtain ⟨_, given, called⟩ := getDriver_elim ((firstMatch? done).map Prod.snd) load
  rw [← settled] at given called
  exact ⟨given.trans (by rw [same]), called.trans Option.map_eq_none_iff⟩

theorem run_concat (factory : Factory β) (requests : List (UInt32 × Loading β)) (version : UInt32)
    (load : Loading β) :
    factory.run (requests ++ [(version, load)]) =
      factory.run requests ++ [(factory.after requests).getDriver version load] := by
  induction requests generalizing factory with
  | nil => rfl
  | cons first requests ih =>
    obtain ⟨firstVersion, firstLoad⟩ := first
    simp only [List.cons_append, run, ih]
    rfl

/-- The loader is called once if some request is for the right version, and else not at all. -/
theorem countP_loaded (requests : List (UInt32 × Loading β)) :
    (({} : Factory β).run requests).countP (·.loaded) = if firstMatch? requests = none then 0 else 1 := by
  induction requests using List.reverseRecOn with
  | nil => rfl
  | append_singleton requests last ih =>
    obtain ⟨version, load⟩ := last
    rw [run_concat, List.countP_append, List.countP_singleton, ih, firstMatch?_concat]
    by_cases right : version = driverVersion
    · subst right
      have called := (getDriver_after requests load).2
      cases found : firstMatch? requests with
      | none => simp [called.mpr found]
      | some earlier => simp [called, found]
    · simp [getDriver_of_ne _ right, right]

end Factory

/-- The requests of a factory call its loader once, at the first request for the right version, and the driver that is
built then is the answer to every such request; no other request does anything. Likewise a binding state calls the
first of its loaders only, and keeps to the table of that call, or to there being none. -/
theorem one_shot_initialization (β : Type) :
    (∀ (done : List (UInt32 × Loading β)) (version : UInt32) (load : Loading β),
      let factory := ({} : Factory β).after done
      let handout := factory.getDriver version load
      (handout.loaded = true ↔ version = driverVersion ∧ ∀ earlier ∈ done, earlier.1 ≠ driverVersion) ∧
      (handout.loaded = true ∨ ∀ other, factory.getDriver version other = handout) ∧
      if version = driverVersion then
        ∃ first, (done ++ [(version, load)]).find? (fun request => request.1 = driverVersion) = some first ∧
          handout.driver = first.2.1.toOption.map fun bindings => { number := 0, bindings }
      else handout.driver = none ∧ handout.factory = factory) ∧
    (∀ requests : List (UInt32 × Loading β),
      (({} : Factory β).run requests).countP (·.loaded) =
        if ∃ request ∈ requests, request.1 = driverVersion then 1 else 0) ∧
    ∀ (done : List (Loading β)) (load : Loading β),
      let state := BindingState.uninitialized.after (done.mapIdx Loading.inCall)
      let acquired := state.acquire (load.inCall done.length)
      (acquired.loaded = true ↔ done = []) ∧
      (acquired.loaded = true ∨ ∀ other, state.acquire other = acquired) ∧
      match (done.headD load).1 with
      | .ok bindings => acquired.bindings = some (0, bindings) ∧ acquired.state = .ready (0, bindings)
      | .error _ => acquired.bindings = none ∧ acquired.state = .unavailable := by
  refine ⟨fun done version load => ?_, fun requests => ?_, fun done load => ?_⟩
  · intro factory handout
    have idle : handout.loaded = true ∨ ∀ other, factory.getDriver version other = handout := by
      by_cases called : handout.loaded = true
      · exact .inl called
      · exact .inr (factory.getDriver_of_not_loaded (Bool.eq_false_iff.mpr called))
    by_cases right : version = driverVersion
    · subst right
      obtain ⟨driver, called⟩ := Factory.getDriver_after done load
      refine ⟨?_, idle, ?_⟩
      · rw [called, Factory.firstMatch?_eq_none_iff, and_iff_right rfl]
      · rw [if_pos rfl]
        refine ⟨(Factory.firstMatch? done).getD (driverVersion, load), ?_, ?_⟩
        · have found := Factory.firstMatch?_concat done driverVersion load
          rw [if_pos rfl] at found
          refine found.trans ?_
          cases Factory.firstMatch? done <;> rfl
        · rw [driver, Factory.driver_ofLoad]
    · have refused := factory.getDriver_of_ne right load
      refine ⟨?_, idle, ?_⟩
      · simp [handout, refused, right]
      · rw [if_neg right]
        simp [handout, refused]
  · rw [Factory.countP_loaded]
    by_cases some_match : ∃ request ∈ requests, request.1 = driverVersion
    · rw [if_pos some_match, if_neg]
      rw [Factory.firstMatch?_eq_none_iff]
      obtain ⟨request, member, right⟩ := some_match
      exact fun none_match => none_match request member right
    · rw [if_neg some_match, if_pos]
      rw [Factory.firstMatch?_eq_none_iff]
      exact fun request member right => some_match ⟨request, member, right⟩
  · intro state acquired
    obtain ⟨next, given, called⟩ :=
      BindingState.acquire_after (done.mapIdx Loading.inCall) (load.inCall done.length)
    rw [Loading.headD_inCall] at next given
    refine ⟨called.trans List.mapIdx_eq_nil_iff, ?_, ?_⟩
    · by_cases asked : acquired.loaded = true
      · exact .inl asked
      · exact .inr (state.acquire_of_not_loaded (Bool.eq_false_iff.mpr asked))
    · cases answer : (done.headD load).1 with
      | ok bindings =>
        have settled : BindingState.settledBy ((done.headD load).inCall 0) = .ready (0, bindings) := by
          rw [BindingState.settledBy, Loading.inCall, answer]
          rfl
        exact ⟨given.trans (congrArg _ settled), next.trans settled⟩
      | error e =>
        have settled : BindingState.settledBy ((done.headD load).inCall 0) = .unavailable := by
          rw [BindingState.settledBy, Loading.inCall, answer]
          rfl
        exact ⟨given.trans (congrArg _ settled), next.trans settled⟩

end SurfaceBridge
