import SurfaceBridge.Proofs.Service.Agreement

/-! How a host acquires the driver: the first registration, the first need of a configuration and the first eligible
request decide for the life of a process. -/
namespace SurfaceBridge

/-- What the event shows of the window system is this one's display and visual. -/
def Event.Within (windows : WindowSystem) : Event → Prop
  | createXlibSurface _ info _ _ _ => info.display = windows.display
  | presentationSupport _ _ display visual => display = windows.display ∧ visual = windows.visual
  | createChildWindow _ visual _ => visual = windows.visual
  | _ => True

namespace Driver

theorem Transition.windows_eq {driver next : Driver} {answers : Answers} {call : Call}
    {result : Except DriverError Reply} {events : List Event}
    (path : Transition driver answers call next result events) : next.windows = driver.windows := by
  cases path <;> rfl

theorem windows_after (windows : WindowSystem) (calls : List (Call × Answers)) :
    ((fresh windows).after calls).windows = windows := by
  induction calls using List.reverseRecOn with
  | nil => rfl
  | append_singleton calls last ih =>
    obtain ⟨call, answers⟩ := last
    rw [after_concat, (transition_after windows calls call answers).windows_eq, ih]

theorem teardown_within (windows : WindowSystem) (surface : Surface) :
    ∀ event ∈ teardown surface, event.Within windows := by
  simp [teardown, Event.Within]

/-- A call shows the driver's own window system, and no other one. -/
theorem Transition.within {driver next : Driver} {answers : Answers} {call : Call}
    {result : Except DriverError Reply} {events : List Event}
    (path : Transition driver answers call next result events) (lifecycle : call.isLifecycle) :
    ∀ event ∈ events, event.Within driver.windows := by
  cases path with
  | instanceDestroyed =>
    simp only [List.mem_append, List.mem_flatMap, List.mem_singleton]
    rintro event (⟨surface, _, member⟩ | rfl)
    · exact teardown_within driver.windows surface event member
    · trivial
  | surfaceDestroyed => exact teardown_within driver.windows _
  | other _ _ _ query => rw [query] at lifecycle; cases lifecycle
  | _ => simp [windowEvents, surfaceRequest, Event.Within]

theorem step_within (windows : WindowSystem) (calls : List (Call × Answers)) (call : Call)
    (answers : Answers) :
    ∀ event ∈ (((fresh windows).after calls).step call answers).events, event.Within windows := by
  have path := transition_after windows calls call answers
  have own := windows_after windows calls
  cases lifecycle : call.isLifecycle with
  | true =>
    have within := path.within lifecycle
    rwa [own] at within
  | false =>
    cases call with
    | presentationSupport =>
      simp [step, Step.map, presentationSupport, Event.Within, own]
    | createInstance | createWin32Surface | destroyInstance | destroySurface => cases lifecycle
    | _ => simp [step, Step.map, getDeviceProcAddr, getInstanceProcAddr, stub, enumerateExtensions, Event.Within]

theorem serve_within (windows : WindowSystem) (direct : List (Call × Answers)) (call : TableCall)
    (answers : Answers) :
    ∀ event ∈ (((fresh windows).after direct).serve call answers).events, event.Within windows := by
  unfold serve
  cases call.call? with
  | none => simp
  | some behind => exact step_within windows direct behind answers

end Driver

namespace Service

variable (calls : HostCalls) (call : HostCall) (env : Environment)

/-- A call reads the configuration if it is the first to need one, and loads a library if it is the first eligible
one. -/
theorem turn_effects :
    ((({} : Service).after calls).turn env call).effects =
      (if call.needsConfig ∧ calls.config? = none then [.readConfig] else []) ++
        if calls.eligible call ∧ calls.firstEligible? = none then [.loadLibrary (calls.candidates env)]
        else [] := by
  have agrees := agrees_after calls
  generalize ({} : Service).after calls = service at agrees
  cases call with
  | register windows =>
    obtain ⟨_, _, effects⟩ := service.register_eq env windows
    rw [agrees.config] at effects
    simp [turn, effects, HostCalls.eligible]
  | install number driver =>
    obtain ⟨_, _, effects⟩ := service.install_eq (.supplied number) driver
    simp [turn, effects, HostCalls.eligible]
  | call call answers =>
    have silent : (service.turn env (.call call answers)).effects = [] := by
      simp only [turn]
      split <;> rfl
    simp [silent, HostCalls.eligible]
  | request version =>
    by_cases right : version = driverVersion
    · subst right
      cases known : calls.registered? with
      | none =>
        obtain ⟨_, _, effects⟩ := service.request_of_unregistered env (agrees.windows.trans known)
        rw [agrees.config] at effects
        simp [turn, effects, HostCalls.eligible, known]
      | some windows =>
        obtain ⟨_, _, effects⟩ := agrees.request_of_eligible env known
        simp [turn, effects, HostCalls.eligible, known, HostCalls.opened?]
    · simp [turn, service.request_of_ne env right, HostCalls.eligible, right]

/-- All that the calls of a process do to its surroundings. -/
theorem effects_eq :
    ({} : Service).effects calls =
      (if calls.config? = none then [] else [.readConfig]) ++
        calls.firstEligible?.elim [] fun first => [.loadLibrary (first.1.candidates first.2)] := by
  induction calls using List.reverseRecOn with
  | nil => rfl
  | append_singleton calls last ih =>
    obtain ⟨call, env⟩ := last
    rw [effects_concat, ih, turn_effects, HostCalls.config?_concat, HostCalls.firstEligible?_concat]
    cases settled : HostCalls.config? calls with
    | some config =>
      cases HostCalls.firstEligible? calls with
      | none => by_cases eligible : HostCalls.eligible calls call <;> simp [eligible]
      | some first => simp
    | none =>
      have unknown := HostCalls.registered?_eq_none settled
      have unasked : HostCalls.firstEligible? calls = none := by
        by_contra asked
        obtain ⟨⟨before, at'⟩, found⟩ := Option.ne_none_iff_exists'.mp asked
        obtain ⟨_, _, known⟩ := HostCalls.registered?_of_firstEligible? found
        cases unknown.symm.trans known
      have idle : HostCalls.eligible calls call = false := by
        rw [HostCalls.eligible, unknown, Option.isSome_none, Bool.and_false]
      generalize call.needsConfig = needed
      cases needed <;> simp [unasked, idle]

/-- A request is answered with the table if the first eligible request found a library, and nobody had put another
driver behind the table by then. -/
theorem request_result_iff (version : UInt32) :
    ((({} : Service).after calls).request env version).result = true ↔
      version = driverVersion ∧ calls.registered?.isSome ∧ ∃ before at',
        HostCalls.firstEligible? (calls ++ [(.request version, env)]) = some (before, at') ∧
        (before.opening at').1.isOk ∧ ∀ earlier ∈ before, earlier.1.supplies? = none := by
  have agrees := agrees_after calls
  generalize ({} : Service).after calls = service at agrees
  by_cases right : version = driverVersion
  case neg => simp [request_of_ne _ env right, right]
  subst right
  cases known : calls.registered? with
  | none =>
    obtain ⟨_, refused, _⟩ := request_of_unregistered _ env (agrees.windows.trans known)
    simp [refused]
  | some windows =>
    have next := agrees.turn env (.request driverVersion)
    obtain ⟨_, given, _⟩ := agrees.request_of_eligible env known
    obtain ⟨⟨before, at'⟩, found⟩ := HostCalls.exists_firstEligible? known env
    have decisive : calls.opened?.getD (calls.opening env) = before.opening at' := by
      have opened := HostCalls.opened?_concat calls (.request driverVersion) env
      rw [HostCalls.opened?, found, if_pos (HostCalls.eligible_request known), Option.or_some] at opened
      exact (Option.some.inj opened).symm
    rw [given, decisive, found]
    have behind (opened : (before.opening at').1.isOk) :
        (service.request env driverVersion).service.installed.map Prod.fst = some (.built 0) ↔
          ∀ earlier ∈ before, earlier.1.supplies? = none := by
      have source : (service.request env driverVersion).service.installed.map Prod.fst = _ :=
        next.behind before at' found opened
      rw [source, ← HostCalls.supplied?_eq_none_iff]
      cases before.supplied? <;> simp
    constructor
    · rintro ⟨opened, ours⟩
      exact ⟨rfl, rfl, before, at', rfl, opened, (behind opened).mp ours⟩
    · rintro ⟨_, _, _, _, same, opened, unsupplied⟩
      cases same
      exact ⟨opened, (behind opened).mpr unsupplied⟩

/-- In surroundings that stay as they are, a request of a host that registered its window system, and only that, tells
whether the library opens. -/
theorem request_result_of_same {env : Environment} {windows : WindowSystem}
    (known : calls.registered? = some windows)
    (same : ∀ earlier ∈ calls, earlier.2 = env ∧ earlier.1.supplies? = none) :
    ((({} : Service).after calls).request env driverVersion).result =
      (Bindings.openFirst env.openLibrary env.config.libraryCandidates).1.isOk := by
  obtain ⟨⟨before, at'⟩, found⟩ := HostCalls.exists_firstEligible? known env
  obtain ⟨call, later, split, _⟩ := HostCalls.split_of_firstEligible? found
  have all : ∀ earlier ∈ before ++ (call, at') :: later, earlier.2 = env ∧ earlier.1.supplies? = none := by
    rw [← split, List.forall_mem_append, List.forall_mem_singleton]
    exact ⟨same, rfl, rfl⟩
  obtain ⟨past, here, _⟩ := List.forall_mem_append.mp all |>.imp_right List.forall_mem_cons.mp
  obtain rfl : at' = env := here.1
  have opens := HostCalls.opening_of_same fun earlier member => (past earlier member).1
  rw [Bool.eq_iff_iff, request_result_iff, ← opens, known, found]
  constructor
  · rintro ⟨_, _, _, _, first, opened, _⟩
    cases first
    exact opened
  · exact fun opened => ⟨rfl, rfl, before, at', rfl, opened, fun earlier member => (past earlier member).2⟩

/-- The factory's driver shows the window system that was registered first, whatever it is asked. -/
theorem turn_within {number : Nat} {driver : Driver}
    (ours : (({} : Service).after calls).installed = some (.built number, driver)) :
    calls.registered? = some driver.windows ∧
      ∀ event ∈ ((({} : Service).after calls).turn env call).events, event.Within driver.windows := by
  obtain ⟨windows, direct, known, rfl⟩ := (agrees_after calls).own number driver ours
  rw [Driver.windows_after]
  refine ⟨known, ?_⟩
  cases call with
  | call call answers =>
    simp only [turn, call?, ours]
    exact Driver.serve_within windows direct call (heard (.built number) answers)
  | _ => exact fun event member => absurd member List.not_mem_nil

end Service

/-- The life of a process. The first registration that is not null succeeds, and it alone is what a driver of the
factory ever uses. The configuration is read by the first call that needs it, and a library is loaded by the first
eligible request; requests for another version do nothing. A request is given the table if that one loading succeeded
and no other driver had been put behind the table before it. -/
theorem driver_acquisition (done : HostCalls) (call : HostCall) (env : Environment) :
    let service := ({} : Service).after done
    let turn := service.turn env call
    let all := done ++ [(call, env)]
    (∀ windows, call = .register windows → turn.reply =
      .code (if windows.isSome ∧ done.registered? = none then .success else .initializationFailed)) ∧
    (∀ number driver, service.installed = some (.built number, driver) →
      done.registered? = some driver.windows ∧ ∀ event ∈ turn.events, event.Within driver.windows) ∧
    turn.effects =
      (if call.needsConfig ∧ ∀ earlier ∈ done, ¬ earlier.1.needsConfig then [.readConfig] else []) ++
        (if done.eligible call ∧ done.firstEligible? = none then [.loadLibrary (done.candidates env)] else []) ∧
    ({} : Service).effects all =
      (if ∀ earlier ∈ all, ¬ earlier.1.needsConfig then [] else [.readConfig]) ++
        (HostCalls.firstEligible? all).elim [] (fun first => [.loadLibrary (first.1.candidates first.2)]) ∧
    (call.mismatched → turn = { service, reply := .table false }) ∧
    service = ({} : Service).after (done.filter fun earlier => !earlier.1.mismatched) ∧
    ∀ version, call = .request version → (turn.reply = .table true ↔
      version = driverVersion ∧ done.registered?.isSome ∧ ∃ before at',
        HostCalls.firstEligible? all = some (before, at') ∧ (before.opening at').1.isOk ∧
          ∀ earlier ∈ before, earlier.1.supplies? = none) := by
  intro service turn all
  refine ⟨?_, ?_, ?_, ?_, ?_, ?_, ?_⟩
  · rintro windows rfl
    obtain ⟨_, code, _⟩ := service.register_eq env windows
    rw [(Service.agrees_after done).windows] at code
    exact congrArg HostReply.code code
  · exact fun number driver ours => Service.turn_within done call env ours
  · simp only [← HostCalls.config?_eq_none_iff]
    exact Service.turn_effects done call env
  · simp only [← HostCalls.config?_eq_none_iff]
    exact Service.effects_eq all
  · exact service.turn_of_mismatched call env
  · exact (Service.after_filter {} done).symm
  · rintro version rfl
    rw [← Service.request_result_iff]
    exact HostReply.table.injEq _ _ ▸ Iff.rfl

/-- There is no configuration file, and the second of the usual libraries loads. -/
def secondLibrary : Environment where
  configVariable := none
  lookup _ := .error .notFound
  openLibrary name := if name = "libvulkan.so" then .ok { symbols := fun _ => some 9 } else .error "missing"

/-- Another driver is put behind the table, but the first eligible request came before. -/
def lateInstall : HostCalls :=
  [.register none, .request 7, .register (some ⟨3, 4, 0⟩), .request 1, .install 5 (Driver.fresh ⟨6, 7, 0⟩)].map
    fun call => (call, secondLibrary)

theorem driver_acquisition_of_lateInstall :
    let service := ({} : Service).after lateInstall
    (service.turn secondLibrary (.request 1)).reply = .table true ∧
      ({} : Service).effects (lateInstall ++ [(.request 1, secondLibrary)]) =
        [.readConfig, .loadLibrary ["libvulkan.so.1", "libvulkan.so"]] := by
  obtain ⟨_, _, _, effects, _, _, given⟩ := driver_acquisition lateInstall (.request 1) secondLibrary
  have opens : (HostCalls.opening (lateInstall.take 3) secondLibrary).1.isOk := by decide
  exact ⟨(given 1 rfl).mpr ⟨rfl, rfl, lateInstall.take 3, secondLibrary, rfl, opens, by decide⟩, effects⟩

end SurfaceBridge
