import SurfaceBridge.Proofs.Binding.Once
import SurfaceBridge.Proofs.Service.History

/-! What a service holds after any calls is what the calls alone say. Each call keeps to that, so everything about a
process can be read off the list of its calls. -/
namespace SurfaceBridge

/-- What a call through the table does to a driver is what some calls of the driver do. -/
theorem Driver.serve_reachable (windows : WindowSystem) (direct : List (Call × Answers)) (call : TableCall)
    (answers : Answers) :
    ∃ further, (((fresh windows).after direct).serve call answers).driver = (fresh windows).after further := by
  unfold serve
  cases call.call? with
  | none => exact ⟨direct, rfl⟩
  | some behind => exact ⟨direct ++ [(behind, answers)], (after_concat _ _ _ _).symm⟩

namespace Service

/-- A service that holds what the calls say: nothing else of them matters for what comes. -/
structure Agrees (service : Service) (calls : HostCalls) : Prop where
  config : service.config = calls.config?
  windows : service.windows = calls.registered?
  factory : service.factory = calls.opened?.elim {} Factory.ofLoad
  /-- Before the first eligible call, only a driver that was made elsewhere can be behind the table. -/
  supplied : calls.firstEligible? = none → service.installed.map Prod.fst = calls.supplied?.map .supplied
  /-- If that call found a library, the factory's driver is behind the table, unless another one was there first. -/
  behind : ∀ before env, calls.firstEligible? = some (before, env) → (before.opening env).1.isOk →
    service.installed.map Prod.fst = some (before.supplied?.elim (.built 0) .supplied)
  /-- The factory's driver was made for the first window system. -/
  own : ∀ number driver, service.installed = some (.built number, driver) →
    ∃ windows direct, calls.registered? = some windows ∧ driver = (Driver.fresh windows).after direct

namespace Agrees

variable {service : Service} {calls : HostCalls} {env : Environment}

/-- Calls that are not eligible leave the factory alone, and what is behind the table may only be a driver that was
supplied. -/
private theorem concat_idle {next : Service} {call : HostCall} (agrees : Agrees service calls)
    (idle : calls.eligible call = false)
    (config : next.config = service.config.or (if call.needsConfig then some env.config else none))
    (windows : next.windows = service.windows.or call.registers?) (factory : next.factory = service.factory)
    (source : next.installed.map Prod.fst =
      (service.installed.map Prod.fst).or (call.supplies?.map .supplied))
    (own : ∀ number driver, next.installed = some (.built number, driver) → ∃ windows direct,
      calls.registered? = some windows ∧ driver = (Driver.fresh windows).after direct) :
    Agrees next (calls ++ [(call, env)]) where
  config := by rw [config, agrees.config, HostCalls.config?_concat]
  windows := by rw [windows, agrees.windows, HostCalls.registered?_concat]
  factory := by rw [factory, agrees.factory, HostCalls.opened?_concat, idle]; simp
  supplied := by
    intro none_eligible
    rw [HostCalls.firstEligible?_concat, Option.or_eq_none_iff] at none_eligible
    rw [source, agrees.supplied none_eligible.1, HostCalls.supplied?_concat, Option.map_or]
  behind := by
    intro before at' found opened
    rw [HostCalls.firstEligible?_concat, idle] at found
    rw [source, agrees.behind before at' (by simpa using found) opened, Option.some_or]
  own := by
    intro number driver installed
    obtain ⟨windows, direct, known, same⟩ := own number driver installed
    exact ⟨windows, direct, by rw [HostCalls.registered?_concat, known, Option.some_or], same⟩

theorem register (agrees : Agrees service calls) (windows : Option WindowSystem) :
    Agrees (service.turn env (.register windows)).service (calls ++ [(.register windows, env)]) := by
  obtain ⟨next, _⟩ := service.register_eq env windows
  refine agrees.concat_idle rfl ?_ ?_ ?_ ?_ ?_ <;> simp only [turn, next]
  · cases service.config <;> rfl
  · rfl
  · simp
  · exact agrees.own

theorem request_of_ne (agrees : Agrees service calls) {version : UInt32} (other : version ≠ driverVersion) :
    Agrees (service.turn env (.request version)).service (calls ++ [(.request version, env)]) := by
  refine agrees.concat_idle (by simp [HostCalls.eligible, other]) ?_ ?_ ?_ ?_ ?_ <;>
    simp only [turn, service.request_of_ne env other]
  · simp [other]
  · simp
  · simp
  · exact agrees.own

theorem request_of_unregistered (agrees : Agrees service calls) (unknown : calls.registered? = none) :
    Agrees (service.turn env (.request driverVersion)).service (calls ++ [(.request driverVersion, env)]) := by
  obtain ⟨next, _⟩ := service.request_of_unregistered env (agrees.windows.trans unknown)
  refine agrees.concat_idle (by simp [HostCalls.eligible, unknown]) ?_ ?_ ?_ ?_ ?_ <;> simp only [turn, next]
  · cases service.config <;> rfl
  · simp
  · simp
  · exact agrees.own

theorem install (agrees : Agrees service calls) (number : Nat) (driver : Driver) :
    Agrees (service.turn env (.install number driver)).service (calls ++ [(.install number driver, env)]) := by
  obtain ⟨next, _⟩ := service.install_eq (.supplied number) driver
  refine agrees.concat_idle rfl ?_ ?_ ?_ ?_ ?_ <;> simp only [turn, next]
  · simp
  · simp
  · rw [Option.map_or]
    rfl
  · intro number' driver' installed
    rcases Option.or_eq_some_iff.mp installed with earlier | ⟨_, here⟩
    · exact agrees.own number' driver' earlier
    · cases here

theorem call (agrees : Agrees service calls) (call : TableCall) (answers : Answers) :
    Agrees (service.turn env (.call call answers)).service (calls ++ [(.call call answers, env)]) := by
  refine agrees.concat_idle rfl ?_ ?_ ?_ ?_ ?_ <;> simp only [turn_call_service]
  · simp
  · simp
  · rw [Option.map_map]
    simp [Function.comp_def]
  · intro number driver installed
    obtain ⟨⟨source, before⟩, behind, moved⟩ := Option.map_eq_some_iff.mp installed
    cases moved
    obtain ⟨windows, direct, known, rfl⟩ := agrees.own number before behind
    obtain ⟨further, same⟩ := Driver.serve_reachable windows direct call (heard (.built number) answers)
    exact ⟨windows, further, known, same⟩

/-- What an eligible request is answered: the first opening decides, and whose driver is behind the table. -/
theorem request_of_eligible (agrees : Agrees service calls) (env : Environment) {windows : WindowSystem}
    (known : calls.registered? = some windows) :
    let decisive := calls.opened?.getD (calls.opening env)
    let visit := service.request env driverVersion
    visit.service = { service with
      config := some (calls.config?.getD env.config)
      factory := Factory.ofLoad decisive
      installed := service.installed.or
        (if decisive.1.isOk then some (.built 0, Driver.fresh windows) else none) } ∧
    (visit.result = true ↔ decisive.1.isOk ∧ visit.service.installed.map Prod.fst = some (.built 0)) ∧
    visit.effects = (if calls.config? = none then [.readConfig] else []) ++
      if calls.opened? = none then [.loadLibrary (calls.candidates env)] else [] := by
  obtain ⟨outcome, effects⟩ := service.request_of_registered env (agrees.windows.trans known)
  obtain ⟨next, given, loaded⟩ := Factory.getDriver_elim calls.opened? (calls.opening env)
  intro decisive visit
  have same : service.config.getD env.config = calls.config?.getD env.config := by rw [agrees.config]
  have load : Bindings.openFirst env.openLibrary (calls.config?.getD env.config).libraryCandidates =
    calls.opening env := rfl
  simp only [same, agrees.factory, load, next, given, loaded, Factory.driver_ofLoad] at outcome effects
  rw [agrees.config] at effects
  cases answer : decisive.1 with
  | error e =>
    have failed : (calls.opened?.getD (calls.opening env)).1 = .error e := answer
    rw [failed] at outcome
    obtain ⟨service', result⟩ := Prod.mk.inj outcome
    have shut : ¬ (Except.error e : Except DriverError Bindings).isOk := Bool.false_ne_true
    refine ⟨service'.trans ?_, ?_, effects⟩
    · rw [if_neg shut, Option.or_none]
    · rw [result]
      exact iff_of_false Bool.false_ne_true fun opened => shut opened.1
  | ok bindings =>
    have opened : (calls.opened?.getD (calls.opening env)).1 = .ok bindings := answer
    rw [opened] at outcome
    obtain ⟨service', result⟩ := Prod.mk.inj outcome
    obtain ⟨placed, behind, _⟩ := install_eq { service with
      config := some (calls.config?.getD env.config), factory := Factory.ofLoad decisive } (.built 0) { windows }
    refine ⟨service'.trans placed, ?_, effects⟩
    rw [show visit.service = _ from service', show visit.result = _ from result]
    exact behind.trans (and_iff_right rfl).symm

theorem request_of_registered (agrees : Agrees service calls) {windows : WindowSystem}
    (known : calls.registered? = some windows) :
    Agrees (service.turn env (.request driverVersion)).service (calls ++ [(.request driverVersion, env)]) := by
  obtain ⟨next, _⟩ := agrees.request_of_eligible env known
  have eligible := HostCalls.eligible_request known
  simp only [turn, next]
  refine ⟨?_, ?_, ?_, ?_, ?_, ?_⟩
  · rw [HostCalls.config?_concat]
    cases calls.config? <;> rfl
  · rw [agrees.windows, HostCalls.registered?_concat, known, Option.some_or]
  · rw [HostCalls.opened?_concat, if_pos eligible]
    cases calls.opened? <;> rfl
  · intro unasked
    simp [HostCalls.firstEligible?_concat, eligible] at unasked
  · intro before at' found opened
    rw [HostCalls.firstEligible?_concat, if_pos eligible] at found
    cases first : calls.firstEligible? with
    | none =>
      rw [first] at found
      cases found
      have opens : calls.opened? = none := by rw [HostCalls.opened?, first, Option.map_none]
      rw [opens, Option.getD_none, if_pos opened, Option.map_or, agrees.supplied first]
      cases calls.supplied? <;> rfl
    | some earlier =>
      rw [first, Option.some_or] at found
      rw [Option.map_or, agrees.behind before at' (first.trans found) opened, Option.some_or]
  · intro number driver installed
    rw [HostCalls.registered?_concat, known, Option.some_or]
    rcases Option.or_eq_some_iff.mp installed with earlier | ⟨_, here⟩
    · exact known ▸ agrees.own number driver earlier
    · rw [Option.ite_none_right_eq_some] at here
      cases here.2
      exact ⟨windows, [], rfl, rfl⟩

theorem turn (agrees : Agrees service calls) (env : Environment) (call : HostCall) :
    Agrees (service.turn env call).service (calls ++ [(call, env)]) := by
  cases call with
  | register windows => exact agrees.register windows
  | install number driver => exact agrees.install number driver
  | call call answers => exact agrees.call call answers
  | request version =>
    by_cases right : version = driverVersion
    · subst right
      cases known : calls.registered? with
      | none => exact agrees.request_of_unregistered known
      | some windows => exact agrees.request_of_registered known
    · exact agrees.request_of_ne right

end Agrees

/-- What a service holds is what its calls say. -/
theorem agrees_after (calls : HostCalls) : Agrees (({} : Service).after calls) calls := by
  induction calls using List.reverseRecOn with
  | nil => exact ⟨rfl, rfl, rfl, fun _ => rfl, fun _ _ => nofun, fun _ _ => nofun⟩
  | append_singleton calls last ih =>
    obtain ⟨call, env⟩ := last
    rw [after_concat]
    exact ih.turn env call

end Service
end SurfaceBridge
