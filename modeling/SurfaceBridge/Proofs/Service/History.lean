import SurfaceBridge.Proofs.Driver.History
import SurfaceBridge.Service

/-! What a host does in the life of a process, each call in the environment that it meets. The calls alone tell
which configuration, which window system and which request for the table settled things. -/
namespace SurfaceBridge

inductive HostCall where
  /-- Registers a window system; `none` is a null pointer. -/
  | register (windows : Option WindowSystem)
  | request (version : UInt32)
  /-- Puts a driver that was made elsewhere behind the table. -/
  | install (number : Nat) (driver : Driver)
  | call (call : TableCall) (answers : Answers)

/-- The calls of a process, in order. -/
abbrev HostCalls := List (HostCall × Environment)

/-- The configuration that an environment gives. -/
def Environment.config (env : Environment) : Config := (Config.loadOrDefault env (Config.path env)).1

namespace HostCall

/-- Whether the table is asked for, in the version that there is a driver for. -/
@[simp] def asks : HostCall → Bool
  | request version => version = driverVersion
  | _ => false

@[simp] def needsConfig : HostCall → Bool
  | register _ => true
  | other => other.asks

/-- Whether the table is asked for in another version. -/
def mismatched : HostCall → Bool
  | request version => version ≠ driverVersion
  | _ => false

@[simp] def registers? : HostCall → Option WindowSystem
  | register windows => windows
  | _ => none

@[simp] def supplies? : HostCall → Option Nat
  | install number _ => some number
  | _ => none

end HostCall

namespace HostCalls

/-- The first window system that was registered. -/
def registered? (calls : HostCalls) : Option WindowSystem := calls.findSome? (·.1.registers?)

/-- The first driver that was made elsewhere. -/
def supplied? (calls : HostCalls) : Option Nat := calls.findSome? (·.1.supplies?)

/-- The configuration at the first call that needs one. -/
def config? (calls : HostCalls) : Option Config := (calls.find? (·.1.needsConfig)).map (·.2.config)

/-- Whether a call can lead to a driver: it asks for the table, and a window system was registered before. -/
def eligible (before : HostCalls) (call : HostCall) : Bool := call.asks && before.registered?.isSome

/-- The first eligible call: what was before it, and its environment. The search carries what it has passed. -/
def firstEligible? (calls : HostCalls) : Option (HostCalls × Environment) := search [] calls
where
  search (before : HostCalls) : HostCalls → Option (HostCalls × Environment)
    | [] => none
    | (call, env) :: later =>
      if before.eligible call then some (before, env) else search (before ++ [(call, env)]) later

/-- The libraries that are tried after some calls. -/
def candidates (before : HostCalls) (env : Environment) : List String :=
  (before.config?.getD env.config).libraryCandidates

/-- What opening one of them gives. -/
def opening (before : HostCalls) (env : Environment) : Loading Bindings :=
  Bindings.openFirst env.openLibrary (before.candidates env)

/-- What opening a library gave at the first eligible call. -/
def opened? (calls : HostCalls) : Option (Loading Bindings) :=
  calls.firstEligible?.map fun first => first.1.opening first.2

variable (calls : HostCalls) (call : HostCall) (env : Environment)

theorem registered?_concat : registered? (calls ++ [(call, env)]) = calls.registered?.or call.registers? := by
  rw [registered?, List.findSome?_append, List.findSome?_singleton]
  rfl

theorem supplied?_concat : supplied? (calls ++ [(call, env)]) = calls.supplied?.or call.supplies? := by
  rw [supplied?, List.findSome?_append, List.findSome?_singleton]
  rfl

theorem config?_concat :
    config? (calls ++ [(call, env)]) = calls.config?.or (if call.needsConfig then some env.config else none) := by
  rw [config?, List.find?_append, List.find?_singleton, Option.map_or]
  split <;> rfl

theorem config?_eq_none_iff : calls.config? = none ↔ ∀ earlier ∈ calls, ¬ earlier.1.needsConfig := by
  simp [config?]

private theorem search_concat (before : HostCalls) :
    firstEligible?.search before (calls ++ [(call, env)]) =
      (firstEligible?.search before calls).or
        (if eligible (before ++ calls) call then some (before ++ calls, env) else none) := by
  induction calls generalizing before with
  | nil => simp [firstEligible?.search]
  | cons first calls ih =>
    obtain ⟨firstCall, firstEnv⟩ := first
    simp only [List.cons_append, firstEligible?.search, ih, List.append_assoc, List.nil_append]
    split <;> rfl

theorem firstEligible?_concat :
    firstEligible? (calls ++ [(call, env)]) =
      calls.firstEligible?.or (if calls.eligible call then some (calls, env) else none) :=
  search_concat calls call env []

theorem opened?_concat :
    opened? (calls ++ [(call, env)]) =
      calls.opened?.or (if calls.eligible call then some (calls.opening env) else none) := by
  rw [opened?, firstEligible?_concat, Option.map_or]
  split <;> rfl

variable {calls call env} {before : HostCalls}

/-- The first eligible call is one of the calls, and is eligible. -/
theorem split_of_firstEligible? (found : calls.firstEligible? = some (before, env)) :
    ∃ call later, calls = before ++ (call, env) :: later ∧ before.eligible call := by
  induction calls using List.reverseRecOn with
  | nil => cases found
  | append_singleton calls last ih =>
    obtain ⟨call, at'⟩ := last
    rw [firstEligible?_concat, Option.or_eq_some_iff] at found
    rcases found with early | ⟨_, here⟩
    · obtain ⟨call', later, rfl, eligible⟩ := ih early
      exact ⟨call', later ++ [(call, at')], by simp, eligible⟩
    · rw [Option.ite_none_right_eq_some] at here
      obtain ⟨eligible, same⟩ := here
      cases same
      exact ⟨call, [], rfl, eligible⟩

theorem registered?_of_firstEligible? (found : calls.firstEligible? = some (before, env)) :
    ∃ windows, before.registered? = some windows ∧ calls.registered? = some windows := by
  obtain ⟨call, later, rfl, eligible⟩ := split_of_firstEligible? found
  obtain ⟨windows, known⟩ := Option.isSome_iff_exists.mp (Bool.and_eq_true_iff.mp eligible).2
  refine ⟨windows, known, ?_⟩
  rw [registered?] at known ⊢
  rw [List.findSome?_append, known, Option.some_or]

theorem eligible_request {windows : WindowSystem} (known : calls.registered? = some windows) :
    calls.eligible (.request driverVersion) := by
  rw [eligible, known]
  rfl

/-- Once a window system is registered, a request for the right version is eligible if no earlier one was. -/
theorem exists_firstEligible? {windows : WindowSystem} (known : calls.registered? = some windows)
    (env : Environment) : ∃ first, firstEligible? (calls ++ [(.request driverVersion, env)]) = some first := by
  rw [firstEligible?_concat, if_pos (eligible_request known), Option.or_some]
  exact ⟨_, rfl⟩

/-- A registration needs the configuration. -/
theorem registered?_eq_none (unneeded : calls.config? = none) : calls.registered? = none := by
  rw [config?_eq_none_iff] at unneeded
  rw [registered?, List.findSome?_eq_none_iff]
  rintro ⟨call, env⟩ member
  have idle := unneeded _ member
  cases call with
  | register => exact absurd rfl idle
  | _ => rfl

theorem opening_of_same (same : ∀ earlier ∈ before, earlier.2 = env) :
    before.opening env = Bindings.openFirst env.openLibrary env.config.libraryCandidates := by
  have config : before.config?.getD env.config = env.config := by
    rw [config?]
    cases needed : before.find? (·.1.needsConfig) with
    | none => rfl
    | some first => rw [Option.map_some, Option.getD_some, same first (List.mem_of_find?_eq_some needed)]
  rw [opening, candidates, config]

theorem supplied?_eq_none_iff : calls.supplied? = none ↔ ∀ earlier ∈ calls, earlier.1.supplies? = none :=
  List.findSome?_eq_none_iff

end HostCalls

/-- What came of a host's call. -/
inductive HostReply where
  | code (code : ResultCode)
  /-- Whether the table was given. -/
  | table (given : Bool)
  | installed (behind : Bool)
  /-- Without a driver behind the table there is no answer. -/
  | answer (reply : Option TableReply)

/-- The outcome of a host's call. -/
structure Turn where
  service : Service
  reply : HostReply
  effects : List Effect := []
  events : List Event := []

namespace Service

def turn (service : Service) (env : Environment) : HostCall → Turn
  | .register windows =>
    let visit := service.register env windows
    { service := visit.service, reply := .code visit.result, effects := visit.effects }
  | .request version =>
    let visit := service.request env version
    { service := visit.service, reply := .table visit.result, effects := visit.effects }
  | .install number driver =>
    let visit := service.install (.supplied number) driver
    { service := visit.service, reply := .installed visit.result, effects := visit.effects }
  | .call call answers =>
    match service.call? call answers with
    | none => { service, reply := .answer none }
    | some (next, step) => { service := next, reply := .answer (some step.result), events := step.events }

/-- The service after some calls. -/
def after (service : Service) (calls : HostCalls) : Service :=
  calls.foldl (fun service call => (service.turn call.2 call.1).service) service

/-- What some calls did to their surroundings, in order. -/
def effects (service : Service) : HostCalls → List Effect
  | [] => []
  | (call, env) :: rest =>
    let turn := service.turn env call
    turn.effects ++ turn.service.effects rest

variable (service : Service) (calls : HostCalls) (call : HostCall) (env : Environment)

theorem after_concat :
    service.after (calls ++ [(call, env)]) = ((service.after calls).turn env call).service :=
  List.foldl_append

theorem effects_concat :
    service.effects (calls ++ [(call, env)]) =
      service.effects calls ++ ((service.after calls).turn env call).effects := by
  induction calls generalizing service with
  | nil => simp [effects, after]
  | cons first calls ih =>
    obtain ⟨firstCall, firstEnv⟩ := first
    simp only [List.cons_append, effects, ih, List.append_assoc]
    rfl

/-- The configuration that a service goes on with. -/
theorem settled_eq :
    let config := service.config.getD env.config
    let visit := service.settled env
    visit.service = { service with config := some config } ∧ visit.result = config ∧
      visit.effects = if service.config = none then [.readConfig] else [] := by
  unfold settled
  obtain ⟨config, windows, factory, installed⟩ := service
  cases config with
  | none => exact ⟨rfl, rfl, rfl⟩
  | some config => exact ⟨rfl, rfl, rfl⟩

theorem register_eq (windows : Option WindowSystem) :
    let visit := service.register env windows
    visit.service = { service with
      config := some (service.config.getD env.config), windows := service.windows.or windows } ∧
      visit.result = (if windows.isSome ∧ service.windows = none then .success else .initializationFailed) ∧
      visit.effects = if service.config = none then [.readConfig] else [] := by
  obtain ⟨next, _, effects⟩ := service.settled_eq env
  simp only [register, next]
  cases windows with
  | none => exact ⟨by simp, by simp, effects⟩
  | some windows =>
    cases known : service.windows with
    | none => exact ⟨by simp, by simp, effects⟩
    | some first => exact ⟨by simp, by simp, effects⟩

theorem request_of_ne {version : UInt32} (other : version ≠ driverVersion) :
    service.request env version =
      { service, result := false, log := [.rejected (.versionMismatch driverVersion version)] } := by
  simp only [request, checkVersion, if_neg other]

/-- A request for another version does nothing, so what comes after it goes as if it had not been made. -/
theorem turn_of_mismatched (mismatched : call.mismatched) :
    service.turn env call = { service, reply := .table false } := by
  cases call with
  | request version =>
    have other : version ≠ driverVersion := of_decide_eq_true mismatched
    simp only [turn, service.request_of_ne env other]
  | _ => cases mismatched

theorem after_filter : service.after (calls.filter fun call => !call.1.mismatched) = service.after calls := by
  induction calls generalizing service with
  | nil => rfl
  | cons first calls ih =>
    obtain ⟨call, env⟩ := first
    cases mismatched : call.mismatched with
    | true =>
      rw [List.filter_cons_of_neg (by simp [mismatched]), ih, after, after, List.foldl_cons,
        turn_of_mismatched service call env mismatched]
    | false =>
      rw [List.filter_cons_of_pos (by simp [mismatched])]
      exact ih _

theorem request_of_unregistered (unknown : service.windows = none) :
    let visit := service.request env driverVersion
    visit.service = { service with config := some (service.config.getD env.config) } ∧
      visit.result = false ∧ visit.effects = if service.config = none then [.readConfig] else [] := by
  obtain ⟨next, _, effects⟩ := service.settled_eq env
  simp only [request, checkVersion, if_pos, next, unknown]
  exact ⟨trivial, trivial, effects⟩

/-- An eligible request asks the factory, and what it hands out is put behind the table. -/
theorem request_of_registered {windows : WindowSystem} (known : service.windows = some windows) :
    let config := service.config.getD env.config
    let load := Bindings.openFirst env.openLibrary config.libraryCandidates
    let handout := service.factory.getDriver driverVersion load
    let served := { service with config := some config, factory := handout.factory }
    let visit := service.request env driverVersion
    (visit.service, visit.result) = (match handout.driver with
      | none => (served, false)
      | some built =>
        let placed := served.install (.built built.number) { windows }
        (placed.service, placed.result)) ∧
    visit.effects = (if service.config = none then [.readConfig] else []) ++
      if handout.loaded then [.loadLibrary config.libraryCandidates] else [] := by
  obtain ⟨next, settled, effects⟩ := service.settled_eq env
  simp only [request, checkVersion, if_pos, next, settled, effects, known]
  cases service.factory.getDriver driverVersion
      (Bindings.openFirst env.openLibrary (service.config.getD env.config).libraryCandidates) with
  | mk factory driver loaded log =>
    cases driver with
    | none => exact ⟨rfl, rfl⟩
    | some built => exact ⟨rfl, rfl⟩

theorem install_eq (source : DriverSource) (driver : Driver) :
    let visit := service.install source driver
    visit.service = { service with installed := service.installed.or (some (source, driver)) } ∧
      (visit.result = true ↔ visit.service.installed.map Prod.fst = some source) ∧
      visit.effects = [] := by
  obtain ⟨config, windows, factory, installed⟩ := service
  cases installed with
  | none => exact ⟨rfl, by simp [install], rfl⟩
  | some behind => exact ⟨rfl, by simp [install], rfl⟩

/-- A call through the table moves the driver behind it, and nothing else of the service. -/
theorem turn_call_service (call : TableCall) (answers : Answers) :
    (service.turn env (.call call answers)).service = { service with
      installed := service.installed.map fun (source, driver) =>
        (source, (driver.serve call (heard source answers)).driver) } := by
  obtain ⟨config, windows, factory, installed⟩ := service
  cases installed with
  | none => rfl
  | some behind => rfl

end Service
end SurfaceBridge
