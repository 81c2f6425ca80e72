import SurfaceBridge.Binding.Factory
import SurfaceBridge.Config.File
import SurfaceBridge.Table

/-! A service that holds the driver: a host registers its window system, asks for the entry point table and
calls through it. Configuration, window system and driver are each settled once. -/
namespace SurfaceBridge

/-- Whose driver is behind the table. -/
inductive DriverSource where
  /-- The factory's, by its number among the drivers built. -/
  | built (number : Nat)
  /-- One that was made elsewhere, by a number of its own. -/
  | supplied (number : Nat)
  deriving DecidableEq

structure Service where
  config : Option Config := none
  windows : Option WindowSystem := none
  factory : Factory Bindings := {}
  installed : Option (DriverSource × Driver) := none
  deriving DecidableEq

/-- What a service does to its surroundings beyond calls of the driver. -/
inductive Effect where
  | readConfig
  | loadLibrary (candidates : List String)
  deriving DecidableEq

/-- The outcome of a request to the service. -/
structure Visit (α : Type) where
  service : Service
  result : α
  effects : List Effect := []
  log : List Notice := []

namespace Service

/-- The configuration, which is read when it is first needed. -/
def settled (service : Service) (env : Environment) : Visit Config :=
  match service.config with
  | some config => { service, result := config }
  | none =>
    let (config, log) := Config.loadOrDefault env (Config.path env)
    { service := { service with config := some config }, result := config, effects := [.readConfig], log }

/-- Registers a window system; the first one stays. -/
def register (service : Service) (env : Environment) (windows : Option WindowSystem) : Visit ResultCode :=
  let visit := service.settled env
  let refused := ResultCode.initializationFailed
  match windows, visit.service.windows with
  | none, _ => { visit with result := refused }
  | some _, some _ => { visit with result := refused, log := visit.log ++ [.windowSystemKept] }
  | some windows, none =>
    { visit with service := { visit.service with windows := some windows }, result := .success }

/-- Puts a driver behind the table; the first one stays. Says whether the driver is the one behind it. -/
def install (service : Service) (source : DriverSource) (driver : Driver) : Visit Bool :=
  match service.installed with
  | none => { service := { service with installed := some (source, driver) }, result := true }
  | some (current, _) => { service, result := current = source }

/-- Asks for the table. Says whether it is handed out. -/
def request (service : Service) (env : Environment) (version : UInt32) : Visit Bool :=
  match checkVersion version with
  | .error e => { service, result := false, log := [.rejected e] }
  | .ok () =>
    let visit := service.settled env
    match visit.service.windows with
    | none => { visit with result := false, log := visit.log ++ [.windowSystemMissing] }
    | some windows =>
      let candidates := visit.result.libraryCandidates
      let handout := visit.service.factory.getDriver version (Bindings.openFirst env.openLibrary candidates)
      let served := { visit.service with factory := handout.factory }
      let effects := visit.effects ++ if handout.loaded then [.loadLibrary candidates] else []
      let log := visit.log ++ handout.log
      match handout.driver with
      | none => { service := served, result := false, effects, log }
      | some built =>
        let placed := served.install (.built built.number) { windows }
        let refused := if placed.result then [] else [.otherDriverInstalled]
        { service := placed.service, result := placed.result, effects, log := log ++ refused }

/-- A host's functions answer with a null window when they fail; a supplied driver has window functions of
its own. -/
def heard (source : DriverSource) (answers : Answers) : Answers :=
  match source with
  | .built _ => { answers with window := answers.window.filter (· ≠ 0) }
  | .supplied _ => answers

/-- A call through the table, if a driver is behind it. -/
def call? (service : Service) (call : TableCall) (answers : Answers) : Option (Service × Step TableReply) := do
  let (source, driver) ← service.installed
  let step := driver.serve call (heard source answers)
  return ({ service with installed := some (source, step.driver) }, step)

end Service
end SurfaceBridge
