import SurfaceBridge.Binding.State

/-! The factory that hands out the driver, to a host that asks for the right version. -/
namespace SurfaceBridge

/-- The version of the entry point table that the driver was built against. -/
def driverVersion : UInt32 := 1

def checkVersion (version : UInt32) : Except DriverError Unit :=
  if version = driverVersion then .ok () else .error (.versionMismatch driverVersion version)

/-- A driver as the factory knows it: its number among the drivers built, and its bindings. -/
structure Built (β : Type) where
  number : Nat
  bindings : β
  deriving DecidableEq

structure Factory (β : Type) where
  state : BindingState β := .uninitialized
  /-- The driver that is handed out again and again. -/
  driver : Option (Built β) := none
  /-- How many drivers have been built. -/
  count : Nat := 0
  deriving DecidableEq

/-- The outcome of asking for the driver. -/
structure Handout (β : Type) where
  factory : Factory β
  driver : Option (Built β)
  /-- Whether the loader was called. -/
  loaded : Bool
  log : List Notice

namespace Factory

variable {β : Type}

/-- The driver for a version. A version mismatch never reaches the loader. -/
def getDriver (factory : Factory β) (version : UInt32) (load : Loading β) :
    Handout β :=
  match checkVersion version with
  | .error e => { factory, driver := none, loaded := false, log := [.rejected e] }
  | .ok () =>
    match factory.driver with
    | some driver => { factory, driver := some driver, loaded := false, log := [] }
    | none =>
      let acquired := factory.state.acquire load
      match acquired.bindings with
      | none =>
        { factory := { factory with state := acquired.state }
          driver := none
          loaded := acquired.loaded
          log := acquired.log }
      | some bindings =>
        let driver := { number := factory.count, bindings }
        { factory := { state := acquired.state, driver := some driver, count := factory.count + 1 }
          driver := some driver
          loaded := acquired.loaded
          log := acquired.log }

end Factory
end SurfaceBridge
