import SurfaceBridge.Notice

/-! Binding tables that are loaded once. The first attempt decides for good. -/
namespace SurfaceBridge

/-- What a loader gives: bindings or an error, and the notices of the attempt. -/
abbrev Loading (β : Type) := Except DriverError β × List Notice

/-- Whether a table has been loaded yet. -/
inductive BindingState (β : Type) where
  | uninitialized
  | ready (bindings : β)
  | unavailable
  deriving DecidableEq

/-- The outcome of asking for the table. -/
structure Acquisition (β : Type) where
  state : BindingState β
  bindings : Option β
  /-- Whether the loader was called. -/
  loaded : Bool
  log : List Notice

namespace BindingState

variable {β : Type}

def isReady : BindingState β → Bool
  | ready _ => true
  | _ => false

def name : BindingState β → String
  | uninitialized => "Uninitialized"
  | ready _ => "Ready"
  | unavailable => "Unavailable"

/-- The state in one line, given how bindings are written. -/
def text (bindingText : β → String) : BindingState β → String
  | ready bindings => "Ready(" ++ bindingText bindings ++ ")"
  | state => state.name

/-- Loads on the first call and answers every later one with the same outcome. The loader's answer is used
only if the loader is called. -/
def acquire (state : BindingState β) (load : Loading β) : Acquisition β :=
  match state with
  | ready bindings => { state, bindings := some bindings, loaded := false, log := [] }
  | unavailable => { state, bindings := none, loaded := false, log := [] }
  | uninitialized =>
    match load with
    | (.ok bindings, log) => { state := ready bindings, bindings := some bindings, loaded := true, log }
    | (.error e, log) =>
      { state := unavailable, bindings := none, loaded := true, log := log ++ [.bindingsUnavailable e] }

end BindingState
end SurfaceBridge
