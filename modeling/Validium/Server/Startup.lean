import Validium.DataLayer.OfSettings
import Validium.Failure
import Validium.Server.Handler

/-!
Starting the server from the variables of its environment. Nothing serves before the
settings are read, the data layer is put together and the port is taken.
-/
namespace Validium.Server

variable {W : Type}

def usualPort : Nat := 8080

/-- The port to listen on; what is no port counts as not given. -/
def portOf (lookup : String → Option String) : Nat :=
  match lookup "PORT" with
  | none => usualPort
  | some text => (Text.decimal 16 text).toOption.getD usualPort

def settingsFailure (e : Settings.Error) : Failure :=
  Failure.under "invalid backend configuration" ⟨e.message, e.causes⟩

def layerFailure (e : DataLayer.Error) : Failure :=
  Failure.under "failed to initialize backend" ⟨e.message, e.causes⟩

def bindFailure (port : Nat) : Failure :=
  Failure.under s!"cannot bind 0.0.0.0:{port}" (.ofMessage "Address already in use (os error 98)")

structure Running (W : Type) where
  port : Nat
  layer : DataLayer W

/-- The server, or why it does not start; `isTaken` tells of ports in use. -/
def start (around : Surroundings W) (lookup : String → Option String) (isTaken : Nat → Bool) :
    Except Failure (Running W) := do
  let port := portOf lookup
  let settings ← (Settings.ofLookup lookup).mapError settingsFailure
  let layer ← (DataLayer.ofSettings around settings none).mapError layerFailure
  if isTaken port then throw (bindFailure port)
  return ⟨port, layer⟩

end Validium.Server
