/-
  MountControl — starting the service.

  Starting the service prepares it and then claims its endpoint.  What a
  service that did not start, or did not end well, says to its caller is one
  line, and its exit status.
-/
import MountControl.Service.Lifetime

namespace MountControl.Service

open Config (LoadError Settings)
open Host (Network)

/-- The component that logs the stages of the service's life. -/
def processTarget : String := "btrmountd::process"

/-- The event that tells that the service is prepared and about to listen. -/
def startingEvent (settings : Settings) : Log.Event :=
  ⟨.info, processTarget, "starting service runtime",
    [("socket", .shown settings.socket.display)]⟩

/-- Prepares a service, named by a number, and claims its endpoint. -/
def Ground.launch (ground : Ground) (network : Network) (service : Nat)
    (loaded : Except LoadError Settings) :
    Except LaunchError Settings × Surroundings × List Note :=
  match ground.bootstrap loaded with
  | (.error error, ground, notes) =>
    (.error (.bootstrap error), ⟨ground.files, ground.cwd, network⟩, notes)
  | (.ok prepared, ground, notes) =>
    let settings := prepared.settings
    let notes := notes ++ [.logged (startingEvent settings)]
    match bind service settings.socket ⟨ground.files, ground.cwd, network⟩ with
    | (.error error, around, events) =>
      (.error (.listener error), around, notes ++ events.map .logged)
    | (.ok (), around, events) => (.ok settings, around, notes ++ events.map .logged)

/-- The line for the caller of a service that failed. -/
def LaunchError.line (error : LaunchError) : String := "btrmountd: " ++ error.message ++ "\n"

end MountControl.Service
