/-
  MountControl — one exchange on a connection.

  The service reads one request to the end of the stream, answers it, writes
  the reply and closes the connection.  Whatever goes wrong on the
  connection is logged and concerns this exchange only.
-/
import MountControl.Service.Dispatch
import MountControl.Service.Fault
import MountControl.Wire.Framing

namespace MountControl.Service

open Host (IoError)
open Wire (Read Request Write maxMessageBytes readMessage writeMessage)

/-- How a connection behaves: the results of the calls on it. -/
structure Connection where
  /-- Limiting the time of its calls. -/
  timeouts : Except IoError Unit := .ok ()
  /-- The successive reads. -/
  reads : List Read
  /-- The successive writes. -/
  writes : List Write := []
  /-- Flushing. -/
  flush : Except IoError Unit := .ok ()
  /-- Closing. -/
  closing : Except IoError Unit := .ok ()

variable {σ : Type}

/-- Logs on the stage behind the lock. -/
def Shared.log (shared : Shared σ) (level : Log.Level) (message : String)
    (fields : List (String × Log.Value)) : Shared σ :=
  { shared with stage := shared.stage.log level dispatchTarget message fields }

/-- Logs that a call on the connection failed, if it did. -/
def Shared.logFailure (shared : Shared σ) (level : Log.Level) (message : String) :
    Except IoError Unit → Shared σ
  | .ok () => shared
  | .error error => shared.log level message [("error", .shown error.message)]

/-- Closes a connection. -/
def Shared.close (shared : Shared σ) (connection : Connection) : Shared σ :=
  shared.logFailure .debug "failed to shut down connection" connection.closing

/-- Reads a request, and logs what could not be understood. -/
def Shared.decode (shared : Shared σ) (bytes : List UInt8) : Request × Shared σ :=
  let decoded := Request.decode (Text.decodeLossy bytes)
  let stage := decoded.issues.foldl (fun stage issue => stage.note (.logged issue.event))
    shared.stage
  let shared := { shared with stage }
  if decoded.issues.isEmpty then (decoded.message, shared)
  else
    (decoded.message, shared.log .warn "request contained unintelligible lines"
      [("kind", .text decoded.message.kind), ("skipped", .number decoded.issues.length)])

/-- Runs one exchange: how it ends, and the bytes that were written. -/
def Shared.exchange (dispatcher : Dispatcher σ) (shared : Shared σ) (connection : Connection) :
    Handled × List UInt8 × Shared σ :=
  let shared := shared.logFailure .warn "failed to apply exchange timeout" connection.timeouts
  match (readMessage maxMessageBytes connection.reads).1 with
  | .error error =>
    (.done, [], shared.log .warn "failed to read request" [("error", .shown error.message)])
  | .ok (.oversized received) =>
    let shared := shared.log .warn "message larger than 100K arrived; discarding"
      [("received", .number received), ("limit", .number maxMessageBytes)]
    (.done, [], shared.close connection)
  | .ok (.complete bytes) =>
    let (request, shared) := shared.decode bytes
    match shared.dispatch dispatcher request with
    | (.refused rejection, shared) => (.faulted ⟨rejection.message⟩, [], shared)
    | (.halted (.panicked message), shared) => (.panicked (.message message), [], shared)
    | (.halted .stuck, shared) => (.stuck, [], shared)
    | (.reply reply, shared) =>
      let written := writeMessage (Text.encode reply.encode) connection.writes connection.flush
      match written.result with
      | .ok () => (.done, written.bytes, shared.close connection)
      | .error error =>
        (.done, written.bytes,
          shared.log .warn "failed to write reply" [("error", .shown error.message)])

end MountControl.Service
