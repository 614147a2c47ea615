/-
  MountControl — the settings that service and client share.
-/
import MountControl.Config.Endpoint
import MountControl.Config.LogFormat

namespace MountControl.Config

/-- All settings.  Times are in milliseconds. -/
structure Settings where
  /-- Where the service listens. -/
  socket : Endpoint
  /-- Which log events the service writes. -/
  logFilter : String := "info"
  /-- How it writes them. -/
  logFormat : LogFormat := .json
  /-- The program that is launched for each volume. -/
  workerBinary : String := "btrmount-worker"
  /-- How long the client waits for a connection. -/
  connectTimeout : UInt64 := 1000
  /-- How long the client waits for a reply; zero is without limit. -/
  replyTimeout : UInt64 := 1000
  /-- How long the service waits within one exchange; zero is without limit. -/
  exchangeTimeout : UInt64 := 5000
  /-- How long a worker is given to stop before it is killed. -/
  workerStopTimeout : UInt64 := 5000
  deriving DecidableEq, Repr

end MountControl.Config
