/-
  MountControl — how the client fails.

  Each class of failures has its exit status, so that a script can tell a
  service that is not there from one that is slow or says no.
-/
import MountControl.Client.Command
import MountControl.Config.Load
import MountControl.Wire.Framing
import MountControl.Wire.Reply

namespace MountControl.Client

open Config (LoadError)
open Host (IoError)
open Wire (ReplyError ReplyFailure)

/-- Why the client fails. -/
inductive Failure
  /-- The settings cannot be loaded. -/
  | configuration (source : LoadError)
  /-- The command line is no command. -/
  | usage (source : UsageError)
  /-- The mount options are invalid. -/
  | options (source : Volume.OptionsError)
  /-- The service's host has no address. -/
  | resolve (endpoint : String) (source : IoError)
  /-- The service cannot be reached. -/
  | connect (endpoint : String) (source : IoError)
  /-- The request cannot be sent. -/
  | send (source : IoError)
  /-- The connection was lost. -/
  | lost (source : IoError)
  /-- The connection was closed without a reply. -/
  | emptyReply
  /-- There is no reply within so many milliseconds. -/
  | timeout (window : Nat)
  /-- The reply is longer than a message may be. -/
  | oversized
  /-- The reply is not understood. -/
  | unintelligible (source : ReplyError)
  /-- The reply is to have data but has none. -/
  | emptyData
  /-- The reply is none to the command. -/
  | unexpected (command reply : String)
  /-- The service says no. -/
  | service (description : String)
  /-- What is to be shown cannot be written. -/
  | output (source : IoError)
  deriving Repr

/-- The text of a failure. -/
def Failure.message : Failure → String
  | .configuration source => "failed to load configuration: " ++ source.message
  | .usage source => source.message ++ "\n\n" ++ usageLine
  | .options source => "invalid mount options: " ++ source.message
  | .resolve endpoint source =>
    "failed to resolve service address " ++ endpoint ++ ": " ++ source.message
  | .connect endpoint source =>
    "failed to connect to btrmountd at " ++ endpoint ++ ": " ++ source.message
  | .send source => "failed to send request to btrmountd: " ++ source.message
  | .lost source => "lost connection to btrmountd: " ++ source.message
  | .emptyReply => "btrmountd closed the connection without replying"
  | .timeout window =>
    "no reply from btrmountd within " ++ Text.Numeral.decimalString window ++ "ms"
  | .oversized =>
    "reply from btrmountd exceeded " ++ Text.Numeral.decimalString Wire.maxMessageBytes ++ " bytes"
  | .unintelligible source => "unintelligible reply from btrmountd: " ++ source.message
  | .emptyData => "btrmountd sent an empty data reply"
  | .unexpected command reply =>
    "btrmountd answered a " ++ command ++ " request with an unexpected " ++ reply ++ " reply"
  | .service description => "btrmountd reported an error: " ++ description
  | .output source => "failed to write output: " ++ source.message

/-- The exit status of a failure. -/
def Failure.status : Failure → Nat
  | .configuration _ | .usage _ | .options _ | .output _ => 1
  | .resolve .. | .connect .. => 2
  | .send _ | .lost _ | .emptyReply => 3
  | .timeout _ => 4
  | .oversized | .unintelligible _ | .unexpected .. => 5
  | .emptyData => 6
  | .service _ => 7

/-- The failure of a reply that cannot be read from the connection. -/
def Failure.ofReading (window : Nat) : ReplyFailure → Failure
  | .timeout => .timeout window
  | .oversized => .oversized
  | .read source => .lost source

/-- The failure of a reply that cannot be understood. -/
def Failure.ofDecoding : ReplyError → Failure
  | .empty => .emptyReply
  | .emptyData => .emptyData
  | .unknownKind kind => .unintelligible (.unknownKind kind)

end MountControl.Client
