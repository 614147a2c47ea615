/-
  MountControl — conditions in which the service cannot go on.
-/

namespace MountControl.Service

/-- A condition in which the service cannot go on. -/
structure Fault where
  /-- What has happened. -/
  detail : String
  deriving DecidableEq, Repr

/-- The text of a fault. -/
def Fault.message (fault : Fault) : String := "internal fault: " ++ fault.detail

/-- What is known of a breakdown in the handling of a connection. -/
inductive Panic
  /-- Its message. -/
  | message (text : String)
  /-- Nothing. -/
  | silent
  deriving DecidableEq, Repr

/-- The fault that a breakdown is turned into. -/
def Fault.ofPanic : Panic → Fault
  | .message text => ⟨"connection handler panicked: " ++ text⟩
  | .silent => ⟨"connection handler panicked: no panic message"⟩

/-- How the handling of a connection ends. -/
inductive Handled
  /-- The service goes on. -/
  | done
  /-- The service cannot go on. -/
  | faulted (fault : Fault)
  /-- The handler broke down. -/
  | panicked (panic : Panic)
  /-- The handler found no free identifier and never ends. -/
  | stuck
  deriving DecidableEq, Repr

/-- The fault of a handled connection, if the service cannot go on. -/
def Handled.fault? : Handled → Option Fault
  | .done => none
  | .faulted fault => some fault
  | .panicked panic => some (.ofPanic panic)
  | .stuck => none

end MountControl.Service
