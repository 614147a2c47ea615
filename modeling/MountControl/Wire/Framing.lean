/-
  MountControl — messages on a connection.

  A message is all that its sender writes before closing its side, so the
  end of the stream is the end of the message.

  * `readMessage` reads up to a limit, over whatever the single reads give;
  * `readReply` is the client's side: a reply may be late, and the same
    limit holds;
  * `writeMessage` writes all bytes over whatever the single writes take,
    and flushes.

  A stream is the list of results of its reads or writes.  An interrupted
  call is tried again.
-/
import MountControl.Host.IoError

namespace MountControl.Wire

open Host (IoError)

/-- The most bytes of a message. -/
def maxMessageBytes : Nat := 100000

/-- The most bytes of a single read. -/
def readSize : Nat := 8192

/-! ## Reading -/

/-- The result of a read.  A read of no bytes is the end of the stream. -/
inductive Read
  /-- These bytes have come. -/
  | chunk (bytes : List UInt8)
  /-- The read failed. -/
  | failed (error : IoError)
  deriving DecidableEq, Repr

/-- One read from a stream: its result, and the stream after it.  Of a longer chunk the rest is
    left for the next read; after the list there is nothing more to read. -/
def Read.take : List Read → Except IoError (List UInt8) × List Read
  | [] => (.ok [], [])
  | .failed error :: rest => (.error error, rest)
  | .chunk bytes :: rest =>
    if bytes.length ≤ readSize then (.ok bytes, rest)
    else (.ok (bytes.take readSize), .chunk (bytes.drop readSize) :: rest)

/-- A bound on the number of reads: the bytes and the results on a stream. -/
def Read.total : List Read → Nat
  | [] => 0
  | .chunk bytes :: rest => bytes.length + 1 + total rest
  | .failed _ :: rest => 1 + total rest

theorem Read.total_take {reads : List Read} (h : reads ≠ []) :
    total (Read.take reads).2 < total reads := by
  match reads with
  | .failed _ :: _ => simp [Read.take, total]
  | .chunk bytes :: rest =>
    simp only [Read.take]
    split
    · simp [total]
    next hlong =>
      simp only [readSize, Nat.not_le] at hlong
      simp only [total, List.length_drop, readSize]
      omega

/-- What reading a message ends in. -/
inductive MessageRead
  /-- The whole message. -/
  | complete (bytes : List UInt8)
  /-- More bytes than the limit; so many were received. -/
  | oversized (received : Nat)
  deriving DecidableEq, Repr

/-- Reads on after the bytes already received. -/
def readMessage.loop (limit : Nat) (received : List UInt8) (reads : List Read) :
    Except IoError MessageRead × List Read :=
  if _h : reads = [] then (.ok (.complete received), [])
  else
    let step := Read.take reads
    match step.1 with
    | .ok [] => (.ok (.complete received), step.2)
    | .ok bytes =>
      let all := received ++ bytes
      if limit < all.length then (.ok (.oversized all.length), step.2)
      else loop limit all step.2
    | .error error =>
      if error.kind = .interrupted then loop limit received step.2 else (.error error, step.2)
termination_by Read.total reads
decreasing_by all_goals exact Read.total_take _h

/-- Reads a message of at most `limit` bytes; also what is left of the stream. -/
def readMessage (limit : Nat) (reads : List Read) : Except IoError MessageRead × List Read :=
  readMessage.loop limit [] reads

/-! ## Waiting for a reply -/

/-- Why no reply was received. -/
inductive ReplyFailure
  /-- It did not come within the time. -/
  | timeout
  /-- It is longer than a message may be. -/
  | oversized
  /-- Reading failed. -/
  | read (error : IoError)
  deriving DecidableEq, Repr

/-- Waits on after the bytes already received.  Each turn is the time that has passed since the
    start and the read that follows. -/
def readReply.loop (window : Nat) (received : List UInt8) :
    List (Nat × Read) → Except ReplyFailure (List UInt8)
  | [] => .ok received
  | (elapsed, read) :: turns =>
    if window ≠ 0 ∧ window ≤ elapsed then .error .timeout
    else
      match read with
      | .chunk [] => .ok received
      | .chunk bytes =>
        let all := received ++ bytes
        if maxMessageBytes < all.length then .error .oversized else loop window all turns
      | .failed error =>
        match error.kind with
        | .interrupted => loop window received turns
        | .wouldBlock => .error .timeout
        | .timedOut => .error .timeout
        | _ => .error (.read error)

/-- Waits for a whole reply; a window of zero is no limit of time. -/
def readReply (window : Nat) (turns : List (Nat × Read)) : Except ReplyFailure (List UInt8) :=
  readReply.loop window [] turns

/-! ## Writing -/

/-- The result of a write. -/
inductive Write
  /-- At most so many bytes are taken. -/
  | takes (bytes : Nat)
  /-- The write failed. -/
  | failed (error : IoError)
  deriving DecidableEq, Repr

/-- What writing a message ends in. -/
structure Written where
  /-- Did all go well? -/
  result : Except IoError Unit
  /-- The bytes that were taken. -/
  bytes : List UInt8
  /-- How often the stream was flushed. -/
  flushes : Nat

/-- The error of a write that takes no bytes. -/
def writeZero : IoError := .described .writeZero "failed to write whole buffer"

/-- Writes the bytes that are left; `front` are those already taken.  After the list, a write
    takes everything. -/
def writeAll (front left : List UInt8) : List Write → Except IoError Unit × List UInt8
  | [] => (.ok (), front ++ left)
  | write :: writes =>
    if left.isEmpty then (.ok (), front)
    else
      match write with
      | .takes 0 => (.error writeZero, front)
      | .takes n => writeAll (front ++ left.take n) (left.drop n) writes
      | .failed error =>
        if error.kind = .interrupted then writeAll front left writes else (.error error, front)

/-- Writes a whole message and flushes it. -/
def writeMessage (message : List UInt8) (writes : List Write) (flush : Except IoError Unit) :
    Written :=
  match writeAll [] message writes with
  | (.ok (), bytes) => ⟨flush, bytes, 1⟩
  | (.error error, bytes) => ⟨.error error, bytes, 0⟩

end MountControl.Wire
