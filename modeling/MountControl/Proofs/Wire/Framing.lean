/-
  MountControl — a message arrives whole, however its bytes are cut.

  `Delivers reads bytes`: the stream brings these bytes and then ends, in
  chunks of any sizes that a read can take, with any number of interruptions
  in between.

  * `readMessage_delivers`: a message within the limit is then read as it was
    sent;
  * `readReply_arrives`: so is a reply that arrives in time;
  * `writeMessage_prefix`: whatever the writes do, they take a front part of
    the message; `writeMessage_of_takes`: all of it where none fails.
-/
import MountControl.Wire.Framing

namespace MountControl.Wire

open Host (IoError)

/-- The stream brings the bytes, and then its end: a read of nothing, or no more reads. -/
inductive Delivers : List Read → List UInt8 → Prop
  | ended : Delivers [] []
  | closed (later : List Read) : Delivers (.chunk [] :: later) []
  | chunk {front bytes : List UInt8} {reads : List Read} :
      front ≠ [] → front.length ≤ readSize → Delivers reads bytes →
      Delivers (.chunk front :: reads) (front ++ bytes)
  | interrupted {error : IoError} {reads : List Read} {bytes : List UInt8} :
      error.kind = .interrupted → Delivers reads bytes → Delivers (.failed error :: reads) bytes

theorem readMessage_loop_delivers {limit : Nat} {reads : List Read} {bytes : List UInt8}
    (h : Delivers reads bytes) : ∀ received : List UInt8,
    (received ++ bytes).length ≤ limit →
      (readMessage.loop limit received reads).1 = .ok (.complete (received ++ bytes)) := by
  induction h with
  | ended =>
    intro received _
    rw [readMessage.loop, List.append_nil]
    rfl
  | closed later =>
    intro received _
    rw [readMessage.loop, List.append_nil]
    rfl
  | @chunk front bytes reads hne hsize _ ih =>
    intro received hlimit
    obtain ⟨first, rest, rfl⟩ := List.exists_cons_of_ne_nil hne
    rw [← List.append_assoc] at hlimit ⊢
    have hfront : ¬ limit < (received ++ first :: rest).length := by
      rw [List.length_append] at hlimit
      omega
    rw [readMessage.loop, dif_neg (by simp)]
    simp only [Read.take, if_pos hsize, if_neg hfront]
    exact ih _ hlimit
  | @interrupted error reads bytes hkind _ ih =>
    intro received hlimit
    rw [readMessage.loop, dif_neg (by simp)]
    simp only [Read.take, hkind, if_true]
    exact ih _ hlimit

/-- **A message within the limit is read as it was sent.** -/
theorem readMessage_delivers {limit : Nat} {reads : List Read} {bytes : List UInt8}
    (h : Delivers reads bytes) (hlimit : bytes.length ≤ limit) :
    (readMessage limit reads).1 = .ok (.complete bytes) :=
  readMessage_loop_delivers h [] hlimit

theorem readMessage_loop_le {limit : Nat} {received : List UInt8} {reads : List Read}
    {bytes : List UInt8} : received.length ≤ limit →
      (readMessage.loop limit received reads).1 = .ok (.complete bytes) →
      bytes.length ≤ limit := by
  induction received, reads using readMessage.loop.induct limit with
  | case1 received =>
    rw [readMessage.loop]
    rintro hreceived ⟨⟩
    exact hreceived
  | case2 received reads hne step hstep =>
    rw [readMessage.loop, dif_neg hne]
    simp only [show (Read.take reads).1 = _ from hstep]
    rintro hreceived ⟨⟩
    exact hreceived
  | case3 received reads hne step chunk hchunk hstep all hlong =>
    rw [readMessage.loop, dif_neg hne]
    simp only [show (Read.take reads).1 = _ from hstep]
    rw [if_pos hlong]
    rintro hreceived ⟨⟩
  | case4 received reads hne step chunk hchunk hstep all hshort ih =>
    rw [readMessage.loop, dif_neg hne]
    simp only [show (Read.take reads).1 = _ from hstep]
    rw [if_neg hshort]
    exact fun _ => ih (Nat.le_of_not_lt hshort)
  | case5 received reads hne step error hstep hkind ih =>
    rw [readMessage.loop, dif_neg hne]
    simp only [show (Read.take reads).1 = _ from hstep, if_pos hkind]
    exact ih
  | case6 received reads hne step error hstep hkind =>
    rw [readMessage.loop, dif_neg hne]
    simp only [show (Read.take reads).1 = _ from hstep, if_neg hkind]
    rintro hreceived ⟨⟩

/-- **What is read completely is within the limit.** -/
theorem length_le_of_readMessage {limit : Nat} {reads : List Read} {bytes : List UInt8}
    (h : (readMessage limit reads).1 = .ok (.complete bytes)) : bytes.length ≤ limit :=
  @readMessage_loop_le limit [] reads bytes (Nat.zero_le limit) h

/-! ## Waiting for a reply -/

/-- The reply arrives: its bytes and their end come in chunks, with interruptions in between, and
    each read begins before the time is over. -/
inductive Arrives (window : Nat) : List (Nat × Read) → List UInt8 → Prop
  | ended : Arrives window [] []
  | closed {elapsed : Nat} (later : List (Nat × Read)) : ¬(window ≠ 0 ∧ window ≤ elapsed) →
      Arrives window ((elapsed, .chunk []) :: later) []
  | chunk {elapsed : Nat} {front bytes : List UInt8} {turns : List (Nat × Read)} :
      ¬(window ≠ 0 ∧ window ≤ elapsed) → front ≠ [] → Arrives window turns bytes →
      Arrives window ((elapsed, .chunk front) :: turns) (front ++ bytes)
  | interrupted {elapsed : Nat} {error : IoError} {turns : List (Nat × Read)}
      {bytes : List UInt8} : ¬(window ≠ 0 ∧ window ≤ elapsed) → error.kind = .interrupted →
      Arrives window turns bytes → Arrives window ((elapsed, .failed error) :: turns) bytes

theorem readReply_loop_arrives {window : Nat} {turns : List (Nat × Read)} {bytes : List UInt8}
    (h : Arrives window turns bytes) : ∀ received : List UInt8,
    (received ++ bytes).length ≤ maxMessageBytes →
      readReply.loop window received turns = .ok (received ++ bytes) := by
  induction h with
  | ended =>
    intro received _
    rw [readReply.loop, List.append_nil]
  | closed later htime =>
    intro received _
    rw [readReply.loop, if_neg htime, List.append_nil]
  | @chunk elapsed front bytes turns htime hne _ ih =>
    intro received hlimit
    obtain ⟨first, rest, rfl⟩ := List.exists_cons_of_ne_nil hne
    rw [← List.append_assoc] at hlimit ⊢
    have hfront : ¬ maxMessageBytes < (received ++ first :: rest).length := by
      rw [List.length_append] at hlimit
      omega
    rw [readReply.loop.eq_def]
    simp only [if_neg htime, if_neg hfront]
    exact ih _ hlimit
  | @interrupted elapsed error turns bytes htime hkind _ ih =>
    intro received hlimit
    rw [readReply.loop, if_neg htime]
    simp only [hkind]
    exact ih _ hlimit

/-- **A reply within the limit that arrives in time is read as it was sent.** -/
theorem readReply_arrives {window : Nat} {turns : List (Nat × Read)} {bytes : List UInt8}
    (h : Arrives window turns bytes) (hlimit : bytes.length ≤ maxMessageBytes) :
    readReply window turns = .ok bytes :=
  readReply_loop_arrives h [] hlimit

theorem readReply_loop_arrives_oversized {window : Nat} {turns : List (Nat × Read)}
    {bytes : List UInt8} (h : Arrives window turns bytes) : ∀ received : List UInt8,
    received.length ≤ maxMessageBytes → maxMessageBytes < (received ++ bytes).length →
      readReply.loop window received turns = .error .oversized := by
  induction h with
  | ended | closed =>
    intro received hfits hlong
    rw [List.append_nil] at hlong
    omega
  | @chunk elapsed front bytes turns htime hne _ ih =>
    intro received hfits hlong
    obtain ⟨first, rest, rfl⟩ := List.exists_cons_of_ne_nil hne
    rw [← List.append_assoc] at hlong
    rw [readReply.loop.eq_def]
    simp only [if_neg htime]
    split
    next => rfl
    next hfront => exact ih _ (Nat.le_of_not_lt hfront) hlong
  | @interrupted elapsed error turns bytes htime hkind _ ih =>
    intro received hfits hlong
    rw [readReply.loop, if_neg htime]
    simp only [hkind]
    exact ih _ hfits hlong

/-- A longer reply is oversized, also if it arrives in time. -/
theorem readReply_arrives_oversized {window : Nat} {turns : List (Nat × Read)}
    {bytes : List UInt8} (h : Arrives window turns bytes) (hlong : maxMessageBytes < bytes.length) :
    readReply window turns = .error .oversized :=
  readReply_loop_arrives_oversized h [] (Nat.zero_le _) hlong

/-- The bytes that a read brings. -/
def Read.bytes : Read → List UInt8
  | .chunk bytes => bytes
  | .failed _ => []

theorem readReply_loop_oversized {window : Nat} {turns : List (Nat × Read)} :
    ∀ {received : List UInt8}, readReply.loop window received turns = .error .oversized →
      maxMessageBytes < (received ++ turns.flatMap (·.2.bytes)).length := by
  induction turns with
  | nil =>
    intro received h
    cases h
  | cons turn turns ih =>
    intro received h
    rcases turn with ⟨elapsed, read⟩
    rw [readReply.loop.eq_def] at h
    simp only at h
    split at h
    next => cases h
    next =>
      split at h
      next => cases h
      next bytes hbytes =>
        rw [List.flatMap_cons, ← List.append_assoc]
        split at h
        next hlong =>
          rw [List.length_append]
          exact Nat.lt_add_right _ hlong
        next => exact ih h
      next error =>
        split at h
        next => exact ih h
        next => cases h
        next => cases h
        next => cases h

/-- **A reply is oversized only if it is longer than the limit.** -/
theorem lt_of_readReply_oversized {window : Nat} {turns : List (Nat × Read)}
    (h : readReply window turns = .error .oversized) :
    maxMessageBytes < (turns.flatMap (·.2.bytes)).length :=
  readReply_loop_oversized h

/-- What is longer than the limit is oversized as soon as it has come. -/
theorem readReply_of_lt {bytes : List UInt8} (h : maxMessageBytes < bytes.length)
    (turns : List (Nat × Read)) :
    readReply 0 ((0, .chunk bytes) :: turns) = .error .oversized := by
  obtain ⟨first, rest, rfl⟩ := List.exists_cons_of_length_pos (Nat.zero_lt_of_lt h)
  rw [readReply, readReply.loop.eq_def]
  simp only [ne_eq, not_true_eq_false, false_and, if_false, List.nil_append, if_pos h]

/-! ## Writing -/

/-- The write fails: it takes nothing, or its error is more than an interruption. -/
def Write.Fails : Write → Prop
  | .takes n => n = 0
  | .failed error => error.kind ≠ .interrupted

instance : DecidablePred Write.Fails
  | .takes n => inferInstanceAs (Decidable (n = 0))
  | .failed error => inferInstanceAs (Decidable (error.kind ≠ .interrupted))

theorem writeAll_prefix (writes : List Write) : ∀ front left : List UInt8,
    ∃ taken, (writeAll front left writes).2 = front ++ taken ∧ taken <+: left := by
  induction writes with
  | nil => exact fun front left => ⟨left, rfl, List.prefix_rfl⟩
  | cons write writes ih =>
    intro front left
    have hnone : ∃ taken, front = front ++ taken ∧ taken <+: left :=
      ⟨[], (List.append_nil front).symm, List.nil_prefix⟩
    rw [writeAll.eq_def]
    dsimp only
    split
    · exact hnone
    · split
      · exact hnone
      next n _ =>
        -- what this write takes comes before what the later ones take of the rest
        obtain ⟨taken, htaken, rest, hrest⟩ := ih (front ++ left.take n) (left.drop n)
        exact ⟨left.take n ++ taken, by rw [htaken, List.append_assoc], rest,
          by rw [List.append_assoc, hrest, List.take_append_drop]⟩
      · split
        · exact ih front left
        · exact hnone

theorem writeAll_of_takes {writes : List Write} (h : ∀ write ∈ writes, ¬ write.Fails) :
    ∀ front left : List UInt8, writeAll front left writes = (.ok (), front ++ left) := by
  induction writes with
  | nil => exact fun _ _ => rfl
  | cons write writes ih =>
    intro front left
    have hwrite := h write List.mem_cons_self
    have hrest := ih fun later hlater => h later (List.mem_cons_of_mem _ hlater)
    rw [writeAll.eq_def]
    dsimp only
    split
    next hempty => rw [List.isEmpty_iff.1 hempty, List.append_nil]
    next =>
      split
      · exact absurd rfl hwrite
      next n _ => rw [hrest, List.append_assoc, List.take_append_drop]
      next error =>
        rw [if_pos (Decidable.not_not.1 hwrite)]
        exact hrest front left

/-- **Whatever the writes do, they take a front part of the message.** -/
theorem writeMessage_prefix (message : List UInt8) (writes : List Write)
    (flush : Except IoError Unit) : (writeMessage message writes flush).bytes <+: message := by
  obtain ⟨taken, htaken, hprefix⟩ := writeAll_prefix writes [] message
  rw [List.nil_append] at htaken
  subst htaken
  rw [writeMessage]
  split <;> rwa [‹writeAll [] message writes = _›] at hprefix

/-- **All of it is written where no write fails**, and it then depends on flushing whether all went
    well. -/
theorem writeMessage_of_takes {writes : List Write} (h : ∀ write ∈ writes, ¬ write.Fails)
    (message : List UInt8) (flush : Except IoError Unit) :
    (writeMessage message writes flush).bytes = message ∧
      (writeMessage message writes flush).result = flush := by
  rw [writeMessage, writeAll_of_takes h]
  exact ⟨rfl, rfl⟩

end MountControl.Wire
