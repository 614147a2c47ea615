/-
  MountControl — both sides tell messages apart alike.

  The client waits for a reply as the service reads a request, with the same
  limit; but it has less patience.

  * `Expired`: with this turn the time is over;
  * `readReply_timeout_iff`: the client gives up exactly if it comes to such a
    turn;
  * `alike_of_ne_timeout`: and otherwise makes of what comes what the service
    would make of it;
  * `reply_framed_alike` puts both together.
-/
import MountControl.Proofs.Wire.Reading

namespace MountControl.Wire

open Host (IoError)

/-- The system has waited for this read as long as it was told to. -/
def Read.Lapsed : Read → Prop
  | .chunk _ => False
  | .failed error => error.kind = .wouldBlock ∨ error.kind = .timedOut

/-- With this turn the time is over: it is found to be before the read, or the read says so. -/
def Expired (window : Nat) (turn : Nat × Read) : Prop :=
  (window ≠ 0 ∧ window ≤ turn.1) ∨ turn.2.Lapsed

/-- The time runs out while the reply is still coming: before the turn with which it is over, the
    client goes on waiting. -/
def RunsOut (window : Nat) (turns : List (Nat × Read)) : Prop :=
  ∃ before turn later, turns = before ++ turn :: later ∧
    (∀ earlier ∈ before, ¬ Expired window earlier) ∧
    Passes maxMessageBytes (before.map Prod.snd) ∧ Expired window turn

section
variable {window elapsed : Nat} {front bytes : List UInt8} {turn : Nat × Read}
  {turns : List (Nat × Read)} {error : IoError}

/-! ## Single turns -/

theorem readReply_loop_expired (h : Expired window turn) :
    readReply.loop window front (turn :: turns) = .error .timeout := by
  rcases turn with ⟨elapsed, read⟩
  rw [readReply.loop.eq_def]
  simp only
  split
  next => rfl
  next hnow =>
    rcases h with hover | hlapsed
    · exact absurd hover hnow
    · cases read with
      | chunk bytes => exact hlapsed.elim
      | failed error =>
        rcases hlapsed with hkind | hkind
        · simp only [hkind]
        · simp only [hkind]

theorem readReply_loop_closed (h : ¬ Expired window (elapsed, .chunk [])) :
    readReply.loop window front ((elapsed, .chunk []) :: turns) = .ok front := by
  rw [readReply.loop, if_neg fun hover => h (.inl hover)]

theorem readReply_loop_chunk (h : ¬ Expired window (elapsed, .chunk bytes)) (hne : bytes ≠ []) :
    readReply.loop window front ((elapsed, .chunk bytes) :: turns) =
      if maxMessageBytes < (front ++ bytes).length then .error .oversized
      else readReply.loop window (front ++ bytes) turns := by
  obtain ⟨first, rest, rfl⟩ := List.exists_cons_of_ne_nil hne
  rw [readReply.loop.eq_def]
  simp only [if_neg fun hover => h (.inl hover)]

theorem readReply_loop_failed (h : ¬ Expired window (elapsed, .failed error)) :
    readReply.loop window front ((elapsed, .failed error) :: turns) =
      if error.kind = .interrupted then readReply.loop window front turns
      else .error (.read error) := by
  have hkind : error.kind ≠ .wouldBlock ∧ error.kind ≠ .timedOut :=
    not_or.1 fun hlapsed => h (.inr hlapsed)
  rw [readReply.loop, if_neg fun hover => h (.inl hover)]
  split
  next hinterrupted => rw [if_pos hinterrupted]
  next hblock => exact absurd hblock hkind.1
  next htime => exact absurd htime hkind.2
  next hother _ _ => rw [if_neg hother]

end

/-! ## Giving up -/

section
variable {window : Nat} {before turns : List (Nat × Read)}

theorem readReply_loop_passes (hlive : ∀ turn ∈ before, ¬ Expired window turn)
    (h : Passes maxMessageBytes (before.map Prod.snd)) (later : List (Nat × Read)) :
    readReply window (before ++ later) =
      readReply.loop window (received (before.map Prod.snd)) later := by
  induction before using List.reverseRecOn generalizing later with
  | nil => rfl
  | append_singleton before turn ih =>
    rcases turn with ⟨elapsed, read⟩
    have hturn := hlive (elapsed, read) (by simp)
    rw [List.map_append] at h
    have hread := h.goesOn read (by simp)
    have hwithin := h.within
    rw [List.append_assoc, List.singleton_append,
      ih (fun other hother => hlive other (List.mem_append_left _ hother)) h.of_append]
    cases read with
    | chunk bytes =>
      rw [readReply_loop_chunk hturn hread, if_neg]
      · simp [Read.bytes]
      · simpa [Read.bytes] using hwithin
    | failed error =>
      have hkind : error.kind = .interrupted := hread
      rw [readReply_loop_failed hturn, if_pos hkind]
      simp [Read.bytes]

theorem runsOut_of_timeout (hlive : ∀ turn ∈ before, ¬ Expired window turn)
    (hpasses : Passes maxMessageBytes (before.map Prod.snd))
    (h : readReply.loop window (received (before.map Prod.snd)) turns = .error .timeout) :
    RunsOut window (before ++ turns) := by
  induction turns generalizing before with
  | nil =>
    rw [readReply.loop] at h
    cases h
  | cons turn turns ih =>
    by_cases hturn : Expired window turn
    · exact ⟨before, turn, turns, rfl, hlive, hpasses, hturn⟩
    · rcases turn with ⟨elapsed, read⟩
      -- a turn that can be waited through is one of those before
      have hwait : read.GoesOn →
          (received (before.map Prod.snd) ++ read.bytes).length ≤ maxMessageBytes →
          readReply.loop window (received (before.map Prod.snd) ++ read.bytes) turns =
            .error .timeout → RunsOut window (before ++ (elapsed, read) :: turns) := by
        intro hgoes hwithin hloop
        have hmore : ∀ other ∈ before ++ [(elapsed, read)], ¬ Expired window other := by
          intro other hother
          rcases List.mem_append.1 hother with hother | hother
          · exact hlive other hother
          · rwa [List.mem_singleton.1 hother]
        have hsplit : before ++ (elapsed, read) :: turns =
            before ++ [(elapsed, read)] ++ turns := by simp
        rw [hsplit]
        exact ih hmore (by simpa using hpasses.concat hgoes hwithin) (by simpa using hloop)
      cases read with
      | chunk bytes =>
        by_cases hempty : bytes = []
        · subst hempty
          rw [readReply_loop_closed hturn] at h
          cases h
        · rw [readReply_loop_chunk hturn hempty] at h
          split at h
          next => cases h
          next hshort => exact hwait hempty (Nat.le_of_not_lt hshort) h
      | failed error =>
        rw [readReply_loop_failed hturn] at h
        split at h
        next hkind =>
          refine hwait hkind ?_ ?_
          · simpa [Read.bytes] using hpasses.within
          · simpa [Read.bytes] using h
        next => cases h

/-- **The client gives up exactly if it comes to a turn with which the time is over.** -/
theorem readReply_timeout_iff :
    readReply window turns = .error .timeout ↔ RunsOut window turns := by
  constructor
  · intro h
    have hnone : ∀ turn ∈ ([] : List (Nat × Read)), ¬ Expired window turn := by simp
    exact runsOut_of_timeout hnone passes_nil h
  · rintro ⟨before, turn, later, rfl, hlive, hpasses, hturn⟩
    rw [readReply_loop_passes hlive hpasses, readReply_loop_expired hturn]

end

/-! ## Both sides -/

/-- A reply and a message are told apart alike. -/
structure Alike (reply : Except ReplyFailure (List UInt8)) (message : Except IoError MessageRead) :
    Prop where
  complete : ∀ bytes, reply = .ok bytes ↔ message = .ok (.complete bytes)
  oversized : reply = .error .oversized ↔ ∃ n, message = .ok (.oversized n)
  failed : ∀ error, reply = .error (.read error) ↔ message = .error error

/-- What the client makes of what a service would make of the same bytes. -/
def replyOf : Except IoError (Option (List UInt8)) → Except ReplyFailure (List UInt8)
  | .ok (some bytes) => .ok bytes
  | .ok none => .error .oversized
  | .error error => .error (.read error)

theorem alike_replyOf (message : Except IoError MessageRead) :
    Alike (replyOf (message.map MessageRead.message?)) message := by
  rcases message with error | bytes | n
  all_goals constructor <;> simp [Except.map, replyOf, MessageRead.message?]

theorem readReply_loop_content {window : Nat} {front : List UInt8} {turns : List (Nat × Read)}
    (hfront : front.length ≤ maxMessageBytes)
    (h : readReply.loop window front turns ≠ .error .timeout) :
    readReply.loop window front turns =
      replyOf (judge maxMessageBytes (front ++ (content (turns.map Prod.snd)).1)
        (content (turns.map Prod.snd)).2) := by
  induction turns generalizing front with
  | nil =>
    rw [List.map_nil, content, List.append_nil, judge_of_within hfront, readReply.loop]
    rfl
  | cons turn turns ih =>
    have hturn : ¬ Expired window turn := fun hexpired => h (readReply_loop_expired hexpired)
    rcases turn with ⟨elapsed, bytes | error⟩
    · by_cases hempty : bytes = []
      · subst hempty
        rw [readReply_loop_closed hturn, List.map_cons, content, List.append_nil,
          judge_of_within hfront]
        rfl
      · rw [readReply_loop_chunk hturn hempty] at h ⊢
        rw [List.map_cons, content_chunk hempty, ← List.append_assoc]
        split
        next hlong =>
          rw [judge_of_lt]
          · rfl
          · rw [List.length_append]
            exact Nat.lt_add_right _ hlong
        next hshort =>
          rw [if_neg hshort] at h
          exact ih (Nat.le_of_not_lt hshort) h
    · rw [readReply_loop_failed hturn] at h ⊢
      rw [List.map_cons, content]
      split
      next hkind =>
        rw [if_pos hkind] at h
        exact ih hfront h
      next hkind =>
        rw [List.append_nil, judge_of_within hfront]
        rfl

/-- **A client that does not give up makes of a reply what the service would make of it.** -/
theorem alike_of_ne_timeout {window : Nat} {turns : List (Nat × Read)}
    (h : readReply window turns ≠ .error .timeout) :
    Alike (readReply window turns) (readMessage maxMessageBytes (turns.map Prod.snd)).1 := by
  have hreply := readReply_loop_content (Nat.zero_le _) h
  rw [List.nil_append, ← readMessage_content] at hreply
  rw [readReply, hreply]
  exact alike_replyOf _

/-- **Client and service tell messages apart alike.**  As long as the time does not run out, a
    reply is whole, too long or broken off for the client exactly if it would be so for the
    service, with the same bytes or the same error.  Where it does run out while the reply is still
    coming, the client has no reply, and nothing of one. -/
theorem reply_framed_alike (window : Nat) (turns : List (Nat × Read)) :
    let reply := readReply window turns
    let message := (readMessage maxMessageBytes (turns.map Prod.snd)).1
    ((∀ turn ∈ turns, ¬ Expired window turn) → Alike reply message) ∧
      (reply ≠ .error .timeout → Alike reply message) ∧
      (reply = .error .timeout ↔ RunsOut window turns) := by
  intro reply message
  refine ⟨fun hlive => alike_of_ne_timeout fun htimeout => ?_, alike_of_ne_timeout,
    readReply_timeout_iff⟩
  obtain ⟨before, turn, later, rfl, -, -, hturn⟩ := readReply_timeout_iff.1 htimeout
  exact hlive turn (by simp) hturn

/-- A reply in two parts with an interruption in between: in time for a window of 5, and not for
    one of 4. -/
theorem reply_framed_alike_interrupted :
    let turns := [(0, .chunk [79]), (1, .failed (.ofKind .interrupted)), (4, .chunk [75]),
      (4, .chunk [])]
    (∀ turn ∈ turns, ¬ Expired 5 turn) ∧
      readReply 5 turns = .ok [79, 75] ∧
      (readMessage maxMessageBytes (turns.map Prod.snd)).1 = .ok (.complete [79, 75]) ∧
      readReply 4 turns = .error .timeout := by
  intro turns
  have hlive : ∀ turn ∈ turns, ¬ Expired 5 turn := by
    simp [turns, Expired, Read.Lapsed, IoError.kind]
  obtain ⟨halike, -, -⟩ := reply_framed_alike 5 turns
  obtain ⟨-, -, htimeout⟩ := reply_framed_alike 4 turns
  have hreply : readReply 5 turns = .ok [79, 75] := by decide
  have hearly : ∀ turn ∈ turns.take 2, ¬ Expired 4 turn := by
    simp [turns, Expired, Read.Lapsed, IoError.kind]
  have hpasses : Passes maxMessageBytes ((turns.take 2).map Prod.snd) :=
    ⟨by simp [turns, Read.GoesOn, IoError.kind], by decide⟩
  refine ⟨hlive, hreply, ((halike hlive).complete _).1 hreply, htimeout.2 ?_⟩
  exact ⟨turns.take 2, (4, .chunk [75]), [(4, .chunk [])], rfl, hearly, hpasses, .inl (by decide)⟩

end MountControl.Wire
