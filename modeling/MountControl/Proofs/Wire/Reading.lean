/-
  MountControl — a message is read exactly as far as its limit allows.

  A read that brings bytes or is interrupted is followed by another one.  What
  ends the reading is the end of the stream, a failure, or the chunk with which
  more has come than the limit allows.

  * `Passes` are the reads after which the reading goes on, and `ReadsTo` is
    what it comes to;
  * `readMessage_eq_iff`: it comes to that, and is then where that leaves it;
  * `content` is what a stream brings however its bytes are cut, and
    `readMessage_content` what is made of it;
  * `reading_exact` puts these together.
-/
import Mathlib.Data.List.Induction
import MountControl.Proofs.Wire.Framing

namespace MountControl.Wire

open Host (IoError)

/-! ## Streams -/

/-- The read brings bytes, or it was interrupted. -/
def Read.GoesOn : Read → Prop
  | .chunk bytes => bytes ≠ []
  | .failed error => error.kind = .interrupted

/-- The read brings no more than a single read can. -/
def Read.Fits : Read → Prop
  | .chunk bytes => bytes.length ≤ readSize
  | .failed _ => True

/-- The bytes that some reads bring. -/
def received (reads : List Read) : List UInt8 := reads.flatMap Read.bytes

@[simp] theorem received_nil : received [] = [] := rfl

@[simp] theorem received_append (before later : List Read) :
    received (before ++ later) = received before ++ received later := List.flatMap_append

@[simp] theorem received_cons (read : Read) (reads : List Read) :
    received (read :: reads) = read.bytes ++ received reads := rfl

/-- The reading goes on behind these reads. -/
structure Passes (limit : Nat) (reads : List Read) : Prop where
  goesOn : ∀ read ∈ reads, read.GoesOn
  within : (received reads).length ≤ limit

/-- What reading a message comes to, and what is then left of the stream. -/
inductive ReadsTo (limit : Nat) :
    List Read → Except IoError MessageRead × List Read → Prop
  | exhausted {before : List Read} : Passes limit before →
      ReadsTo limit before (.ok (.complete (received before)), [])
  | closed {before later : List Read} : Passes limit before →
      ReadsTo limit (before ++ .chunk [] :: later) (.ok (.complete (received before)), later)
  | oversized {before later : List Read} {chunk : List UInt8} : Passes limit before →
      limit < (received before ++ chunk).length →
      ReadsTo limit (before ++ .chunk chunk :: later)
        (.ok (.oversized (received before ++ chunk).length), later)
  | failed {before later : List Read} {error : IoError} : Passes limit before →
      error.kind ≠ .interrupted →
      ReadsTo limit (before ++ .failed error :: later) (.error error, later)

section
variable {limit : Nat} {before reads : List Read} {read : Read}

theorem passes_nil : Passes limit [] := ⟨by simp, Nat.zero_le limit⟩

theorem Passes.concat (h : Passes limit before) (hgoes : read.GoesOn)
    (hwithin : (received before ++ read.bytes).length ≤ limit) :
    Passes limit (before ++ [read]) := by
  refine ⟨?_, by simpa using hwithin⟩
  intro other hother
  rcases List.mem_append.1 hother with hother | hother
  · exact h.goesOn other hother
  · rwa [List.mem_singleton.1 hother]

theorem Passes.of_append (h : Passes limit (before ++ reads)) : Passes limit before := by
  refine ⟨fun read hread => h.goesOn read (List.mem_append_left _ hread), ?_⟩
  have hwithin := h.within
  rw [received_append, List.length_append] at hwithin
  omega

end

/-! ## Single reads -/

section
variable {limit : Nat} {front bytes : List UInt8} {reads : List Read} {error : IoError}

theorem readMessage_loop_closed :
    readMessage.loop limit front (.chunk [] :: reads) = (.ok (.complete front), reads) := by
  rw [readMessage.loop]
  rfl

theorem readMessage_loop_chunk (hne : bytes ≠ []) (hfits : bytes.length ≤ readSize) :
    readMessage.loop limit front (.chunk bytes :: reads) =
      if limit < (front ++ bytes).length then (.ok (.oversized (front ++ bytes).length), reads)
      else readMessage.loop limit (front ++ bytes) reads := by
  obtain ⟨first, rest, rfl⟩ := List.exists_cons_of_ne_nil hne
  rw [readMessage.loop, dif_neg (by simp)]
  simp only [Read.take, if_pos hfits]

theorem readMessage_loop_failed :
    readMessage.loop limit front (.failed error :: reads) =
      if error.kind = .interrupted then readMessage.loop limit front reads
      else (.error error, reads) := by
  rw [readMessage.loop, dif_neg (by simp)]
  rfl

end

section
variable {limit : Nat} {before reads : List Read}

/-- What can be passed is only added to what has come. -/
theorem readMessage_loop_passes {later : List Read} (hfits : ∀ read ∈ before ++ later, read.Fits)
    (h : Passes limit before) :
    readMessage limit (before ++ later) = readMessage.loop limit (received before) later := by
  induction before using List.reverseRecOn generalizing later with
  | nil => rfl
  | append_singleton before read ih =>
    have hread := h.goesOn read (by simp)
    have hwithin := h.within
    rw [List.append_assoc, List.singleton_append] at hfits ⊢
    rw [ih hfits h.of_append]
    cases read with
    | chunk bytes =>
      have hsize : bytes.length ≤ readSize := hfits (.chunk bytes) (by simp)
      rw [readMessage_loop_chunk hread hsize, if_neg]
      · simp [Read.bytes]
      · simpa [Read.bytes] using hwithin
    | failed error =>
      have hkind : error.kind = .interrupted := hread
      rw [readMessage_loop_failed, if_pos hkind]
      simp [Read.bytes]

theorem readsTo_loop (hfits : ∀ read ∈ reads, read.Fits) (h : Passes limit before) :
    ReadsTo limit (before ++ reads) (readMessage.loop limit (received before) reads) := by
  -- what has been passed grows by a read with every step
  induction reads generalizing before with
  | nil =>
    rw [List.append_nil, readMessage.loop]
    exact .exhausted h
  | cons read reads ih =>
    have hlater : ∀ other ∈ reads, other.Fits := fun other hother =>
      hfits other (List.mem_cons_of_mem _ hother)
    have hsplit : before ++ read :: reads = before ++ [read] ++ reads := by simp
    cases read with
    | chunk bytes =>
      have hsize : bytes.length ≤ readSize := hfits (.chunk bytes) List.mem_cons_self
      by_cases hempty : bytes = []
      · subst hempty
        rw [readMessage_loop_closed]
        exact .closed h
      · rw [readMessage_loop_chunk hempty hsize]
        split
        next hlong => exact .oversized h hlong
        next hshort =>
          have hmore : Passes limit (before ++ [.chunk bytes]) :=
            h.concat hempty (Nat.le_of_not_lt hshort)
          rw [hsplit]
          simpa [Read.bytes] using ih hlater hmore
    | failed error =>
      rw [readMessage_loop_failed]
      split
      next hkind =>
        have hmore : Passes limit (before ++ [.failed error]) :=
          h.concat hkind (by simpa [Read.bytes] using h.within)
        rw [hsplit]
        simpa [Read.bytes] using ih hlater hmore
      next hkind => exact .failed h hkind

/-- **Reading comes to what it should, and to nothing else.** -/
theorem readMessage_eq_iff (hfits : ∀ read ∈ reads, read.Fits)
    (result : Except IoError MessageRead × List Read) :
    readMessage limit reads = result ↔ ReadsTo limit reads result := by
  constructor
  · rintro rfl
    exact readsTo_loop hfits passes_nil
  · intro h
    cases h with
    | exhausted hpasses =>
      rw [← List.append_nil reads] at hfits
      have hread := readMessage_loop_passes hfits hpasses
      rw [List.append_nil, readMessage.loop] at hread
      exact hread
    | closed hpasses => rw [readMessage_loop_passes hfits hpasses, readMessage_loop_closed]
    | @oversized before later chunk hpasses hlong =>
      have hsize : chunk.length ≤ readSize := hfits (.chunk chunk) (by simp)
      have hne : chunk ≠ [] := by
        rintro rfl
        rw [List.append_nil] at hlong
        exact absurd hpasses.within (Nat.not_le_of_lt hlong)
      rw [readMessage_loop_passes hfits hpasses, readMessage_loop_chunk hne hsize, if_pos hlong]
    | failed hpasses hkind =>
      rw [readMessage_loop_passes hfits hpasses, readMessage_loop_failed, if_neg hkind]

end

/-! ## However the bytes are cut -/

/-- What a stream brings before it ends or fails, and the failure, if there is one. -/
def content : List Read → List UInt8 × Option IoError
  | [] | .chunk [] :: _ => ([], none)
  | .chunk bytes :: reads => (bytes ++ (content reads).1, (content reads).2)
  | .failed error :: reads =>
    if error.kind = .interrupted then content reads else ([], some error)

/-- The message that was read, if it was not too long. -/
def MessageRead.message? : MessageRead → Option (List UInt8)
  | .complete bytes => some bytes
  | .oversized _ => none

/-- What is to be made of some bytes and of the failure behind them. -/
def judge (limit : Nat) (bytes : List UInt8) (failure : Option IoError) :
    Except IoError (Option (List UInt8)) :=
  if limit < bytes.length then .ok none
  else
    match failure with
    | none => .ok (some bytes)
    | some error => .error error

theorem content_chunk {bytes : List UInt8} (h : bytes ≠ []) (reads : List Read) :
    content (.chunk bytes :: reads) = (bytes ++ (content reads).1, (content reads).2) := by
  obtain ⟨first, rest, rfl⟩ := List.exists_cons_of_ne_nil h
  rfl

/-- A single read takes the front off what a stream brings. -/
theorem content_of_take {reads rest : List Read} {bytes : List UInt8}
    (h : Read.take reads = (.ok bytes, rest)) :
    content reads =
      if bytes = [] then ([], none) else (bytes ++ (content rest).1, (content rest).2) := by
  match reads with
  | [] => cases h; rfl
  | .failed error :: reads => cases h
  | .chunk [] :: reads => cases h; rfl
  | .chunk (first :: more) :: reads =>
    rw [Read.take] at h
    split at h
    next => cases h; rfl
    next hlong =>
      -- what is too long for one read is left for another one
      cases h
      have hrest : (first :: more).drop readSize ≠ [] := by
        rw [ne_eq, List.drop_eq_nil_iff]
        exact hlong
      have hfront : (first :: more).take readSize ≠ [] := by
        rw [readSize, List.take_succ_cons]
        exact List.cons_ne_nil _ _
      rw [if_neg hfront, content_chunk hrest, content_chunk (List.cons_ne_nil _ _),
        ← List.append_assoc, List.take_append_drop]

theorem content_of_take_error {reads rest : List Read} {error : IoError}
    (h : Read.take reads = (.error error, rest)) :
    content reads =
      if error.kind = .interrupted then content rest else ([], some error) := by
  match reads with
  | [] => cases h
  | .failed other :: reads => cases h; rfl
  | .chunk bytes :: reads =>
    rw [Read.take] at h
    split at h <;> cases h

theorem judge_of_within {limit : Nat} {bytes : List UInt8} (h : bytes.length ≤ limit)
    (failure : Option IoError) :
    judge limit bytes failure =
      match failure with
      | none => .ok (some bytes)
      | some error => .error error := by
  unfold judge
  rw [if_neg (Nat.not_lt_of_le h)]

theorem judge_of_lt {limit : Nat} {bytes : List UInt8} (h : limit < bytes.length)
    (failure : Option IoError) : judge limit bytes failure = .ok none := by
  unfold judge
  exact if_pos h

theorem readMessage_loop_content {limit : Nat} {front : List UInt8} {reads : List Read} :
    front.length ≤ limit →
      (readMessage.loop limit front reads).1.map MessageRead.message? =
        judge limit (front ++ (content reads).1) (content reads).2 := by
  induction front, reads using readMessage.loop.induct limit with
  | case1 front =>
    intro hfront
    rw [readMessage.loop, content, List.append_nil, judge_of_within hfront]
    rfl
  | case2 front reads hne step hstep =>
    intro hfront
    rw [readMessage.loop, dif_neg hne, content_of_take (Prod.ext hstep rfl), if_pos rfl,
      List.append_nil, judge_of_within hfront]
    simp only [show (Read.take reads).1 = _ from hstep]
    rfl
  | case3 front reads hne step chunk hchunk hstep all hlong =>
    intro hfront
    rw [readMessage.loop, dif_neg hne, content_of_take (Prod.ext hstep rfl), if_neg hchunk,
      judge_of_lt]
    · simp only [show (Read.take reads).1 = _ from hstep]
      rw [if_pos hlong]
      rfl
    · rw [← List.append_assoc, List.length_append]
      exact Nat.lt_add_right _ hlong
  | case4 front reads hne step chunk hchunk hstep all hshort ih =>
    intro hfront
    rw [readMessage.loop, dif_neg hne, content_of_take (Prod.ext hstep rfl), if_neg hchunk,
      ← List.append_assoc, ← ih (Nat.le_of_not_lt hshort)]
    simp only [show (Read.take reads).1 = _ from hstep]
    rw [if_neg hshort]
  | case5 front reads hne step error hstep hkind ih =>
    intro hfront
    rw [readMessage.loop, dif_neg hne, content_of_take_error (Prod.ext hstep rfl), if_pos hkind,
      ← ih hfront]
    simp only [show (Read.take reads).1 = _ from hstep, if_pos hkind]
    rfl
  | case6 front reads hne step error hstep hkind =>
    intro hfront
    rw [readMessage.loop, dif_neg hne, content_of_take_error (Prod.ext hstep rfl), if_neg hkind,
      List.append_nil, judge_of_within hfront]
    simp only [show (Read.take reads).1 = _ from hstep, if_neg hkind]
    rfl

/-- **What is made of a stream goes by what it brings**, however that is cut. -/
theorem readMessage_content (limit : Nat) (reads : List Read) :
    (readMessage limit reads).1.map MessageRead.message? =
      judge limit (content reads).1 (content reads).2 :=
  readMessage_loop_content (Nat.zero_le limit)

/-- A message is found too long with the chunk that makes it so. -/
theorem ReadsTo.received_bounds {limit n : Nat} {reads later : List Read}
    (hfits : ∀ read ∈ reads, read.Fits) (h : ReadsTo limit reads (.ok (.oversized n), later)) :
    limit < n ∧ n ≤ limit + readSize := by
  cases h with
  | @oversized before later chunk hpasses hlong =>
    have hsize : chunk.length ≤ readSize := hfits (.chunk chunk) (by simp)
    have hwithin := hpasses.within
    refine ⟨hlong, ?_⟩
    rw [List.length_append]
    omega

/-- **A message is read exactly as far as its limit allows.**  Interruptions aside, the reading
    comes to the end of the stream, to the first other failure or to the chunk with which there is
    too much, whichever is first, and reads no further.  A message that is too long is found to be
    so within one read.  Apart from how much has come by then, all goes by what the stream brings,
    and not by how that is cut. -/
theorem reading_exact {limit : Nat} {reads : List Read} (hfits : ∀ read ∈ reads, read.Fits) :
    (∀ result, readMessage limit reads = result ↔ ReadsTo limit reads result) ∧
      (∀ n later, readMessage limit reads = (.ok (.oversized n), later) →
        limit < n ∧ n ≤ limit + readSize) ∧
      ∀ others, content others = content reads →
        (readMessage limit others).1.map MessageRead.message? =
          (readMessage limit reads).1.map MessageRead.message? := by
  refine ⟨fun result => readMessage_eq_iff hfits result, ?_, ?_⟩
  · intro n later hread
    exact ((readMessage_eq_iff hfits _).1 hread).received_bounds hfits
  · intro others hsame
    rw [readMessage_content, readMessage_content, hsame]

/-- With the second chunk there is one byte too many; the third one is left. -/
theorem reading_exact_too_long :
    let reads := [.chunk [1, 2], .failed (.ofKind .interrupted), .chunk [3, 4], .chunk [5]]
    (∀ read ∈ reads, read.Fits) ∧
      readMessage 3 reads = (.ok (.oversized 4), [.chunk [5]]) ∧
      3 < 4 ∧ 4 ≤ 3 + readSize ∧
      content [.chunk [1], .chunk [2, 3, 4, 5]] = content reads ∧
      (readMessage 3 [.chunk [1], .chunk [2, 3, 4, 5]]).1.map MessageRead.message? =
        (readMessage 3 reads).1.map MessageRead.message? := by
  intro reads
  have hfits : ∀ read ∈ reads, read.Fits := by simp [reads, Read.Fits, readSize]
  have hcontent : content [.chunk [1], .chunk [2, 3, 4, 5]] = content reads := by decide
  have hpasses : Passes 3 [.chunk [1, 2], .failed (.ofKind .interrupted)] :=
    ⟨by simp [Read.GoesOn, IoError.kind], by decide⟩
  obtain ⟨hread, hbounds, hcut⟩ := @reading_exact 3 reads hfits
  have hlong : readMessage 3 reads = (.ok (.oversized 4), [.chunk [5]]) :=
    (hread _).2 (.oversized hpasses (by decide))
  obtain ⟨hlow, hhigh⟩ := hbounds _ _ hlong
  exact ⟨hfits, hlong, hlow, hhigh, hcontent, hcut _ hcontent⟩

end MountControl.Wire
