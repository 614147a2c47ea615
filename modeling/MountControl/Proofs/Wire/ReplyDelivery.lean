/-
  MountControl — a reply that fits the limit is read by the client.

  What the client reads of a reply (`Reply.received`) is the reply itself,
  but for the line feed that may stand at the end of an error's text.

  * `Reply.sized_of_length`: the lengths in a reply that fits an address space
    can be read;
  * `Reply.decode_delivered`: a reply within the limit is read without an
    issue, unless it tells of a volume of which nothing is known.
-/
import MountControl.Proofs.Text.Utf8
import MountControl.Proofs.Wire.ReplyRoundTrip
import MountControl.Proofs.Wire.Size
import MountControl.Wire.Framing

namespace MountControl.Wire

open Text (byteLength byteLength_append)
open Volume (Record)

/-! ## Lengths -/

/-- The records of a reply are a part of it. -/
theorem Reply.sum_size_le (reply : Reply) :
    (reply.fields.map Field.size).sum ≤ byteLength reply.encode := by
  cases reply with
  | ok | error => exact Nat.zero_le _
  | listing | detail =>
    rw [Reply.encode, byteLength_append, byteLength_render]
    exact Nat.le_add_left ..

theorem Reply.sized_of_length {reply : Reply} (h : byteLength reply.encode < UInt64.size) :
    reply.Sized := by
  intro field hfield value hvalue
  have hlt := Field.utf8ByteSize_lt_size hvalue
  have hle := Field.size_le_sum hfield
  have hsum := reply.sum_size_le
  omega

/-! ## Reading -/

/-- What is read of a reply. -/
def Reply.received : Reply → Reply
  | .error description => .error (String.ofList (dropLineEnd description.toList))
  | reply => reply

/-- A line feed at the end is dropped whether or not it had to be added. -/
theorem dropLineEnd_of_endLine (text : List Char) :
    dropLineEnd (endLine text) = dropLineEnd text := by
  by_cases h : text.getLast? = some '\n'
  · rw [endLine, if_pos h]
  · rw [(dropLineEnd_endLine text).2 h, dropLineEnd, if_neg h]

theorem decode_error_received (description : String) :
    Reply.decode (Reply.error description).encode = .ok ⟨(Reply.error description).received, []⟩ := by
  have hbreak : '\n' ∉ kindError.toList := by decide
  have htext : (Reply.error description).encode =
      kindError.toList ++ '\n' :: endLine description.toList := by
    simp [Reply.encode, markerLine]
  rw [htext, Reply.decode, Text.line_append hbreak, Text.afterLine_append hbreak, if_neg (by simp),
    if_neg (by decide), if_pos rfl, dropLineEnd_of_endLine]
  rfl

/-- A data reply is read back if its fields make a body that is this reply. -/
theorem decode_encode_of_body {reply : Reply} {body : DataBody} (hs : reply.Sized)
    (hne : reply.fields ≠ [])
    (hencode : reply.encode = markerLine kindData ++ reply.fields.flatMap Field.render)
    (hbody : reply.fields.foldlM DataBody.accept {} = .ok body) (hreply : body.reply = reply) :
    Reply.decode reply.encode = .ok ⟨reply, []⟩ := by
  rw [hencode, decode_fields hne hs hbody, hreply]

/-- **A reply within the limit is read without an issue.** -/
theorem Reply.decode_delivered {reply : Reply} (hknown : reply ≠ .detail {})
    (hsize : (Text.encode reply.encode).length ≤ maxMessageBytes) :
    Reply.decode (Text.decodeLossy (Text.encode reply.encode)) = .ok ⟨reply.received, []⟩ := by
  rw [Text.length_encode] at hsize
  have hsized : reply.Sized := sized_of_length (hsize.trans_lt (by decide))
  rw [Text.decodeLossy_encode]
  cases reply with
  | ok => decide
  | error description => exact decode_error_received description
  | listing records =>
    obtain ⟨body, hbody, hreply⟩ := DataBody.foldlM_listing records
    exact decode_encode_of_body hsized (by cases records <;> exact nofun) rfl hbody hreply
  | detail record =>
    obtain ⟨body, hbody, hreply⟩ := DataBody.foldlM_detail record
    have hne : record.fields ≠ [] := fun h => hknown (by rw [Record.fields_eq_nil.1 h])
    exact decode_encode_of_body hsized hne rfl hbody hreply

end MountControl.Wire
