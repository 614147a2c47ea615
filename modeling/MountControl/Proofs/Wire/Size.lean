/-
  MountControl — how long messages are.

  The length of a body is the sum of the lengths of its records
  (`byteLength_render`), so a message that fits a 64-bit address space has
  values whose lengths can be read (`Request.sized_of_size`).
-/
import Mathlib.Algebra.Order.BigOperators.Group.List
import Mathlib.Algebra.Order.Group.Nat
import MountControl.Proofs.Text.Length
import MountControl.Proofs.Wire.RequestRoundTrip

namespace MountControl.Wire

open Text (byteLength byteLength_append byteLength_bar byteLength_lineFeed byteLength_nil
  byteLength_toList)
open Text.Numeral (decimal)

/-! ## Records -/

/-- The length of a field's record. -/
def Field.size (field : Field) : Nat := byteLength field.render

theorem byteLength_render (fields : List Field) :
    byteLength (fields.flatMap Field.render) = (fields.map Field.size).sum := by
  induction fields with
  | nil => rfl
  | cons field fields ih =>
    rw [List.flatMap_cons, byteLength_append, ih, List.map_cons, List.sum_cons]
    rfl

theorem Field.size_le_sum {field : Field} {fields : List Field} (h : field ∈ fields) :
    field.size ≤ (fields.map Field.size).sum :=
  List.le_sum_of_mem (List.mem_map_of_mem h)

theorem byteLength_markerLine (marker : String) :
    byteLength (markerLine marker) = marker.utf8ByteSize + 1 := by
  simp [markerLine, byteLength_toList]

/-- The length of a plain record, by those of its parts. -/
theorem byteLength_plainRecord (key : String) (value : List Char) :
    byteLength (plainRecord key value) = key.utf8ByteSize + byteLength value + 2 := by
  simp only [plainRecord, byteLength_append, byteLength_bar, byteLength_lineFeed, byteLength_nil,
    byteLength_toList]
  omega

/-- The length of a counted record, by those of its parts. -/
theorem byteLength_countedRecord (key value : String) :
    byteLength (countedRecord key value) =
      key.utf8ByteSize + byteLength (decimal value.utf8ByteSize) + value.utf8ByteSize + 3 := by
  simp only [countedRecord, byteLength_append, byteLength_bar, byteLength_lineFeed,
    byteLength_nil, byteLength_toList]
  omega

/-- A record is longer than its value. -/
theorem Field.utf8ByteSize_lt_size {field : Field} {value : String}
    (h : field.counted? = some value) : value.utf8ByteSize < field.size := by
  obtain ⟨key, rfl⟩ := exists_of_counted? h
  obtain ⟨name, hrender, -⟩ := render_counted key value
  rw [Field.size, hrender, byteLength_countedRecord]
  omega

/-! ## Requests -/

/-- The length of a request. -/
def Request.size (request : Request) : Nat := byteLength request.encode

theorem Request.size_eq (request : Request) :
    request.size = request.kind.utf8ByteSize + 1 + (request.fields.map Field.size).sum := by
  rw [Request.size, Request.encode, byteLength_append, byteLength_render, byteLength_markerLine]

/-- What fits an address space can be read back. -/
theorem Request.sized_of_size {request : Request} (h : request.size < UInt64.size) :
    request.Sized := by
  intro field hfield value hvalue
  have hlt := Field.utf8ByteSize_lt_size hvalue
  have hle := Field.size_le_sum hfield
  rw [Request.size_eq] at h
  omega

end MountControl.Wire
