import FaceAnnotator.Text.Utf8
/-!
# FaceAnnotator.Proofs.Text.Utf8

**Bytes that spell a text spell no other, and what begins with them begins with the text.**
-/

namespace FaceAnnotator.Text

theorem encode_of_decode {bytes : List UInt8} {text : List Char} (h : decode bytes = some text) :
    encode text = bytes := by
  obtain ⟨chars, spelled, rfl⟩ := Option.map_eq_some_iff.1 h
  have valid : bytes.toByteArray.utf8Decode?.isSome = true := by rw [spelled]; rfl
  have back := @ByteArray.utf8Encode_get_utf8Decode? _ valid
  simp only [spelled, Option.get_some, ← toByteArray_encode] at back
  simpa using congrArg (fun b => b.data.toList) back

/-- The first character is told by its own bytes. -/
theorem eq_of_encode_cons {c d : Char} {rest others : List UInt8}
    (h : String.utf8EncodeChar c ++ rest = String.utf8EncodeChar d ++ others) : c = d := by
  have first (c : Char) (rest : List UInt8) :
      (String.utf8EncodeChar c ++ rest).toByteArray.utf8DecodeChar? 0 = some c := by
    rw [List.toByteArray_append]
    exact ByteArray.utf8DecodeChar?_utf8EncodeChar_append
  have same := first c rest
  rw [h, first d others] at same
  exact (Option.some.inj same).symm

theorem prefix_of_encode_prefix {s t : List Char} (h : encode s <+: encode t) : s <+: t := by
  induction s generalizing t with
  | nil => exact List.nil_prefix
  | cons c s ih =>
      obtain ⟨more, eq⟩ := h
      cases t with
      | nil =>
          rw [encode_cons] at eq
          simp at eq
      | cons d t =>
          rw [encode_cons, encode_cons, List.append_assoc] at eq
          obtain rfl := eq_of_encode_cons eq
          exact List.cons_prefix_cons.2 ⟨rfl, ih ⟨more, List.append_cancel_left eq⟩⟩

theorem encode_injective {s t : List Char} (h : encode s = encode t) : s = t := by
  have there := decode_encode s
  rw [h, decode_encode] at there
  exact (Option.some.inj there).symm

end FaceAnnotator.Text
