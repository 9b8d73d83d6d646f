/-!
# FaceAnnotator.Text.Utf8

**Texts as bytes and back.**

Files and sinks hold bytes, everything else is text. `encode` writes each character as its bytes and
`decode` accepts exactly what `encode` writes.
-/

namespace FaceAnnotator.Text

/-- The bytes of a text. -/
def encode (text : List Char) : List UInt8 := text.flatMap String.utf8EncodeChar

/-- The text that some bytes spell, if they spell one. -/
def decode (bytes : List UInt8) : Option (List Char) :=
  bytes.toByteArray.utf8Decode?.map Array.toList

@[simp] theorem encode_nil : encode [] = [] := rfl

@[simp] theorem encode_append (s t : List Char) : encode (s ++ t) = encode s ++ encode t := by
  simp [encode]

@[simp] theorem encode_cons (c : Char) (s : List Char) :
    encode (c :: s) = String.utf8EncodeChar c ++ encode s := by
  simp [encode]

theorem toByteArray_encode (text : List Char) : (encode text).toByteArray = text.utf8Encode := by
  rw [encode, List.utf8Encode]

/-- What was written reads back. -/
@[simp] theorem decode_encode (text : List Char) : decode (encode text) = some text := by
  simp [decode, toByteArray_encode, List.utf8Decode?_utf8Encode]

end FaceAnnotator.Text
