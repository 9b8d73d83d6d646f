import FaceAnnotator.Text.Printable
/-!
# FaceAnnotator.Text.Quoted

**A text quoted inside a message**, on one line and unambiguous.

The quotation stands between double quotes. A double quote, a backslash and the usual control
characters are escaped by a backslash and one character; any other character that does not show is
written by its number. A single quote needs nothing.
-/

namespace FaceAnnotator.Text

/-- How one character looks inside a quotation. -/
def quotedChar (c : Char) : List Char :=
  if c = '\x00' then ['\\', '0']
  else if c = '\t' then ['\\', 't']
  else if c = '\n' then ['\\', 'n']
  else if c = '\r' then ['\\', 'r']
  else if c = '"' then ['\\', '"']
  else if c = '\\' then ['\\', '\\']
  else if isPrintable c then [c]
  else '\\' :: 'u' :: '\x7b' :: Nat.toDigits 16 c.toNat ++ ['\x7d']

/-- The quotation of a text. -/
def quoted (text : List Char) : List Char := '"' :: text.flatMap quotedChar ++ ['"']

end FaceAnnotator.Text
