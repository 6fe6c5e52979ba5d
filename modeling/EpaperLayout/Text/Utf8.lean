/-!
# Texts as bytes

The UTF-8 encoding of a list of characters, its inverse, and the size in bytes
of a piece of text.  All offsets of this library count bytes of this encoding.

**Results.** Decoding undoes encoding, and sizes add up along a text.
-/

namespace EpaperLayout
namespace Text

/-- The UTF-8 encoding of a text. -/
def encode (cs : List Char) : List UInt8 :=
  cs.flatMap String.utf8EncodeChar

/-- The text that the bytes encode, if they are well-formed UTF-8. -/
def decode? (bytes : List UInt8) : Option (List Char) :=
  bytes.toByteArray.utf8Decode?.map Array.toList

/-- Number of bytes that the text takes in UTF-8. -/
def byteSize : List Char → Nat
  | [] => 0
  | c :: rest => c.utf8Size + byteSize rest

/-- Every text is read back from its bytes. -/
theorem decode?_encode (cs : List Char) : decode? (encode cs) = some cs := by
  have h : (encode cs).toByteArray = cs.utf8Encode := rfl
  simp [decode?, h, List.utf8Decode?_utf8Encode]

/-- The size of the empty text. -/
@[simp] theorem byteSize_nil : byteSize [] = 0 := rfl

/-- The size of a text is the size of its first character and of the rest. -/
@[simp] theorem byteSize_cons (c : Char) (cs : List Char) :
    byteSize (c :: cs) = c.utf8Size + byteSize cs := rfl

/-- Sizes add up. -/
@[simp] theorem byteSize_append (cs ds : List Char) :
    byteSize (cs ++ ds) = byteSize cs + byteSize ds := by
  induction cs with
  | nil => simp
  | cons c rest ih => simp [ih, Nat.add_assoc]

end Text
end EpaperLayout
