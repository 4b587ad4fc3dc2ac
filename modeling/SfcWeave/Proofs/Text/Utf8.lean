import SfcWeave.Proofs.Text.Span

/-!
# The bytes of a text

Offsets and lines are those of the UTF-8 encoding (`bytes`). A line feed is a single byte, and that
byte is in the encoding of no other character:

    lineFeed_mem_utf8EncodeChar : lineFeed ∈ String.utf8EncodeChar c ↔ c = '\n'

so that bytes can be split into lines without decoding them first.
-/

namespace SfcWeave.Text

variable {c : Char} {cs : List Char}

/-- The bytes of a text in UTF-8. -/
def bytes (text : String) : List UInt8 := text.toUTF8.data.toList

/-- The byte that ends a line. -/
def lineFeed : UInt8 := 10

/-- The bytes of a list of characters. -/
def encode (cs : List Char) : List UInt8 := cs.flatMap String.utf8EncodeChar

theorem bytes_eq_encode (text : String) : bytes text = encode text.toList := by
  obtain ⟨cs, rfl⟩ : ∃ cs, text = String.ofList cs := ⟨_, String.ofList_toList.symm⟩
  rw [bytes, String.toUTF8_eq_toByteArray, String.toByteArray_ofList, String.toList_ofList,
    List.utf8Encode, List.data_toByteArray]
  rfl

/-- A text is read back from its bytes. -/
theorem fromUTF8?_bytes (text : String) :
    String.fromUTF8? (bytes text).toByteArray = some text := by
  have harray : (bytes text).toByteArray = text.toByteArray := by
    apply ByteArray.ext
    rw [List.data_toByteArray]
    exact Array.toArray_toList
  rw [harray, String.fromUTF8?, dif_pos text.isValidUTF8]
  rfl

@[simp] theorem encode_append (a b : List Char) : encode (a ++ b) = encode a ++ encode b :=
  List.flatMap_append

@[simp] theorem encode_cons (c : Char) (cs : List Char) :
    encode (c :: cs) = String.utf8EncodeChar c ++ encode cs :=
  List.flatMap_cons

theorem encode_lineFeed : encode ['\n'] = [lineFeed] := rfl

theorem length_encode (cs : List Char) : (encode cs).length = byteLength cs := by
  induction cs with
  | nil => rfl
  | cons c cs ih =>
    rw [encode_cons, List.length_append, String.length_utf8EncodeChar, ih]
    rfl

/-- Only the line feed is encoded with the byte of a line feed. -/
theorem lineFeed_mem_utf8EncodeChar : lineFeed ∈ String.utf8EncodeChar c ↔ c = '\n' := by
  have hbyte (n : Nat) : lineFeed = UInt8.ofNat n ↔ n % 256 = 10 := by
    rw [← UInt8.toNat_inj, UInt8.toNat_ofNat', eq_comm]
    rfl
  have hfeed : c = '\n' ↔ c.val.toNat = 10 := by
    rw [← Char.toNat_inj]
    rfl
  rw [hfeed, String.utf8EncodeChar]
  split
  · simp only [List.mem_singleton, hbyte]
    omega
  · -- every byte of a longer encoding is above the ASCII range
    (repeat' split) <;> simp only [List.mem_cons, List.not_mem_nil, or_false, hbyte] <;> omega

theorem lineFeed_mem_encode : lineFeed ∈ encode cs ↔ '\n' ∈ cs := by
  rw [encode, List.mem_flatMap]
  constructor
  · rintro ⟨c, hc, hfeed⟩
    obtain rfl := lineFeed_mem_utf8EncodeChar.mp hfeed
    exact hc
  · intro hc
    exact ⟨'\n', hc, lineFeed_mem_utf8EncodeChar.mpr rfl⟩

end SfcWeave.Text
