/-!
# The bytes of a text

Text goes over the wire as UTF-8, and names and keys are ordered by their bytes.
-/

namespace NodeRpc

abbrev Bytes := List UInt8

/-- The UTF-8 encoding of a text. -/
def utf8 (s : String) : Bytes := s.toUTF8.data.toList

/-- Texts with the same bytes are the same. -/
theorem utf8_inj {a b : String} : utf8 a = utf8 b ↔ a = b := by
  refine ⟨fun h => ?_, fun h => h ▸ rfl⟩
  have hd : a.toUTF8.data = b.toUTF8.data := Array.toList_inj.1 h
  have hb : a.toUTF8 = b.toUTF8 := ByteArray.ext hd
  exact String.toByteArray_inj.1 hb

end NodeRpc
