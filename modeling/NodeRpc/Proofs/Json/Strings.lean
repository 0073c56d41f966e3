import NodeRpc.Json.Reader
import NodeRpc.Proofs.Text.HexDigits

/-!
# Strings inside JSON text

* `Json.length_lt_of_ofText?`  a string is shorter than the JSON text that writes it.

Two quotes stand around it, and an escape is never shorter than what it stands for: a UTF-16 unit
takes six bytes, the character of a unit or of a pair of them at most four.
-/

namespace NodeRpc

theorem length_skipBlank_le (s : Bytes) : (skipBlank s).length ≤ s.length :=
  (List.dropWhile_suffix _).length_le

namespace RawString

/-- The most bytes that pieces stand for. -/
def width : List RawPiece → Nat
  | [] => 0
  | .byte _ :: pieces => 1 + width pieces
  | .unit _ :: pieces => 4 + width pieces

theorem width_lt_of_read {s rest : Bytes} {pieces : List RawPiece}
    (h : read s = some (pieces, rest)) : width pieces + rest.length < s.length := by
  fun_induction read s generalizing pieces with
  | case1 => cases h
  | case2 =>
    cases h
    simp only [width, List.length_cons]
    omega
  | case3 a b c d s ih =>
    obtain ⟨n, _, h⟩ := Option.bind_eq_some_iff.1 h
    obtain ⟨⟨more, rest'⟩, hread, h⟩ := Option.bind_eq_some_iff.1 h
    cases h
    have hlt := ih hread
    simp only [width, List.length_cons]
    omega
  | case4 letter s _ ih =>
    obtain ⟨b, _, h⟩ := Option.bind_eq_some_iff.1 h
    obtain ⟨⟨more, rest'⟩, hread, h⟩ := Option.bind_eq_some_iff.1 h
    cases h
    have hlt := ih hread
    simp only [width, List.length_cons]
    omega
  | case5 => cases h
  | case6 b s _ _ _ _ ih =>
    obtain ⟨⟨more, rest'⟩, hread, h⟩ := Option.map_eq_some_iff.1 h
    cases h
    have hlt := ih hread
    simp only [width, List.length_cons]
    omega

theorem length_utf8EncodeChar_le (c : Char) : (String.utf8EncodeChar c).length ≤ 4 := by
  rw [String.length_utf8EncodeChar]
  exact c.utf8Size_le_four

theorem length_le_of_bytes? {pieces : List RawPiece} {bytes : Bytes}
    (h : bytes? pieces = some bytes) : bytes.length ≤ width pieces := by
  fun_induction bytes? pieces generalizing bytes with
  | case1 =>
    cases h
    exact Nat.le_refl _
  | case2 b rest ih =>
    obtain ⟨more, hmore, rfl⟩ := Option.map_eq_some_iff.1 h
    have hle := ih hmore
    simp only [width, List.length_cons]
    omega
  | case3 n _ m rest =>
    rename_i ih
    obtain ⟨more, hmore, rfl⟩ := Option.map_eq_some_iff.1 h
    rw [List.length_append]
    exact Nat.add_le_add (length_utf8EncodeChar_le _)
      (Nat.le_trans (ih hmore) (Nat.le_add_left _ 4))
  | case4 => cases h
  | case5 => cases h
  | case6 => cases h
  | case7 n rest _ _ ih =>
    obtain ⟨more, hmore, rfl⟩ := Option.map_eq_some_iff.1 h
    rw [List.length_append]
    exact Nat.add_le_add (length_utf8EncodeChar_le _) (ih hmore)

theorem utf8_of_toString? {pieces : List RawPiece} {text : String}
    (h : toString? pieces = some text) : bytes? pieces = some (utf8 text) := by
  obtain ⟨bytes, hbytes, h⟩ := Option.bind_eq_some_iff.1 h
  unfold String.fromUTF8? at h
  split at h
  · cases h
    rw [hbytes]
    show some bytes = some bytes.toByteArray.data.toList
    rw [List.data_toByteArray]
  · cases h

end RawString

namespace RawJson

theorem width_lt_of_readScalar {s rest : Bytes} {pieces : List RawPiece}
    (h : readScalar s = some (string pieces, rest)) :
    RawString.width pieces + rest.length + 1 < s.length := by
  unfold readScalar at h
  split at h
  · obtain ⟨⟨more, rest'⟩, hread, h⟩ := Option.map_eq_some_iff.1 h
    cases h
    have hlt := RawString.width_lt_of_read hread
    simp only [List.length_cons]
    omega
  · repeat (split at h; · cases h)
    obtain ⟨⟨n, rest'⟩, _, h⟩ := Option.map_eq_some_iff.1 h
    cases h

theorem width_lt_of_readValue {fuel : Nat} {s rest : Bytes} {pieces : List RawPiece}
    (h : readValue fuel s = some (string pieces, rest)) :
    RawString.width pieces + rest.length + 1 < s.length := by
  cases fuel with
  | zero => cases h
  | succ fuel =>
    have hblank := length_skipBlank_le s
    rw [readValue] at h
    split at h
    · split at h
      · cases h
      · obtain ⟨⟨items, rest'⟩, _, h⟩ := Option.map_eq_some_iff.1 h
        cases h
    · split at h
      · cases h
      · obtain ⟨⟨members, rest'⟩, _, h⟩ := Option.map_eq_some_iff.1 h
        cases h
    · exact Nat.lt_of_lt_of_le (width_lt_of_readScalar h) hblank

theorem toJson?_eq_string {raw : RawJson} {text : String} (h : raw.toJson? = some (.string text)) :
    ∃ pieces, raw = string pieces ∧ RawString.toString? pieces = some text := by
  cases raw with
  | string pieces =>
    obtain ⟨t, ht, heq⟩ := Option.map_eq_some_iff.1 h
    cases heq
    exact ⟨pieces, rfl, ht⟩
  | null => cases h
  | bool b => cases h
  | number n =>
    obtain ⟨m, _, heq⟩ := Option.map_eq_some_iff.1 h
    cases heq
  | array items =>
    obtain ⟨js, _, heq⟩ := Option.map_eq_some_iff.1 h
    cases heq
  | object members =>
    obtain ⟨ms, _, heq⟩ := Option.map_eq_some_iff.1 h
    cases heq

end RawJson

namespace Json

/-- A string is shorter than the JSON text that writes it. -/
theorem length_lt_of_ofText? {text word : String} (h : ofText? text = some (.string word)) :
    (utf8 word).length < (utf8 text).length := by
  obtain ⟨⟨value, rest⟩, hwithin, h⟩ := Option.bind_eq_some_iff.1 h
  obtain ⟨⟨raw, rest'⟩, hread, hwithin⟩ := Option.bind_eq_some_iff.1 hwithin
  dsimp only at h hwithin
  have hvalue : value = .string word := by
    split at h
    · cases h
      rfl
    · cases h
  split at hwithin
  · obtain ⟨value', hjson, hwithin⟩ := Option.bind_eq_some_iff.1 hwithin
    cases hwithin
    rw [hvalue] at hjson
    obtain ⟨pieces, rfl, hpieces⟩ := RawJson.toJson?_eq_string hjson
    have hlt := RawJson.width_lt_of_readValue hread
    have hle := RawString.length_le_of_bytes? (RawString.utf8_of_toString? hpieces)
    omega
  · cases hwithin

theorem ne_of_ofText? {text word : String} (h : ofText? text = some (.string word)) :
    word ≠ text := by
  rintro rfl
  exact Nat.lt_irrefl _ (length_lt_of_ofText? h)

end Json

end NodeRpc
