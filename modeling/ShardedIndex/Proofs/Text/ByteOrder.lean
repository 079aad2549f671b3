import Mathlib
import ShardedIndex.Routing.Strategy

/-!
# Byte order

Texts are ordered by their characters. In UTF-8 that is the lexicographic order of their bytes: the
first byte of a character grows with the number of its bytes, and among characters of one length the
bytes are the digits of the code point.
-/

namespace ShardedIndex.Text

open Routing String

variable {s t : String} {c d : Char} {cs ds : List Char}

lemma utf8Bytes_eq (s : String) : utf8Bytes s = s.toList.flatMap utf8EncodeChar := by
  conv_lhs => rw [← String.ofList_toList (s := s)]
  exact List.toList_data_toByteArray

/-- The bytes of the smaller character come first, whatever follows them. -/
lemma utf8EncodeChar_append_lt (h : c < d) (bs bs' : List UInt8) :
    utf8EncodeChar c ++ bs < utf8EncodeChar d ++ bs' := by
  have hlt : c.val.toNat < d.val.toNat := h
  have hmax : d.val.toNat < 1114112 := by
    rcases d.valid with hlow | ⟨-, hhigh⟩ <;> omega
  -- One case for each pair of lengths, in which the bytes are compared as digits.
  simp only [utf8EncodeChar]
  split_ifs <;>
    simp (disch := omega) only [List.cons_append, List.nil_append, List.cons_lt_cons_iff,
      UInt8.lt_iff_toNat_lt, ← UInt8.toNat_inj, UInt8.toNat_ofNat', Nat.mod_eq_of_lt] <;>
    omega

lemma flatMap_utf8EncodeChar_lt (h : cs < ds) :
    cs.flatMap utf8EncodeChar < ds.flatMap utf8EncodeChar := by
  induction h with
  | @nil c ds =>
    obtain ⟨b, bs, hc⟩ := List.exists_cons_of_ne_nil (utf8EncodeChar_ne_nil (c := c))
    rw [List.flatMap_cons, hc]
    exact List.nil_lt_cons _ _
  | rel h => exact utf8EncodeChar_append_lt h _ _
  | cons _ ih => exact List.append_left_lt ih

/-- Comparing texts is comparing their bytes. -/
lemma utf8Bytes_lt_iff : utf8Bytes s < utf8Bytes t ↔ s < t := by
  have hmono {s t : String} (h : s < t) : utf8Bytes s < utf8Bytes t := by
    rw [utf8Bytes_eq, utf8Bytes_eq]
    exact flatMap_utf8EncodeChar_lt (String.lt_iff_toList_lt.1 h)
  refine ⟨fun h => ?_, hmono⟩
  rcases lt_trichotomy s t with hlt | rfl | hgt
  · exact hlt
  · exact absurd h (List.lt_irrefl _)
  · exact absurd h (List.lt_asymm (hmono hgt))

lemma utf8Bytes_le_iff : utf8Bytes s ≤ utf8Bytes t ↔ s ≤ t := by
  rw [← not_lt, ← utf8Bytes_lt_iff, List.not_lt]

end ShardedIndex.Text
