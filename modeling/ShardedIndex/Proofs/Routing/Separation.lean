import Mathlib
import ShardedIndex.Routing.Strategy
import ShardedIndex.Text.Numeral

/-!
# Texts that differ in one byte

A step of the routing hash loses nothing: the odd number that it multiplies by has an inverse modulo
2^64, and exclusive or undoes itself. So two hashes that differ stay different when the same bytes
follow, and two texts that differ in one byte never share a hash.
-/

namespace ShardedIndex.Routing

open Function Text

variable {b c : UInt8} {bs cs front back : List UInt8} {i : Nat}

/-! ### Steps -/

/-- The inverse of `hashPrime` modulo 2^64. -/
def hashPrimeInverse : UInt64 := 14886173955864302971

lemma mul_hashPrime_injective : Injective fun hash => hash * hashPrime := by
  have hinverse : hashPrime * hashPrimeInverse = 1 := by decide
  have hleft : LeftInverse (fun hash => hash * hashPrimeInverse) fun hash => hash * hashPrime := by
    intro hash
    simp only [UInt64.mul_assoc, hinverse, UInt64.mul_one]
  exact hleft.injective

lemma hashStep_left_injective (byte : UInt8) : Injective fun hash => hashStep hash byte := by
  intro hash hash' h
  exact (UInt64.xor_left_inj _).1 (mul_hashPrime_injective h)

lemma hashStep_right_injective (hash : UInt64) : Injective (hashStep hash) := by
  intro byte byte' h
  have hxor : hash ^^^ byte.toUInt64 = hash ^^^ byte'.toUInt64 := mul_hashPrime_injective h
  exact UInt8.toUInt64_inj.1 ((UInt64.xor_right_inj _).1 hxor)

lemma toNat_hashStep (hash : UInt64) (byte : UInt8) :
    (hashStep hash byte).toNat = (hash.toNat ^^^ byte.toNat) * hashPrime.toNat % wordLimit := by
  rw [hashStep, UInt64.toNat_mul, UInt64.toNat_xor, UInt8.toNat_toUInt64]

/-- Hashes that differ stay different when the same bytes follow. -/
lemma foldl_hashStep_injective (bytes : List UInt8) :
    Injective fun hash => bytes.foldl hashStep hash := by
  induction bytes with
  | nil => exact injective_id
  | cons byte bytes ih => exact ih.comp (hashStep_left_injective byte)

/-! ### Texts -/

lemma hashBytes_ne (hne : b ≠ c) :
    hashBytes (front ++ b :: back) ≠ hashBytes (front ++ c :: back) := by
  intro h
  simp only [hashBytes, List.foldl_append, List.foldl_cons] at h
  exact hne (hashStep_right_injective _ (foldl_hashStep_injective back h))

lemma eq_take_append_cons_drop (hb : bs[i]? = some b) :
    bs = bs.take i ++ b :: bs.drop (i + 1) := by
  obtain ⟨hlt, rfl⟩ := List.getElem?_eq_some_iff.1 hb
  rw [← List.drop_eq_getElem_cons hlt, List.take_append_drop]

/-- Bytes that differ at one place only are the same before and behind it. -/
lemma exists_front_back (hlen : bs.length = cs.length) (hone : ∃! i : Nat, bs[i]? ≠ cs[i]?) :
    ∃ front back b c, b ≠ c ∧ bs = front ++ b :: back ∧ cs = front ++ c :: back := by
  obtain ⟨i, hi, hunique⟩ := hone
  have hlt : i < bs.length := by
    by_contra hge
    rw [List.getElem?_eq_none (by omega), List.getElem?_eq_none (by omega)] at hi
    exact hi rfl
  obtain ⟨b, hb⟩ : ∃ b, bs[i]? = some b := ⟨_, List.getElem?_eq_getElem hlt⟩
  obtain ⟨c, hc⟩ : ∃ c, cs[i]? = some c := ⟨_, List.getElem?_eq_getElem (hlen ▸ hlt)⟩
  have hsame {j : Nat} (hj : j ≠ i) : bs[j]? = cs[j]? := not_not.1 fun h => hj (hunique j h)
  have htake : bs.take i = cs.take i := by
    refine List.ext_getElem? fun j => ?_
    rw [List.getElem?_take, List.getElem?_take]
    split_ifs with hj
    · exact hsame hj.ne
    · rfl
  have hdrop : bs.drop (i + 1) = cs.drop (i + 1) := by
    refine List.ext_getElem? fun j => ?_
    rw [List.getElem?_drop, List.getElem?_drop]
    exact hsame (by omega)
  refine ⟨bs.take i, bs.drop (i + 1), b, c, ?_, eq_take_append_cons_drop hb, ?_⟩
  · rintro rfl
    exact hi (hb.trans hc.symm)
  · rw [htake, hdrop]
    exact eq_take_append_cons_drop hc

/-- The product of a step wraps around at 2^64. A step still tells hashes apart for every byte, and
bytes for every hash, so texts of as many bytes that differ in exactly one of them have different
hashes. -/
theorem hash_separates :
    (∀ hash byte, (hashStep hash byte).toNat =
      (hash.toNat ^^^ byte.toNat) * hashPrime.toNat % wordLimit) ∧
      (∀ byte, Injective fun hash => hashStep hash byte) ∧
      (∀ hash, Injective (hashStep hash)) ∧
      ∀ s t : String, (utf8Bytes s).length = (utf8Bytes t).length →
        (∃! i : Nat, (utf8Bytes s)[i]? ≠ (utf8Bytes t)[i]?) → hashOf s ≠ hashOf t := by
  refine ⟨toNat_hashStep, hashStep_left_injective, hashStep_right_injective, ?_⟩
  intro s t hlen hone
  obtain ⟨front, back, b, c, hne, hs, ht⟩ := exists_front_back hlen hone
  rw [hashOf, hashOf, hs, ht]
  exact hashBytes_ne hne

/-- Two letters whose second bytes differ, between others. -/
theorem hash_separates_accents :
    (utf8Bytes "né7").length = (utf8Bytes "nè7").length ∧
      (∃! i : Nat, (utf8Bytes "né7")[i]? ≠ (utf8Bytes "nè7")[i]?) ∧
      hashOf "né7" ≠ hashOf "nè7" := by
  have hacute : utf8Bytes "né7" = [0x6E, 0xC3, 0xA9, 0x37] := by decide
  have hgrave : utf8Bytes "nè7" = [0x6E, 0xC3, 0xA8, 0x37] := by decide
  have hlen : (utf8Bytes "né7").length = (utf8Bytes "nè7").length := by rw [hacute, hgrave]; rfl
  have hone : ∃! i : Nat, (utf8Bytes "né7")[i]? ≠ (utf8Bytes "nè7")[i]? := by
    rw [hacute, hgrave]
    refine ⟨2, by decide, fun i hi => ?_⟩
    rcases i with _ | _ | _ | _ | i <;> simp at hi ⊢
  exact ⟨hlen, hone, hash_separates.2.2.2 _ _ hlen hone⟩

end ShardedIndex.Routing
