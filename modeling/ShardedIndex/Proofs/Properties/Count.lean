import Mathlib
import ShardedIndex.Proofs.Properties.Views
import ShardedIndex.Proofs.Text.Numeral

/-!
# Counts

A property is a count when its text is a numeral below 2^64 with any white space around it. Every
other text is a fault, and a key without a text has no count.
-/

namespace ShardedIndex.Properties

open Text

variable {p : Properties} {k raw : String} {n : Nat}

lemma isCount_iff :
    IsCount raw n ↔ ∃ numeral, IsPadded raw.toList numeral ∧ Denotes numeral n ∧ n < wordLimit := by
  constructor
  · rintro ⟨hn, hlt⟩
    exact ⟨_, isPadded_trim _, hn, hlt⟩
  · rintro ⟨numeral, hpadded, hn, hlt⟩
    rw [IsCount, trim_of_isPadded hpadded, trim_of_forall_not_isBlank hn.not_isBlank]
    exact ⟨hn, hlt⟩

/-- The count of a key is the number below 2^64 that its text denotes in decimal digits, behind a
plus sign or not, with any white space around it. Any other text is an invalid value. A number
below 2^64 that is set in its decimal text, with any white space around it, reads back. -/
theorem counts_exact (p : Properties) (k : String) :
    (∀ n, p.getCount k = .ok (some n) ↔ ∃ raw numeral, p.get? k = some raw ∧
      IsPadded raw.toList numeral ∧ Denotes numeral n ∧ n < wordLimit) ∧
      (p.getCount k = .ok none ↔ p.get? k = none) ∧
      (∀ fault, p.getCount k = .error fault ↔ ∃ raw, p.get? k = some raw ∧
        (¬∃ n numeral, IsPadded raw.toList numeral ∧ Denotes numeral n ∧ n < wordLimit) ∧
        fault = .malformedCount k raw) ∧
      (∀ raw, (Fault.malformedCount k raw).report.code = .invalidPropertyValue) ∧
      ∀ n < wordLimit, ∀ raw, IsPadded raw.toList (decimal n).toList →
        (p.set k raw).getCount k = .ok (some n) := by
  refine ⟨fun n => ?_, getCount_eq_ok_none_iff, fun fault => ?_, fun _ => rfl, ?_⟩
  · simp only [getCount_eq_ok_some_iff, isCount_iff, exists_and_left]
  · simp only [getCount_eq_error_iff, isCount_iff, ← not_exists]
  · intro n hlt raw hpadded
    have hcount : IsCount raw n := isCount_iff.2 ⟨_, hpadded, denotes_decimal n, hlt⟩
    exact getCount_eq_ok_some_iff.2 ⟨raw, by simp, hcount⟩

/-- The greatest count, between an ideographic space and a line break. -/
theorem counts_exact_greatest :
    let raw := "\u3000" ++ decimal 18446744073709551615 ++ "\n"
    18446744073709551615 < wordLimit ∧
      IsPadded raw.toList (decimal 18446744073709551615).toList ∧
      (empty.set "n" raw).getCount "n" = .ok (some 18446744073709551615) := by
  intro raw
  have hlt : 18446744073709551615 < wordLimit := by decide
  have hpadded : IsPadded raw.toList (decimal 18446744073709551615).toList := by
    refine ⟨['\u3000'], ['\n'], by simp [whiteSpace], by simp [whiteSpace], ?_⟩
    simp [raw]
  obtain ⟨-, -, -, -, hread⟩ := counts_exact empty "n"
  exact ⟨hlt, hpadded, hread _ hlt raw hpadded⟩

end ShardedIndex.Properties
