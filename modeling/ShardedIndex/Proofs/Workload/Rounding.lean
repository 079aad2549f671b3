import Mathlib
import ShardedIndex.Proofs.Workload.Spending

/-!
# Rounding of quotas

The shares of a workload are exact percentages rounded down, for every total and without a wrap in
any step. The deletes take what rounding leaves, which is their own percentage rounded down and at
most two works more.
-/

namespace ShardedIndex

variable {total : UInt64} {pctAdd pctUpdate : UInt32}

namespace Quotas

/-- A word of 128 bits has room for the product that a share is taken from. -/
lemma mul_lt (total : UInt64) (percent : UInt32) : total.toNat * percent.toNat < 2 ^ 128 :=
  calc total.toNat * percent.toNat
      ≤ 2 ^ 64 * 2 ^ 32 := Nat.mul_le_mul total.toNat_lt.le percent.toNat_lt.le
    _ < 2 ^ 128 := by norm_num

/-- The percentages of adds, updates and deletes divide the whole. -/
lemma mul_add_mul_add_mul (t : Nat) {a u : Nat} (hle : a + u ≤ 100) :
    t * a + t * u + t * (100 - a - u) = t * 100 := by
  rw [← Nat.mul_add, ← Nat.mul_add]
  congr 1
  omega

variable (hle : pctAdd.toNat + pctUpdate.toNat ≤ 100)
include hle

lemma toNat_add_ofPercentages (total : UInt64) :
    (ofPercentages total pctAdd pctUpdate).add.toNat = total.toNat * pctAdd.toNat / 100 :=
  toNat_share total pctAdd (by omega)

lemma toNat_update_ofPercentages (total : UInt64) :
    (ofPercentages total pctAdd pctUpdate).update.toNat = total.toNat * pctUpdate.toNat / 100 :=
  toNat_share total pctUpdate (by omega)

lemma total_ofPercentages (total : UInt64) :
    (ofPercentages total pctAdd pctUpdate).total = total := by
  have hremaining := remaining_ofPercentages total hle
  apply UInt64.toNat_inj.1
  rw [toNat_total (hremaining ▸ total.toNat_lt), hremaining]

/-- The deletes get their own percentage, rounded down, and the two works at most that the adds and
updates lose by rounding. -/
lemma delete_ofPercentages_bounds (total : UInt64) :
    let rounded := total.toNat * (100 - pctAdd.toNat - pctUpdate.toNat) / 100
    let delete := (ofPercentages total pctAdd pctUpdate).delete.toNat
    rounded ≤ delete ∧ delete ≤ rounded + 2 := by
  intro rounded delete
  have hadd := toNat_add_ofPercentages hle total
  have hupdate := toNat_update_ofPercentages hle total
  have hwhole := mul_add_mul_add_mul total.toNat hle
  have hremaining := remaining_ofPercentages total hle
  simp only [remaining, hadd, hupdate] at hremaining
  omega

end Quotas

/-! ### Acceptance -/

namespace Workload

variable {σ : Type}

lemma exists_create_iff (source : σ) : (∃ l, create total pctAdd pctUpdate source = .ok l) ↔
    1 ≤ pctAdd.toNat ∧ pctAdd.toNat + pctUpdate.toNat ≤ 100 ∧
      1 ≤ total.toNat * pctAdd.toNat / 100 := by
  have hshare : pctAdd ≠ 0 ↔ 1 ≤ pctAdd.toNat := by
    rw [Nat.one_le_iff_ne_zero, ne_eq, ne_eq, ← UInt32.toNat_inj, UInt32.toNat_zero]
  have hadds (hle : pctAdd.toNat + pctUpdate.toNat ≤ 100) :
      (Quotas.ofPercentages total pctAdd pctUpdate).add ≠ 0 ↔
        1 ≤ total.toNat * pctAdd.toNat / 100 := by
    rw [Nat.one_le_iff_ne_zero, ← Quotas.toNat_add_ofPercentages hle total, ne_eq, ne_eq,
      ← UInt64.toNat_inj, UInt64.toNat_zero]
  simp only [create_eq_ok_iff, exists_and_left, exists_eq, and_true]
  rw [and_left_comm, hshare]
  exact and_congr_right fun _ => and_congr_right hadds

/-- For every total and all percentages: a workload is accepted exactly when the percentages are at
most the whole and the adds are not zero, neither as a percentage nor as a number of works. Whenever
the percentages are at most the whole, the quotas of adds and updates are their percentages of the
total, rounded down, the quota of deletes is the rest of it, all as plain numbers, and the quotas
add up to the total. -/
theorem quotas_exact (total : UInt64) (pctAdd pctUpdate : UInt32) (source : σ) :
    ((∃ l, create total pctAdd pctUpdate source = .ok l) ↔
        1 ≤ pctAdd.toNat ∧ pctAdd.toNat + pctUpdate.toNat ≤ 100 ∧
          1 ≤ total.toNat * pctAdd.toNat / 100) ∧
      (pctAdd.toNat + pctUpdate.toNat ≤ 100 →
        let q := Quotas.ofPercentages total pctAdd pctUpdate
        let rounded := total.toNat * (100 - pctAdd.toNat - pctUpdate.toNat) / 100
        total.toNat * pctAdd.toNat < 2 ^ 128 ∧ total.toNat * pctUpdate.toNat < 2 ^ 128 ∧
          q.add.toNat = total.toNat * pctAdd.toNat / 100 ∧
          q.update.toNat = total.toNat * pctUpdate.toNat / 100 ∧
          q.add.toNat + q.update.toNat ≤ total.toNat ∧
          q.delete.toNat = total.toNat - q.add.toNat - q.update.toNat ∧
          q.add.toNat + q.update.toNat + q.delete.toNat = total.toNat ∧ q.total = total ∧
          rounded ≤ q.delete.toNat ∧ q.delete.toNat ≤ rounded + 2) := by
  refine ⟨exists_create_iff source, fun hle => ?_⟩
  intro q rounded
  have hremaining : q.add.toNat + q.update.toNat + q.delete.toNat = total.toNat :=
    Quotas.remaining_ofPercentages total hle
  exact ⟨Quotas.mul_lt total pctAdd, Quotas.mul_lt total pctUpdate,
    Quotas.toNat_add_ofPercentages hle total, Quotas.toNat_update_ofPercentages hle total,
    by omega, by omega, hremaining, Quotas.total_ofPercentages hle total,
    Quotas.delete_ofPercentages_bounds hle total⟩

/-- The greatest total there is; the deletes get the two works that are left over. -/
theorem quotas_exact_greatest :
    let total : UInt64 := 18446744073709551615
    let q := Quotas.ofPercentages total 33 33
    (∃ l, create total 33 33 () = .ok l) ∧ q.total = total ∧
      q.delete.toNat = total.toNat - q.add.toNat - q.update.toNat ∧
      q.delete.toNat = total.toNat * 34 / 100 + 2 := by
  intro total q
  obtain ⟨haccepted, hquotas⟩ := quotas_exact total 33 33 ()
  obtain ⟨-, -, hadd, hupdate, -, hdelete, -, htotal, -⟩ := hquotas (by decide)
  refine ⟨haccepted.2 (by decide), htotal, hdelete, ?_⟩
  rw [hdelete, hadd, hupdate]
  decide

end Workload

end ShardedIndex
