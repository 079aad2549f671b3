import Mathlib
import ShardedIndex.Proofs.Properties.Shards

/-!
# Stray overrides

An entry that is numbered with a shard beyond those of its index. It keeps the properties from
expanding as long as the number fits into a word; a longer number is no shard at all, and its entry
is for every shard.
-/

namespace ShardedIndex.Properties

open Text

variable {p q : Properties} {index digits tail name value : String} {shard : Nat}

/-! ### Entries that make no difference -/

lemma join_ne_nestedShardCount (hdigits : isDigits digits.toList = true) :
    Key.join digits tail ≠ Key.nestedShardCount := by
  intro heq
  obtain ⟨rfl, -⟩ := Key.join_inj (dot_not_mem_of_isDigits hdigits) (by decide) heq
  exact absurd hdigits (by decide)

lemma HasShards.congr {count : Nat} (h : q.get? (Key.join index Key.nestedShardCount) =
    p.get? (Key.join index Key.nestedShardCount)) :
    q.HasShards index count ↔ p.HasShards index count := by
  have hsame {p q : Properties} (h : q.get? (Key.join index Key.nestedShardCount) =
      p.get? (Key.join index Key.nestedShardCount)) : q.HasShards index count →
      p.HasShards index count
    | .single hnone           => .single (h ▸ hnone)
    | .counted hget hraw hpos => .counted (h ▸ hget) hraw hpos
  exact ⟨hsame h, hsame h.symm⟩

/-- Whether the properties of an index expand does not depend on a shared entry other than the
count. -/
lemma exists_perShard_congr {key : String} (hkey : IsShared key) (hne : key ≠ Key.nestedShardCount)
    (h : ∀ other ≠ key, q.get? (Key.join index other) = p.get? (Key.join index other)) :
    (∃ shards, q.perShard index = .ok shards) ↔ ∃ shards, p.perShard index = .ok shards := by
  rw [exists_perShard_iff, exists_perShard_iff]
  refine exists_congr fun count => and_congr (HasShards.congr (h _ hne.symm)) ?_
  refine forall_congr' fun other => forall₃_congr fun shard name hother => ?_
  rw [h other]
  rintro rfl
  exact hkey shard name hother

lemma exists_error_iff : (∃ fault, p.perShard index = .error fault) ↔
    ¬ ∃ shards, p.perShard index = .ok shards := by
  cases p.perShard index <;> simp

/-! ### Stray entries -/

/-- An entry with a number that is no shard of its index. The properties expand with it when they do
without it and the number does not fit into a word. Then the entry is not taken for an override:
each shard reads it, unless an override of that name hides it. -/
theorem stray_entry_outcome (hdigits : isDigits digits.toList = true) (htail : tail ≠ "")
    (hget : p.get? (Key.join index (Key.join digits tail)) = some value)
    (hstray : ∀ count, p.HasShards index count → count ≤ digitsValue digits.toList) :
    (∀ q : Properties, (∀ key ≠ Key.join digits tail,
        q.get? (Key.join index key) = p.get? (Key.join index key)) →
      ((∃ fault, p.perShard index = .error fault) ↔
        digitsValue digits.toList < wordLimit ∨ ∃ fault, q.perShard index = .error fault)) ∧
      ∀ shards, p.perShard index = .ok shards → wordLimit ≤ digitsValue digits.toList ∧
        ∀ (i : Nat) (hi : i < shards.length),
          (∀ key, IsOverride key i (Key.join digits tail) → p.get? (Key.join index key) = none) →
            shards[i].get? (Key.join digits tail) = some value := by
  have hrefused (hlt : digitsValue digits.toList < wordLimit) :
      ¬ ∃ shards, p.perShard index = .ok shards := by
    rw [exists_perShard_iff]
    rintro ⟨count, hcount, hfits⟩
    have hkey := (isOverride_join_iff hdigits htail).2 ⟨rfl, hlt, rfl⟩
    have hset : (p.get? (Key.join index (Key.join digits tail))).isSome := by
      rw [hget, Option.isSome_some]
    exact (hfits _ _ _ hkey hset).not_ge (hstray count hcount)
  have hshared (hle : wordLimit ≤ digitsValue digits.toList) : IsShared (Key.join digits tail) := by
    intro shard name hkey
    obtain ⟨rfl, hlt, -⟩ := (isOverride_join_iff hdigits htail).1 hkey
    exact hlt.not_ge hle
  refine ⟨fun q hq => ?_, fun shards hok => ?_⟩
  · rcases lt_or_ge (digitsValue digits.toList) wordLimit with hlt | hle
    · exact iff_of_true (exists_error_iff.2 (hrefused hlt)) (.inl hlt)
    · -- The entry is shared and not the count, so `q` expands when `p` does.
      rw [or_iff_right hle.not_gt, exists_error_iff, exists_error_iff]
      exact not_congr
        (exists_perShard_congr (hshared hle) (join_ne_nestedShardCount hdigits) hq).symm
  · have hle : wordLimit ≤ digitsValue digits.toList :=
      not_lt.1 fun hlt => hrefused hlt ⟨shards, hok⟩
    exact ⟨hle, fun i hi hnone =>
      (get?_of_forall_override hok hi (hshared hle) hnone).trans hget⟩

/-- Two shards, and the storage of a shard with some number. -/
def numbered (digits : String) : Properties :=
  (empty.set "quotes.sharding_strategy.nbr_of_shards" "2").set
    (Key.join "quotes" (Key.join digits Key.directoryProvider)) "fs"

lemma get?_numbered (digits : String) : (numbered digits).get?
    (Key.join "quotes" (Key.join digits Key.directoryProvider)) = some "fs" := by
  rw [numbered, get?_set, if_pos rfl]

lemma eq_two_of_hasShards_numbered {count : Nat} (hdigits : isDigits digits.toList = true)
    (hcount : (numbered digits).HasShards "quotes" count) : count = 2 := by
  have hne : Key.join "quotes" (Key.join digits Key.directoryProvider) ≠
      Key.join "quotes" Key.nestedShardCount := fun heq =>
    join_ne_nestedShardCount hdigits (Key.join_right_inj.1 heq)
  have hget : (numbered digits).get? (Key.join "quotes" Key.nestedShardCount) = some "2" := by
    rw [numbered, get?_set, if_neg hne, get?_set, if_pos (by decide)]
  have htwo : IsCount "2" 2 := readBelow_eq_some_iff.1 (by decide)
  exact (hcount.isCount hget).1.unique htwo.1

theorem stray_entry_outcome_five :
    (∀ count, (numbered "5").HasShards "quotes" count → count ≤ 5) ∧
      ∃ fault, (numbered "5").perShard "quotes" = .error fault := by
  have hstray (count : Nat) (hcount : (numbered "5").HasShards "quotes" count) : count ≤ 5 := by
    rw [eq_two_of_hasShards_numbered (by decide) hcount]
    decide
  refine ⟨hstray, ?_⟩
  have houtcome := stray_entry_outcome (by decide) (by decide) (get?_numbered "5") hstray
  exact (houtcome.1 (numbered "5") fun _ _ => rfl).2 (.inl (by decide))

/-- An entry numbered beyond every word is accepted, whatever the number of shards. -/
theorem not_always_refused : ¬ ∀ (p : Properties) (index digits tail value : String),
    isDigits digits.toList = true → tail ≠ "" →
      p.get? (Key.join index (Key.join digits tail)) = some value →
      (∀ count, p.HasShards index count → count ≤ digitsValue digits.toList) →
        ∃ fault, p.perShard index = .error fault := by
  intro hrefused
  have hdigits : isDigits "18446744073709551616".toList = true := by decide
  have hstray (count : Nat) (hcount : (numbered "18446744073709551616").HasShards "quotes" count) :
      count ≤ digitsValue "18446744073709551616".toList := by
    rw [eq_two_of_hasShards_numbered hdigits hcount]
    decide
  obtain ⟨fault, herror⟩ := hrefused _ _ _ _ _ hdigits (by decide)
    (get?_numbered "18446744073709551616") hstray
  have hok : ((numbered "18446744073709551616").perShard "quotes").isOk = true := by decide
  rw [herror] at hok
  cases hok

end ShardedIndex.Properties
