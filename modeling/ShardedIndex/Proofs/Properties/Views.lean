import Mathlib
import ShardedIndex.Proofs.Text.Numeral
import ShardedIndex.Properties.Shards

/-!
# Views of properties

What a key has in the properties that are made out of others: in the shared properties of an index,
in those of one of its shards, and in those that a strategy is configured with.
-/

namespace ShardedIndex

lemma Key.join_right_inj {parent k k' : String} : join parent k = join parent k' ↔ k = k' := by
  refine ⟨fun h => ?_, fun h => h ▸ rfl⟩
  rw [← Option.some_inj, ← below?_join parent k, h, below?_join]

namespace Properties

open Text

variable {p : Properties} {entries : List (String × String)} {index selector k rest value : String}
  {shard n : Nat}

/-! ### Entries set one after the other -/

lemma get?_setAll_of_not_mem (hnone : ∀ v, (k, v) ∉ entries) :
    (p.setAll entries).get? k = p.get? k := by
  induction entries generalizing p with
  | nil => rfl
  | cons entry rest ih =>
    simp only [List.mem_cons, not_or] at hnone
    have hne : entry.1 ≠ k := fun heq => (hnone entry.2).1 (by rw [← heq])
    rw [setAll_cons, ih fun v => (hnone v).2, get?_set, if_neg hne]

/-- A key that is set to one text only has that text. -/
lemma get?_setAll_of_mem (hone : ∀ v, (k, v) ∈ entries → v = value) (hmem : (k, value) ∈ entries) :
    (p.setAll entries).get? k = some value := by
  induction entries generalizing p with
  | nil => cases hmem
  | cons entry rest ih =>
    rw [setAll_cons]
    by_cases hrest : (k, value) ∈ rest
    · exact ih (fun v hv => hone v (List.mem_cons_of_mem _ hv)) hrest
    · obtain rfl : (k, value) = entry := (List.mem_cons.1 hmem).resolve_right hrest
      have hnone : ∀ v, (k, v) ∉ rest := by
        intro v hv
        obtain rfl := hone v (List.mem_cons_of_mem _ hv)
        exact hrest hv
      rw [get?_setAll_of_not_mem hnone, get?_set, if_pos rfl]

/-- A key for which there is one text at most gets that text, or keeps its own. -/
lemma get?_setAll (text : Option String) (hentries : ∀ v, (k, v) ∈ entries ↔ text = some v) :
    (p.setAll entries).get? k = text.or (p.get? k) := by
  cases text with
  | none => exact get?_setAll_of_not_mem (by simpa using hentries)
  | some value =>
    refine get?_setAll_of_mem (fun v hv => ?_) ((hentries value).2 rfl)
    exact (Option.some.inj ((hentries v).1 hv)).symm

/-! ### Shards -/

lemma mem_entriesBelow :
    (k, value) ∈ p.entriesBelow index ↔ p.get? (Key.join index k) = some value := by
  simp only [entriesBelow, List.mem_filterMap, Option.map_eq_some_iff, Prod.mk.injEq]
  constructor
  · rintro ⟨⟨key, v⟩, hentry, k', hbelow, rfl, rfl⟩
    rw [← Key.below?_eq_some_iff.1 hbelow]
    exact mem_toList.1 hentry
  · intro hget
    exact ⟨(Key.join index k, value), mem_toList.2 hget, k, Key.below?_join index k, rfl, rfl⟩

/-- What all shards share is what the index has under keys without a shard. -/
lemma get?_shared (p : Properties) (index k : String) : (p.shared index).get? k =
    if scope k = .shared then p.get? (Key.join index k) else none := by
  rw [shared, ofList, get?_setAll (if scope k = .shared then p.get? (Key.join index k) else none)]
  · simp
  · intro v
    rw [List.mem_filter, mem_entriesBelow]
    by_cases hscope : scope k = .shared <;> simp [hscope]

lemma mem_overrides : (shard, k, value) ∈ p.overrides index ↔
    ∃ key, scope key = .override shard k ∧ p.get? (Key.join index key) = some value := by
  simp only [overrides, List.mem_filterMap]
  constructor
  · rintro ⟨⟨key, v⟩, hentry, hoverride⟩
    cases hscope : scope key with
    | shared => simp [hscope] at hoverride
    | override i k' =>
      simp only [hscope, Option.some.injEq, Prod.mk.injEq] at hoverride
      obtain ⟨rfl, rfl, rfl⟩ := hoverride
      exact ⟨key, hscope, mem_entriesBelow.1 hentry⟩
  · rintro ⟨key, hscope, hget⟩
    exact ⟨(key, value), mem_entriesBelow.2 hget, by simp [hscope]⟩

/-! ### Lifted entries -/

lemma lifted?_eq_some_iff : lifted? selector k = some rest ↔
    rest ≠ "" ∧ k = Key.join selector rest := by
  rw [lifted?, Option.filter_eq_some_iff, Key.below?_eq_some_iff, and_comm]
  simp

/-- A key has the text of the entry below the selector, if there is one, and otherwise its own,
unless it is the selector or stands below it. -/
lemma get?_lift (p : Properties) (selector k : String) : (p.lift selector).get? k =
    (if k ≠ "" then p.get? (Key.join selector k) else none).or
      (if k ≠ selector ∧ lifted? selector k = none then p.get? k else none) := by
  rw [lift, get?_setAll (if k ≠ "" then p.get? (Key.join selector k) else none)]
  · congr 1
    rw [get?, get?, Std.ExtTreeMap.getElem?_filter']
    by_cases hkept : k ≠ selector ∧ lifted? selector k = none
    · rw [if_pos hkept]
      cases p.entries[k]? <;> simp [hkept]
    · rw [if_neg hkept]
      cases p.entries[k]? with
      | none => rfl
      | some v => simpa using hkept
  · intro v
    simp only [List.mem_filterMap, Option.map_eq_some_iff, Prod.mk.injEq]
    constructor
    · rintro ⟨⟨key, u⟩, hentry, rest, hlifted, rfl, rfl⟩
      obtain ⟨hne, rfl⟩ := lifted?_eq_some_iff.1 hlifted
      rw [if_pos hne]
      exact mem_toList.1 hentry
    · intro hget
      split_ifs at hget with hne
      exact ⟨(_, v), mem_toList.2 hget, k, lifted?_eq_some_iff.2 ⟨hne, rfl⟩, rfl, rfl⟩

/-! ### Counts -/

/-- The text of a count, whatever blanks are around it. -/
def IsCount (raw : String) (n : Nat) : Prop := Denotes (trim raw.toList) n ∧ n < wordLimit

lemma getCount_eq_ok_none_iff : p.getCount k = .ok none ↔ p.get? k = none := by
  unfold getCount
  cases p.get? k with
  | none => simp
  | some raw => cases hread : readBelow wordLimit (trim raw.toList) <;> simp [hread]

lemma getCount_eq_ok_some_iff :
    p.getCount k = .ok (some n) ↔ ∃ raw, p.get? k = some raw ∧ IsCount raw n := by
  simp only [IsCount, ← readBelow_eq_some_iff]
  unfold getCount
  cases p.get? k with
  | none => simp
  | some raw => cases hread : readBelow wordLimit (trim raw.toList) <;> simp [hread]

lemma getCount_eq_error_iff {fault : Fault} : p.getCount k = .error fault ↔
    ∃ raw, p.get? k = some raw ∧ (∀ n, ¬ IsCount raw n) ∧ fault = .malformedCount k raw := by
  simp only [IsCount, ← readBelow_eq_some_iff]
  unfold getCount
  cases p.get? k with
  | none => simp
  | some raw => cases hread : readBelow wordLimit (trim raw.toList) <;> simp [hread, eq_comm]

/-- A number that was written as a count reads back. -/
lemma getCount_eq_ok_some (hget : p.get? k = some (decimal n)) (hlt : n < wordLimit) :
    p.getCount k = .ok (some n) := by
  simp only [getCount, hget, trim_decimal, readBelow_decimal hlt]

end Properties

end ShardedIndex
