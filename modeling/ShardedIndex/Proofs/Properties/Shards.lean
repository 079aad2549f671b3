import Mathlib
import ShardedIndex.Proofs.Properties.Views
import ShardedIndex.Proofs.Text.ByteOrder

/-!
# Properties of shards, key by key

When the properties of an index expand, and what each shard then reads under each key: the text of
the last override for it, or what all shards share.
-/

namespace ShardedIndex

lemma Key.splitFirst?_eq_some_iff {key head tail : String} :
    splitFirst? key = some (head, tail) ↔ '.' ∉ head.toList ∧ key = join head tail := by
  have hjoin : key = join head tail ↔ key.toList = head.toList ++ '.' :: tail.toList := by
    rw [← String.toList_inj]
    simp [join]
  rw [hjoin]
  constructor
  · intro h
    simp only [splitFirst?] at h
    split at h
    · cases h
    · next c rest hdrop =>
      obtain ⟨rfl, rfl⟩ := Prod.mk.inj (Option.some.inj h)
      obtain rfl : c = '.' := by
        have hstop := List.head?_dropWhile_not (· ≠ '.') key.toList
        rw [hdrop] at hstop
        simpa using hstop
      rw [String.toList_ofList, String.toList_ofList, ← hdrop, List.takeWhile_append_dropWhile]
      exact ⟨fun hmem => by simpa using List.mem_takeWhile_imp hmem, rfl⟩
  · rintro ⟨hdot, hkey⟩
    have hhead : ∀ c ∈ head.toList, decide (c ≠ '.') = true := by
      intro c hc
      exact decide_eq_true fun heq => hdot (heq ▸ hc)
    simp only [splitFirst?, hkey, List.takeWhile_append_of_pos hhead,
      List.dropWhile_append_of_pos hhead]
    simp

/-- A key with a dot has one name in front of its first dot. -/
lemma Key.join_inj {head head' tail tail' : String} (hhead : '.' ∉ head.toList)
    (hhead' : '.' ∉ head'.toList) (heq : join head tail = join head' tail') :
    head = head' ∧ tail = tail' := by
  have hsplit := splitFirst?_eq_some_iff.2 ⟨hhead', heq⟩
  rw [splitFirst?_eq_some_iff.2 ⟨hhead, rfl⟩] at hsplit
  exact Prod.mk.inj (Option.some.inj hsplit)

namespace Properties

open Routing Text

variable {p q : Properties} {entries : List (String × String)}
  {index key k name value digits tail : String} {shard n count : Nat}

/-! ### Overrides and shared keys -/

/-- Below an index, `key` sets `name` for one shard alone: it is the number of the shard, a dot and
the name. The number fits into a word and the name is not empty. -/
def IsOverride (key : String) (shard : Nat) (name : String) : Prop :=
  ∃ head, '.' ∉ head.toList ∧ Denotes head.toList shard ∧ shard < wordLimit ∧ name ≠ "" ∧
    key = Key.join head name

/-- Below an index, `key` is for every shard. -/
def IsShared (key : String) : Prop := ∀ shard name, ¬ IsOverride key shard name

lemma scope_eq_override_iff : scope key = .override shard name ↔ IsOverride key shard name := by
  have hscope : scope key = .override shard name ↔ ∃ head, Key.splitFirst? key = some (head, name) ∧
      readBelow wordLimit head.toList = some shard ∧ name ≠ "" := by
    unfold scope
    rcases Key.splitFirst? key with _ | ⟨head, tail⟩
    · simp
    · by_cases hempty : tail = ""
      · grind
      · cases readBelow wordLimit head.toList <;> grind
  simp only [hscope, Key.splitFirst?_eq_some_iff, readBelow_eq_some_iff, IsOverride]
  exact exists_congr fun head => by tauto

lemma scope_eq_shared_iff : scope key = .shared ↔ IsShared key := by
  simp only [IsShared, ← scope_eq_override_iff]
  cases scope key <;> simp

lemma isShared_nestedShardCount : IsShared Key.nestedShardCount := scope_eq_shared_iff.1 (by decide)

lemma dot_not_mem_of_isDigits (hdigits : isDigits digits.toList = true) : '.' ∉ digits.toList :=
  fun hdot => absurd ((isDigits_iff.1 hdigits).2 _ hdot) (by decide)

/-- A number in front of some text makes an override when it fits into a word. -/
lemma isOverride_join_iff (hdigits : isDigits digits.toList = true) (htail : tail ≠ "") :
    IsOverride (Key.join digits tail) shard name ↔
      shard = digitsValue digits.toList ∧ shard < wordLimit ∧ name = tail := by
  have hdot := dot_not_mem_of_isDigits hdigits
  have hnumber := denotes_digitsValue hdigits
  constructor
  · rintro ⟨head, hdot', hshard, hlt, -, hkey⟩
    obtain ⟨rfl, rfl⟩ := Key.join_inj hdot hdot' hkey
    exact ⟨hshard.unique hnumber, hlt, rfl⟩
  · rintro ⟨rfl, hlt, rfl⟩
    exact ⟨digits, hdot, hnumber, hlt, htail, rfl⟩

/-! ### The order of the entries -/

lemma sorted_entriesBelow (p : Properties) (index : String) : (p.entriesBelow index).Pairwise
    fun e e' => Key.join index e.1 < Key.join index e'.1 := by
  refine List.Pairwise.filterMap _ ?_ Std.ExtTreeMap.ordered_keys_toList
  rintro ⟨key, v⟩ ⟨key', v'⟩ hlt e he e' he'
  obtain ⟨rest, hrest, rfl⟩ := Option.map_eq_some_iff.1 he
  obtain ⟨rest', hrest', rfl⟩ := Option.map_eq_some_iff.1 he'
  rw [← Key.below?_eq_some_iff.1 hrest, ← Key.below?_eq_some_iff.1 hrest']
  exact compare_lt_iff_lt.1 hlt

/-- The entries of an index are those of its keys, whatever other keys there are. -/
lemma entriesBelow_congr (h : ∀ key, q.get? (Key.join index key) = p.get? (Key.join index key)) :
    q.entriesBelow index = p.entriesBelow index := by
  have hnodup (p : Properties) : (p.entriesBelow index).Nodup :=
    (p.sorted_entriesBelow index).imp fun hlt heq => hlt.ne (by rw [heq])
  refine List.Perm.eq_of_pairwise (fun e e' _ _ hlt hgt => absurd hlt hgt.not_gt)
    (q.sorted_entriesBelow index) (p.sorted_entriesBelow index) ?_
  rw [List.perm_ext_iff_of_nodup (hnodup q) (hnodup p)]
  rintro ⟨key, v⟩
  rw [mem_entriesBelow, mem_entriesBelow, h]

/-! ### What a shard reads -/

lemma get?_setAll_renamed_concat {rename : String → Option String} (v : String) :
    (p.setAll ((entries ++ [(key, v)]).filterMap fun (key, v) =>
      (rename key).map (·, v))).get? name =
      if rename key = some name then some v
      else (p.setAll (entries.filterMap fun (key, v) => (rename key).map (·, v))).get? name := by
  rw [List.filterMap_append, setAll_append]
  cases hkey : rename key <;> simp [hkey, get?_set]

/-- Entries set under other names in the order of their full keys: a name gets the text of the last
key that stands for it. -/
lemma get?_setAll_renamed {full : String → String} {rename : String → Option String}
    (hsorted : entries.Pairwise fun e e' => full e.1 < full e'.1) :
    (p.setAll (entries.filterMap fun (key, v) => (rename key).map (·, v))).get? name = some value ↔
      (∃ key, rename key = some name ∧ (key, value) ∈ entries ∧
        ∀ entry ∈ entries, rename entry.1 = some name → full entry.1 ≤ full key) ∨
      (∀ entry ∈ entries, rename entry.1 ≠ some name) ∧ p.get? name = some value := by
  -- By induction from the end, since the last entry under a name decides.
  induction entries using List.reverseRecOn with
  | nil => simp
  | append_singleton front last ih =>
    obtain ⟨key, v⟩ := last
    obtain ⟨hfront, -, hlast⟩ := List.pairwise_append.1 hsorted
    have hmem : (key, v) ∈ front ++ [(key, v)] := List.mem_concat_self
    have hlt : ∀ entry ∈ front, full entry.1 < full key := fun entry he =>
      hlast entry he (key, v) (List.mem_singleton_self _)
    rw [get?_setAll_renamed_concat]
    split_ifs with hkey
    · rw [Option.some_inj]
      constructor
      · rintro rfl
        refine .inl ⟨key, hkey, hmem, fun entry he _ => ?_⟩
        rcases List.mem_append.1 he with hf | hl
        · exact (hlt entry hf).le
        · rw [List.mem_singleton.1 hl]
      · rintro (⟨key', -, hmem', hgreatest⟩ | ⟨hnone, -⟩)
        · rcases List.mem_append.1 hmem' with hf | hl
          · exact absurd (hgreatest _ hmem hkey) (hlt _ hf).not_ge
          · exact (congrArg Prod.snd (List.mem_singleton.1 hl)).symm
        · exact absurd hkey (hnone _ hmem)
    · -- The last entry has another name, so both sides are about the front.
      have hsame {entry : String × String} (h : rename entry.1 = some name) :
          entry ∈ front ↔ entry ∈ front ++ [(key, v)] := by
        rw [List.mem_append, List.mem_singleton, or_iff_left]
        rintro rfl
        exact hkey h
      have hall (P : String × String → Prop) :
          (∀ entry ∈ front, rename entry.1 = some name → P entry) ↔
            ∀ entry ∈ front ++ [(key, v)], rename entry.1 = some name → P entry :=
        ⟨fun h entry he hr => h entry ((hsame hr).2 he) hr,
          fun h entry he hr => h entry ((hsame hr).1 he) hr⟩
      rw [ih hfront]
      exact or_congr
        (exists_congr fun key' => and_congr_right fun h => and_congr (hsame h) (hall _))
        (and_congr_left fun _ => hall fun _ => False)

/-- The name that a key sets for a shard alone. -/
def ownName? (shard : Nat) (key : String) : Option String :=
  match scope key with
  | .shared          => none
  | .override i name => if i = shard then some name else none

lemma ownName?_eq_some_iff : ownName? shard key = some name ↔ IsOverride key shard name := by
  rw [ownName?, ← scope_eq_override_iff]
  cases scope key <;> grind

lemma overridden_eq (p q : Properties) (index : String) (shard : Nat) :
    overridden q (p.overrides index) shard = q.setAll
      ((p.entriesBelow index).filterMap fun (key, v) => (ownName? shard key).map (·, v)) := by
  rw [overridden, overrides, List.filterMap_filterMap]
  congr 2
  funext entry
  obtain ⟨key, v⟩ := entry
  cases hscope : scope key <;> simp [ownName?, hscope, apply_ite]

/-- What a shard of an index reads under a name. -/
inductive Reads (p : Properties) (index : String) (shard : Nat) (name value : String) : Prop
  /-- The override for the shard whose full key comes last in the order of bytes. -/
  | override {key : String} (hkey : IsOverride key shard name)
      (hget : p.get? (Key.join index key) = some value)
      (hlast : ∀ other, IsOverride other shard name → (p.get? (Key.join index other)).isSome →
        utf8Bytes (Key.join index other) ≤ utf8Bytes (Key.join index key))
  /-- What all shards share, without an override for this one. -/
  | shared (hnone : ∀ key, IsOverride key shard name → p.get? (Key.join index key) = none)
      (hname : IsShared name) (hget : p.get? (Key.join index name) = some value)

lemma get?_overridden_iff : (overridden (p.shared index) (p.overrides index) shard).get? name =
    some value ↔ p.Reads index shard name value := by
  rw [overridden_eq, get?_setAll_renamed (p.sorted_entriesBelow index)]
  simp only [ne_eq, ownName?_eq_some_iff, Prod.forall, mem_entriesBelow]
  constructor
  · rintro (⟨key, hkey, hget, hlast⟩ | ⟨hnone, hshared⟩)
    · refine .override hkey hget fun other hother hset => utf8Bytes_le_iff.2 ?_
      obtain ⟨v, hv⟩ := Option.isSome_iff_exists.1 hset
      exact hlast other v hv hother
    · rw [get?_shared] at hshared
      split_ifs at hshared with hscope
      refine .shared (fun key hkey => ?_) (scope_eq_shared_iff.1 hscope) hshared
      rw [Option.eq_none_iff_forall_ne_some]
      exact fun v hv => hnone key v hv hkey
  · rintro (⟨hkey, hget, hlast⟩ | ⟨hnone, hname, hget⟩)
    · refine .inl ⟨_, hkey, hget, fun other v hv hother => utf8Bytes_le_iff.1 ?_⟩
      exact hlast other hother (by rw [hv, Option.isSome_some])
    · refine .inr ⟨fun key v hv hkey => ?_, ?_⟩
      · rw [hnone key hkey] at hv
        cases hv
      · rw [get?_shared, if_pos (scope_eq_shared_iff.2 hname), hget]

/-! ### The number of shards -/

/-- The number of shards that an index is configured with: the count among its shared keys, or one
without a count. -/
inductive HasShards (p : Properties) (index : String) : Nat → Prop
  | single (hnone : p.get? (Key.join index Key.nestedShardCount) = none) : HasShards p index 1
  | counted {raw : String} {count : Nat}
      (hget : p.get? (Key.join index Key.nestedShardCount) = some raw)
      (hraw : IsCount raw count) (hpos : 0 < count) : HasShards p index count

lemma get?_shared_nestedShardCount : (p.shared index).get? Key.nestedShardCount =
    p.get? (Key.join index Key.nestedShardCount) := by
  rw [get?_shared, if_pos (scope_eq_shared_iff.2 isShared_nestedShardCount)]

lemma shardCount_eq_ok_iff : p.shardCount index = .ok count ↔ p.HasShards index count := by
  have hcount : p.HasShards index count ↔
      (p.shared index).getCount Key.nestedShardCount = .ok none ∧ count = 1 ∨
        (p.shared index).getCount Key.nestedShardCount = .ok (some count) ∧ 0 < count := by
    rw [getCount_eq_ok_none_iff, getCount_eq_ok_some_iff, get?_shared_nestedShardCount]
    constructor
    · rintro (hnone | ⟨hget, hraw, hpos⟩)
      · exact .inl ⟨hnone, rfl⟩
      · exact .inr ⟨⟨_, hget, hraw⟩, hpos⟩
    · rintro (⟨hnone, rfl⟩ | ⟨⟨raw, hget, hraw⟩, hpos⟩)
      · exact .single hnone
      · exact .counted hget hraw hpos
  rw [hcount, shardCount]
  rcases (p.shared index).getCount Key.nestedShardCount with fault | _ | _ | n
  · simp
  · simp [eq_comm]
  · simp only [reduceCtorEq, false_and, Except.ok.injEq, Option.some.injEq, false_or, false_iff]
    rintro ⟨rfl, hpos⟩
    exact lt_irrefl 0 hpos
  · simp only [reduceCtorEq, false_and, Except.ok.injEq, Option.some.injEq, false_or]
    omega

/-- Every override of an index is for a shard below a number. -/
def Fits (p : Properties) (index : String) (count : Nat) : Prop :=
  ∀ key shard name, IsOverride key shard name → (p.get? (Key.join index key)).isSome → shard < count

lemma fits_iff : p.Fits index count ↔ ∀ o ∈ p.overrides index, o.1 < count := by
  simp only [Prod.forall, mem_overrides, scope_eq_override_iff]
  constructor
  · rintro hfits shard name value ⟨key, hkey, hget⟩
    exact hfits key shard name hkey (by rw [hget, Option.isSome_some])
  · intro hall key shard name hkey hset
    obtain ⟨value, hget⟩ := Option.isSome_iff_exists.1 hset
    exact hall shard name value ⟨key, hkey, hget⟩

lemma foldl_max_lt_iff {xs : List Nat} {a : Nat} :
    xs.foldl max a < n ↔ a < n ∧ ∀ x ∈ xs, x < n := by
  induction xs generalizing a with
  | nil => simp
  | cons x xs ih => simp [ih, and_assoc]

/-- The highest shard with an override. -/
def highest (p : Properties) (index : String) : Nat := ((p.overrides index).map (·.1)).foldl max 0

lemma highest_lt_iff (hpos : 0 < count) : p.highest index < count ↔ p.Fits index count := by
  rw [highest, foldl_max_lt_iff, fits_iff, List.forall_mem_map]
  exact and_iff_right hpos

lemma HasShards.pos (hcount : p.HasShards index count) : 0 < count := by
  cases hcount with
  | single => exact Nat.one_pos
  | counted _ _ hpos => exact hpos

lemma HasShards.isCount {raw : String} (hcount : p.HasShards index count)
    (hget : p.get? (Key.join index Key.nestedShardCount) = some raw) : IsCount raw count := by
  cases hcount with
  | single hnone => rw [hnone] at hget; cases hget
  | counted hget' hraw _ => exact Option.some.inj (hget'.symm.trans hget) ▸ hraw

/-! ### Expansion -/

lemma perShard_of_hasShards (hcount : p.HasShards index count) :
    p.perShard index =
      if count ≤ p.highest index then .error (.strayOverride index (p.highest index) count)
      else .ok ((List.range count).map (overridden (p.shared index) (p.overrides index))) := by
  rw [perShard, shardCount_eq_ok_iff.2 hcount]
  rfl

lemma perShard_eq_ok_iff {shards : List Properties} : p.perShard index = .ok shards ↔
    ∃ count, p.HasShards index count ∧ p.Fits index count ∧
      shards = (List.range count).map (overridden (p.shared index) (p.overrides index)) := by
  constructor
  · intro hok
    cases hcount : p.shardCount index with
    | error fault => simp [perShard, hcount] at hok
    | ok count =>
      have hhas := shardCount_eq_ok_iff.1 hcount
      rw [perShard_of_hasShards hhas] at hok
      split_ifs at hok with hstray
      exact ⟨count, hhas, (highest_lt_iff hhas.pos).1 (not_le.1 hstray), (Except.ok.inj hok).symm⟩
  · rintro ⟨count, hhas, hfits, rfl⟩
    rw [perShard_of_hasShards hhas, if_neg (not_le.2 ((highest_lt_iff hhas.pos).2 hfits))]

lemma exists_perShard_iff : (∃ shards, p.perShard index = .ok shards) ↔
    ∃ count, p.HasShards index count ∧ p.Fits index count := by
  simp only [perShard_eq_ok_iff]
  exact ⟨fun ⟨_, count, hhas, hfits, _⟩ => ⟨count, hhas, hfits⟩,
    fun ⟨count, hhas, hfits⟩ => ⟨_, count, hhas, hfits, rfl⟩⟩

lemma hasShards_length {shards : List Properties} (hok : p.perShard index = .ok shards) :
    p.HasShards index shards.length := by
  obtain ⟨count, hcount, -, rfl⟩ := perShard_eq_ok_iff.1 hok
  simpa using hcount

lemma reads_of_perShard {shards : List Properties} (hok : p.perShard index = .ok shards) {i : Nat}
    (hi : i < shards.length) : shards[i].get? name = some value ↔ p.Reads index i name value := by
  obtain ⟨count, -, -, rfl⟩ := perShard_eq_ok_iff.1 hok
  rw [List.getElem_map, List.getElem_range]
  exact get?_overridden_iff

/-- A shard without an override of a name reads what is shared. -/
lemma get?_of_forall_override {shards : List Properties} (hok : p.perShard index = .ok shards)
    {i : Nat} (hi : i < shards.length) (hname : IsShared name)
    (hnone : ∀ key, IsOverride key i name → p.get? (Key.join index key) = none) :
    shards[i].get? name = p.get? (Key.join index name) := by
  refine Option.ext fun value => (reads_of_perShard hok hi).trans ⟨?_, .shared hnone hname⟩
  rintro (⟨hkey, hget, -⟩ | ⟨-, -, hget⟩)
  · rw [hnone _ hkey] at hget
    cases hget
  · exact hget

/-- Why the properties of an index do not expand. -/
inductive Refused (p : Properties) (index : String) : Fault → Prop
  /-- The count is not the text of a count. -/
  | malformed {raw : String} (hget : p.get? (Key.join index Key.nestedShardCount) = some raw)
      (hraw : ∀ n, ¬ IsCount raw n) : Refused p index (.malformedCount Key.nestedShardCount raw)
  | zero {raw : String} (hget : p.get? (Key.join index Key.nestedShardCount) = some raw)
      (hraw : IsCount raw 0) : Refused p index (.zeroShards index Key.nestedShardCount)
  /-- The highest shard with an override does not exist. -/
  | stray {key name : String} {shard count : Nat} (hcount : p.HasShards index count)
      (hkey : IsOverride key shard name) (hset : (p.get? (Key.join index key)).isSome)
      (hstray : count ≤ shard) (hhighest : p.Fits index (shard + 1)) :
      Refused p index (.strayOverride index shard count)

lemma Refused.of_shardCount {fault : Fault} (herror : p.shardCount index = .error fault) :
    p.Refused index fault := by
  rw [shardCount] at herror
  rcases hcount : (p.shared index).getCount Key.nestedShardCount with fault' | _ | _ | n
  · obtain ⟨raw, hget, hraw, rfl⟩ := getCount_eq_error_iff.1 hcount
    rw [hcount] at herror
    cases herror
    exact .malformed (get?_shared_nestedShardCount ▸ hget) hraw
  · simp [hcount] at herror
  · obtain ⟨raw, hget, hraw⟩ := getCount_eq_ok_some_iff.1 hcount
    rw [hcount] at herror
    cases herror
    exact .zero (get?_shared_nestedShardCount ▸ hget) hraw
  · simp [hcount] at herror

lemma Refused.of_perShard {fault : Fault} (herror : p.perShard index = .error fault) :
    p.Refused index fault := by
  cases hcount : p.shardCount index with
  | error fault' =>
    obtain rfl : fault' = fault := by simpa [perShard, hcount] using herror
    exact .of_shardCount hcount
  | ok count =>
    have hhas := shardCount_eq_ok_iff.1 hcount
    rw [perShard_of_hasShards hhas] at herror
    split_ifs at herror with hstray
    cases herror
    -- The highest shard is that of an override: its bound is sharp.
    have hhighest := (highest_lt_iff (Nat.succ_pos _)).1 (Nat.lt_succ_self (p.highest index))
    have hattained : ¬ p.Fits index (p.highest index) := fun hfits =>
      absurd ((highest_lt_iff (hhas.pos.trans_le hstray)).2 hfits) (lt_irrefl _)
    simp only [Fits, not_forall, not_lt] at hattained
    obtain ⟨key, shard, name, hkey, hset, hle⟩ := hattained
    obtain rfl : shard = p.highest index :=
      (Nat.lt_succ_iff.1 (hhighest key shard name hkey hset)).antisymm hle
    exact .stray hhas hkey hset hstray hhighest

/-- An index has a count that is not the text of one. -/
def MalformedCount (p : Properties) (index : String) : Prop :=
  ∃ raw, p.get? (Key.join index Key.nestedShardCount) = some raw ∧ ∀ n, ¬ IsCount raw n

lemma HasShards.not_malformedCount (hcount : p.HasShards index count) :
    ¬ p.MalformedCount index := by
  rintro ⟨raw, hget, hraw⟩
  exact hraw count (hcount.isCount hget)

lemma Refused.code_eq {fault : Fault} (hrefused : p.Refused index fault) :
    p.MalformedCount index ∧ fault.report.code = .invalidPropertyValue ∨
      ¬ p.MalformedCount index ∧ fault.report.code = .invalidConfiguration := by
  cases hrefused with
  | malformed hget hraw => exact .inl ⟨⟨_, hget, hraw⟩, rfl⟩
  | zero hget hraw =>
    refine .inr ⟨?_, rfl⟩
    rintro ⟨raw, hget', hraw'⟩
    obtain rfl : raw = _ := Option.some.inj (hget'.symm.trans hget)
    exact hraw' 0 hraw
  | stray hcount => exact .inr ⟨hcount.not_malformedCount, rfl⟩

lemma perShard_congr (h : ∀ key, q.get? (Key.join index key) = p.get? (Key.join index key)) :
    q.perShard index = p.perShard index := by
  simp only [perShard, shardCount, shared, overrides, entriesBelow_congr h]

/-- The expansion of the properties of an index. It succeeds when the count of shards is missing or
a positive count, and every override is for one of the shards. Then there are that many shards, and
each of them reads under a name the last override for it or else the shared text. Keys of other
indexes have no influence. It fails with a code of its own for a text that is not a count. -/
theorem perShard_outcome (p : Properties) (index : String) :
    ((∃ shards, p.perShard index = .ok shards) ↔
        ∃ count, p.HasShards index count ∧ p.Fits index count) ∧
      (∀ shards, p.perShard index = .ok shards → p.HasShards index shards.length ∧
        ∀ (i : Nat) (hi : i < shards.length) (name value : String),
          shards[i].get? name = some value ↔ p.Reads index i name value) ∧
      (∀ q : Properties, (∀ key, q.get? (Key.join index key) = p.get? (Key.join index key)) →
        q.perShard index = p.perShard index) ∧
      ∀ fault, p.perShard index = .error fault → p.Refused index fault ∧
        (p.MalformedCount index ∧ fault.report.code = .invalidPropertyValue ∨
          ¬ p.MalformedCount index ∧ fault.report.code = .invalidConfiguration) := by
  refine ⟨exists_perShard_iff, fun shards hok => ⟨hasShards_length hok, ?_⟩,
    fun q => perShard_congr, fun fault herror => ?_⟩
  · exact fun i hi name value => reads_of_perShard hok hi
  · have hrefused := Refused.of_perShard herror
    exact ⟨hrefused, hrefused.code_eq⟩

/-- Of several spellings of one shard the last one is read. -/
example : ((ofList [("quotes.sharding_strategy.nbr_of_shards", " +2 "), ("quotes.a", "shared"),
    ("quotes.+1.a", "plus"), ("quotes.1.a", "plain"), ("quotes.01.a", "zero")]).perShard
      "quotes").map (List.map (·.get? "a")) = .ok [some "shared", some "plain"] := by decide

end Properties

end ShardedIndex
