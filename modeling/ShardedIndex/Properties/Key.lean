/-!
# Dotted keys

Keys of properties are texts whose parts are separated by dots. `below?` goes one name down and
`splitFirst?` cuts at the first dot.
-/

namespace ShardedIndex.Key

/-- The key that names the sharding strategy. -/
def strategy : String := "sharding_strategy"

/-- The key of the shard count as a strategy reads it. -/
def shardCount : String := "nbr_of_shards"

/-- The key that selects the storage of an index. -/
def directoryProvider : String := "directory_provider"

/-- The key `rest` below `parent`. -/
def join (parent rest : String) : String := parent ++ "." ++ rest

/-- The key of the shard count as an index is configured with it. -/
def nestedShardCount : String := join strategy shardCount

/-- What follows `parent` and a dot in `key`; nothing when `key` does not start so. -/
def below? (parent key : String) : Option String :=
  ((parent.toList ++ ['.']).isPrefixOf? key.toList).map String.ofList

theorem isPrefixOf?_cons_cons (a c : Char) (front cs : List Char) :
    (a :: front).isPrefixOf? (c :: cs) = if a == c then front.isPrefixOf? cs else none := rfl

theorem isPrefixOf?_eq_some_iff {front cs rest : List Char} :
    front.isPrefixOf? cs = some rest ↔ cs = front ++ rest := by
  induction front generalizing cs with
  | nil => exact Option.some_inj
  | cons a front ih =>
    cases cs with
    | nil => exact ⟨nofun, nofun⟩
    | cons c cs =>
      rw [isPrefixOf?_cons_cons]
      by_cases h : a = c
      · simp [h, ih]
      · simp [h, Ne.symm h]

theorem below?_eq_some_iff {parent key rest : String} :
    below? parent key = some rest ↔ key = join parent rest := by
  simp only [below?, Option.map_eq_some_iff, isPrefixOf?_eq_some_iff, join]
  constructor
  · rintro ⟨cs, h, rfl⟩
    apply String.toList_injective
    simp [h]
  · rintro rfl
    exact ⟨rest.toList, by simp, by simp⟩

@[simp] theorem below?_join (parent rest : String) : below? parent (join parent rest) = some rest :=
  below?_eq_some_iff.2 rfl

/-- The texts before and after the first dot; nothing when there is no dot. -/
def splitFirst? (key : String) : Option (String × String) :=
  match key.toList.dropWhile (· ≠ '.') with
  | []        => none
  | _ :: tail => some (String.ofList (key.toList.takeWhile (· ≠ '.')), String.ofList tail)

end ShardedIndex.Key
