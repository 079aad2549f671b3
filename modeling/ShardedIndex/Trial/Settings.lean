import ShardedIndex.Fault
import ShardedIndex.Text.Numeral

/-!
# Trial settings

The size and shape of a trial, read from environment variables. A variable that is missing or does
not hold a number in range leaves the default.
-/

namespace ShardedIndex

/-- The values of environment variables. -/
abbrev Environment := String → Option String

/-- What a trial does: its works, how many writers and shards it uses, and the seed. -/
structure TrialSettings where
  totalWorks : UInt64 := 10000
  pctAdd : UInt32 := 70
  pctUpdate : UInt32 := 20
  writers : UInt64 := 4
  shards : UInt64 := 4
  seed : UInt64 := 42
  deriving DecidableEq, Repr

namespace TrialSettings

open Text

/-- The word of 64 bits that a variable holds. -/
def word (env : Environment) (name : String) (default : UInt64) : UInt64 :=
  (((env name).bind fun raw => readBelow wordLimit raw.toList).map UInt64.ofNat).getD default

/-- The percentage that a variable holds, a word of 32 bits. -/
def percent (env : Environment) (name : String) (default : UInt32) : UInt32 :=
  (((env name).bind fun raw => readBelow halfWordLimit raw.toList).map UInt32.ofNat).getD default

/-- The variables that are read. -/
def variableNames : List String :=
  ["SHARDEX_TOTAL_WORKS", "SHARDEX_PCT_ADD", "SHARDEX_PCT_UPDATE", "SHARDEX_WRITERS",
    "SHARDEX_SHARDS", "SHARDEX_SEED"]

/-- The settings in an environment. -/
def ofEnvironment (env : Environment) : TrialSettings :=
  let default : TrialSettings := {}
  { totalWorks := word env "SHARDEX_TOTAL_WORKS" default.totalWorks
    pctAdd := percent env "SHARDEX_PCT_ADD" default.pctAdd
    pctUpdate := percent env "SHARDEX_PCT_UPDATE" default.pctUpdate
    writers := word env "SHARDEX_WRITERS" default.writers
    shards := word env "SHARDEX_SHARDS" default.shards
    seed := word env "SHARDEX_SEED" default.seed }

/-- There have to be a writer and a shard. The percentages are checked with the
workload. -/
def validate (c : TrialSettings) : Except Fault Unit :=
  if c.writers = 0 then .error .noWriter
  else if c.shards = 0 then .error .noShard
  else .ok ()

/-- The settings on one line. -/
def summary (c : TrialSettings) : String :=
  s!"WorkloadConfig \x7b total_works: {c.totalWorks}, pct_add: {c.pctAdd}, " ++
    s!"pct_update: {c.pctUpdate}, writers: {c.writers}, shards: {c.shards}, seed: {c.seed} \x7d"

end TrialSettings

end ShardedIndex
