/-!
# Faults

Everything that can go wrong is a cause, `Fault`. A cause is shown to a caller as a `Report`, which
has one of three families, a stable code and a message; `Report.text` is the whole line.
-/

namespace ShardedIndex

/-! ### Codes -/

/-- The stable code of a report, for callers that act on it. -/
inductive Code
  | invalidConfiguration
  | entityWithNoShard
  | invalidWorkloadRatio
  | invalidPropertyValue
  | unknownStrategy
  | strategyInitFailed
  | indexManagerCreationFailed
  | shardOutOfRange
  deriving DecidableEq, Repr

namespace Code

/-- The code as it is written in front of a message. -/
def label : Code → String
  | invalidConfiguration       => "INVALID_CONFIGURATION"
  | entityWithNoShard          => "ENTITY_WITH_NO_SHARD"
  | invalidWorkloadRatio       => "INVALID_WORKLOAD_RATIO"
  | invalidPropertyValue       => "INVALID_PROPERTY_VALUE"
  | unknownStrategy            => "UNKNOWN_STRATEGY"
  | strategyInitFailed         => "STRATEGY_INIT_FAILED"
  | indexManagerCreationFailed => "INDEX_MANAGER_CREATION_FAILED"
  | shardOutOfRange            => "SHARD_OUT_OF_RANGE"

/-- The code as a number: 17xx for configuration, 19xx for strategies, 20xx for index managers. -/
def number : Code → Nat
  | invalidConfiguration       => 1701
  | entityWithNoShard          => 1702
  | invalidWorkloadRatio       => 1703
  | invalidPropertyValue       => 1704
  | unknownStrategy            => 1901
  | strategyInitFailed         => 1902
  | indexManagerCreationFailed => 2001
  | shardOutOfRange            => 2002

end Code

/-! ### Reports -/

/-- What a caller is told about a fault. -/
inductive Report
  /-- A static configuration mistake; never worth a retry. -/
  | configuration (code : Code) (message : String)
  /-- A reference by name that could not be turned into a usable part. -/
  | instantiation (role reference message : String)
  /-- A failure of an index manager or of the shard it stands for. -/
  | indexManager (code : Code) (message : String)
  deriving DecidableEq, Repr

namespace Report

/-- An instantiation failure always means an unknown strategy. -/
def code : Report → Code
  | configuration code _  => code
  | instantiation _ _ _   => .unknownStrategy
  | indexManager code _   => code

def isConfiguration : Report → Bool
  | configuration _ _ => true
  | _                 => false

/-- The code in brackets, the family, then the message. -/
def text : Report → String
  | configuration code message => s!"[{code.label}] Config error: {message}"
  | instantiation role reference message =>
    s!"[{Code.unknownStrategy.label}] Unable to instantiate {role} '{reference}': {message}"
  | indexManager code message => s!"[{code.label}] Index manager error: {message}"

/-- An entity type was to be bound to an empty list of shards. -/
def entityWithNoShard (entity : String) : Report :=
  .configuration .entityWithNoShard s!"entity '{entity}' has no shard configured"

end Report

/-! ### Causes -/

/-- Why an operation was refused. -/
inductive Fault
  /-- A properties document is not a JSON object of strings. -/
  | malformedDocument
  /-- A property that has to be a count holds some other text. -/
  | malformedCount (key raw : String)
  /-- An index is configured with zero shards. -/
  | zeroShards (index countKey : String)
  /-- A property is set for a shard that the index does not have. -/
  | strayOverride (index : String) (shard count : Nat)
  | entityWithNoShard (entity : String)
  /-- Adds and updates together exceed the whole workload. -/
  | ratioAboveHundred (pctAdd pctUpdate : UInt32)
  | noAddShare
  /-- The share of adds is positive but rounds to no work at all. -/
  | addsRoundToZero (total : UInt64) (pctAdd : UInt32)
  | noWriter
  | noShard
  | singleManagerExpected (got : Nat)
  | noManager
  | shardCountMismatch (countKey : String) (declared bound : Nat)
  | unknownStrategy (reference : String)
  | unsupportedProvider (index providerKey provider : String)
  /-- An index was told to refuse the work shown. -/
  | refusedWork (shown : String)
  | shardOutOfRange (strategy : String) (shard count : Nat)
  /-- A fault raised by a strategy or an index from outside this library. -/
  | foreign (report : Report)
  deriving DecidableEq, Repr

namespace Fault

/-- Every cause has one report. -/
def report : Fault → Report
  | malformedDocument =>
    .configuration .invalidConfiguration
      "invalid properties document: expected an object whose values are strings"
  | malformedCount key raw =>
    .configuration .invalidPropertyValue
      s!"property '{key}' is not a non-negative integer: '{raw}'"
  | zeroShards index countKey =>
    .configuration .invalidConfiguration s!"index '{index}': {countKey} must be at least 1"
  | strayOverride index shard count =>
    .configuration .invalidConfiguration
      s!"index '{index}': override for shard {shard} but only {count} shard(s) configured"
  | entityWithNoShard entity => .entityWithNoShard entity
  | ratioAboveHundred pctAdd pctUpdate =>
    .configuration .invalidWorkloadRatio
      s!"add ({pctAdd}%) and update ({pctUpdate}%) percentages must not exceed 100"
  | noAddShare =>
    .configuration .invalidWorkloadRatio "add percentage must be greater than 0"
  | addsRoundToZero total pctAdd =>
    .configuration .invalidWorkloadRatio
      s!"at least one document must be added ({total} works at {pctAdd}% add rounds to 0)"
  | noWriter =>
    .configuration .invalidConfiguration "at least one writer thread is required"
  | noShard =>
    .configuration .invalidConfiguration "at least one shard is required"
  | singleManagerExpected got =>
    .configuration .strategyInitFailed
      s!"NotShardedStrategy expects exactly one index manager, got {got}"
  | noManager =>
    .configuration .strategyInitFailed "IdHashShardingStrategy needs at least one index manager"
  | shardCountMismatch countKey declared bound =>
    .configuration .strategyInitFailed
      s!"{countKey} declares {declared} shard(s) but {bound} index manager(s) were bound"
  | unknownStrategy reference =>
    .instantiation "IndexShardingStrategy" reference
      "no implementation registered under this name"
  | unsupportedProvider index providerKey provider =>
    .indexManager .indexManagerCreationFailed
      s!"index '{index}': unsupported {providerKey} '{provider}'"
  | refusedWork shown =>
    .indexManager .indexManagerCreationFailed s!"injected failure for {shown}"
  | shardOutOfRange strategy shard count =>
    .indexManager .shardOutOfRange s!"strategy '{strategy}' routed to shard {shard} of {count}"
  | foreign report => report

def text (f : Fault) : String := f.report.text

end Fault

end ShardedIndex
