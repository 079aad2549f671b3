import ShardedIndex.Json.Value
import ShardedIndex.Properties.Basic

/-!
# Properties as documents

Properties are written as a JSON object of strings, with the keys in order and no blanks. Any object
of strings is read; of several entries under one key the last one stays.
-/

namespace ShardedIndex.Properties

open Json

/-- An entry of the written object. -/
def writeEntry (entry : String × String) : List Char :=
  quote entry.1.toList ++ ':' :: quote entry.2.toList

/-- The document of properties. -/
def write (p : Properties) : String :=
  String.ofList ('{' :: [','].intercalate (p.toList.map writeEntry) ++ ['}'])

/-- The entry that a field of an object stands for. -/
def entry? : Field → Option (String × String)
  | (some key, .string (some value)) => some (key, value)
  | _                                => none

/-- The entries of a JSON value, in the order they are written. -/
def entries? : Value → Option (List (String × String))
  | .object fields => fields.mapM entry?
  | _              => none

/-- Read a document. -/
def read (text : String) : Except Fault Properties :=
  match (Value.ofChars? text.toList).bind entries? with
  | some entries => .ok (ofList entries)
  | none         => .error .malformedDocument

end ShardedIndex.Properties
