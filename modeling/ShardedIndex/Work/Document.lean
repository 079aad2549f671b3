import ShardedIndex.Json.Value
import ShardedIndex.Work.Basic

/-!
# Works as documents

A work is written as a JSON object, its fields in a fixed order and without blanks. Reading is more
lenient: the fields of an object may stand in any order among others that are ignored, and an array
may list the fields in their fixed order. A field of a record has to be there exactly once.
-/

namespace ShardedIndex

open Json Text

/-! ### Records -/

namespace Json.Value

/-- The only value that fields hold under a name. -/
def only? (name : String) (fields : List Field) : Option Value :=
  match fields.filter fun field => field.1 = some name with
  | [(_, value)] => some value
  | _            => none

/-- The values of a record with the fields `names`, in their order. Every key of an object has to be
a text, also one that is ignored. -/
def record? (names : List String) : Value → Option (List Value)
  | array items   => if items.length = names.length then some items else none
  | object fields =>
    if fields.all fun field => field.1.isSome then names.mapM fun name => only? name fields
    else none
  | _             => none

/-- A number below `limit`, written in digits alone. -/
def natural? (limit : Nat) : Value → Option Nat
  | number spelling =>
    if isDigits spelling.toList then readBelow limit spelling.toList else none
  | _               => none

/-- The text of a string. -/
def text? : Value → Option String
  | string content => content
  | _              => none

end Json.Value

/-! ### Kinds -/

namespace WorkKind

/-- The kind as it stands in a document. -/
def tag : WorkKind → String
  | add    => "Add"
  | update => "Update"
  | delete => "Delete"

def ofTag? (tag : String) : Option WorkKind := all.find? fun kind => kind.tag = tag

/-- A kind is a tag, or an object that holds nothing but `null` under the tag. -/
def read? : Value → Option WorkKind
  | .string content            => content.bind ofTag?
  | .object [(content, .null)] => content.bind ofTag?
  | _                          => none

@[simp] theorem ofTag?_tag (kind : WorkKind) : ofTag? kind.tag = some kind := by
  cases kind <;> decide

end WorkKind

/-! ### Quotes and works -/

/-- The id that a value denotes. -/
def readId? (v : Value) : Option DocumentId := (v.natural? wordLimit).map UInt64.ofNat

namespace Quote

def fieldNames : List String := ["id", "text"]

def write (q : Quote) : List Char :=
  "\x7b\"id\":".toList ++ (decimal q.id.toNat).toList ++ ",\"text\":".toList ++
    quote q.text.toList ++ ['}']

def read? (v : Value) : Option Quote :=
  match v.record? fieldNames with
  | some [id, text] =>
    match readId? id, text.text? with
    | some id, some text => some ⟨id, text⟩
    | _, _               => none
  | _               => none

end Quote

namespace Work

def fieldNames : List String := ["work_type", "id", "payload"]

/-- The document of a work. -/
def write (w : Work) : String :=
  String.ofList ("\x7b\"work_type\":".toList ++ quote w.kind.tag.toList ++ ",\"id\":".toList ++
    (decimal w.id.toNat).toList ++ ",\"payload\":".toList ++ w.payload.write ++ ['}'])

def ofValue? (v : Value) : Option Work :=
  match v.record? fieldNames with
  | some [kind, id, payload] =>
    match WorkKind.read? kind, readId? id, Quote.read? payload with
    | some kind, some id, some payload => some ⟨kind, id, payload⟩
    | _, _, _                          => none
  | _                        => none

/-- Read a document. -/
def read? (text : String) : Option Work := (Value.ofChars? text.toList).bind ofValue?

end Work

end ShardedIndex
