import ShardedIndex.Json.Token

/-!
# Values of JSON

A value keeps the fields of an object in the order they are written, repeated keys included.
`Value.tokens` lists the tokens of a value. `Value.ofTokens?` goes the other way, one token at a
time: it keeps the arrays and objects that are still open on a stack.
-/

namespace ShardedIndex.Json

inductive Value
  | null
  | bool (value : Bool)
  | number (spelling : String)
  | string (content : Content)
  | array (items : List Value)
  | object (fields : List (Content × Value))

/-- A field of an object. -/
abbrev Field := Content × Value

namespace Value

/-! ### The tokens of a value -/

mutual

/-- The tokens of a value in reading order. -/
def tokens : Value → List Token
  | null            => [.null]
  | bool value      => [.bool value]
  | number spelling => [.number spelling]
  | string content  => [.string content]
  | array []        => [.openArray, .closeArray]
  | array (v :: vs) => .openArray :: v.tokens ++ moreItems vs ++ [.closeArray]
  | object []       => [.openObject, .closeObject]
  | object ((key, v) :: fs) =>
    .openObject :: .string key :: .colon :: v.tokens ++ moreFields fs ++ [.closeObject]

/-- The tokens of the items after the first one, each behind a comma. -/
def moreItems : List Value → List Token
  | []      => []
  | v :: vs => .comma :: v.tokens ++ moreItems vs

/-- The tokens of the fields after the first one, each behind a comma. -/
def moreFields : List (Content × Value) → List Token
  | []             => []
  | (key, v) :: fs => .comma :: .string key :: .colon :: v.tokens ++ moreFields fs

end

/-! ### Reading tokens -/

/-- An array or object that is still open, with what it holds so far, last first. -/
inductive Frame
  | items (done : List Value)
  | fields (done : List Field) (key : Content)

/-- What may come next, and what is still open around it. -/
inductive Reading
  /-- A value. -/
  | value (stack : List Frame)
  /-- The first item of an array, or its end. -/
  | firstItem (stack : List Frame)
  /-- The first key of an object, or its end. -/
  | firstKey (stack : List Frame)
  /-- A further key of an object. -/
  | key (done : List Field) (stack : List Frame)
  /-- The colon after a key. -/
  | colon (done : List Field) (key : Content) (stack : List Frame)
  /-- A comma or an end, after a complete value. -/
  | complete (v : Value) (stack : List Frame)

/-- Read the token that starts a value. -/
def start? (stack : List Frame) : Token → Option Reading
  | .null            => some (.complete null stack)
  | .bool value      => some (.complete (bool value) stack)
  | .number spelling => some (.complete (number spelling) stack)
  | .string content  => some (.complete (string content) stack)
  | .openArray       => some (.firstItem stack)
  | .openObject      => some (.firstKey stack)
  | _                => none

/-- Read one token. -/
def Reading.step? : Reading → Token → Option Reading
  | value stack, t                                     => start? stack t
  | firstItem stack, .closeArray                       => some (complete (array []) stack)
  | firstItem stack, t                                 => start? (.items [] :: stack) t
  | firstKey stack, .closeObject                       => some (complete (object []) stack)
  | firstKey stack, .string k                          => some (colon [] k stack)
  | key done stack, .string k                          => some (colon done k stack)
  | colon done k stack, .colon                         => some (value (.fields done k :: stack))
  | complete v (.items done :: stack), .comma          => some (value (.items (v :: done) :: stack))
  | complete v (.items done :: stack), .closeArray     =>
    some (complete (array (v :: done).reverse) stack)
  | complete v (.fields done k :: stack), .comma       => some (key ((k, v) :: done) stack)
  | complete v (.fields done k :: stack), .closeObject =>
    some (complete (object ((k, v) :: done).reverse) stack)
  | _, _                                               => none

/-- Read tokens one after the other. -/
def Reading.run? : Reading → List Token → Option Reading
  | r, []      => some r
  | r, t :: ts =>
    match r.step? t with
    | some r => r.run? ts
    | none   => none

/-- The value that tokens spell. -/
def ofTokens? (ts : List Token) : Option Value :=
  match (Reading.value []).run? ts with
  | some (.complete v []) => some v
  | _                     => none

/-- The value that a text spells. -/
def ofChars? (cs : List Char) : Option Value :=
  match tokens? cs with
  | some ts => ofTokens? ts
  | none    => none

end Value

end ShardedIndex.Json
