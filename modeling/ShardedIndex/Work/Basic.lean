import ShardedIndex.Text.Numeral

/-!
# Works

A work asks an index to add, update or delete one document, whose content is a quote. The id of a
work names the document; the quote carries an id of its own, which `Work.of` makes the same.
-/

namespace ShardedIndex

/-- The key of a document. -/
abbrev DocumentId := UInt64

/-! ### Kinds -/

inductive WorkKind
  | add
  | update
  | delete
  deriving DecidableEq, Repr

namespace WorkKind

/-- Every kind, in the order in which a choice among them is listed. -/
def all : List WorkKind := [add, update, delete]

/-- The kind as it is shown. -/
def label : WorkKind → String
  | add    => "ADD"
  | update => "UPDATE"
  | delete => "DELETE"

/-- Whether a work of this kind has to name a document that was added before. -/
def needsTarget : WorkKind → Bool
  | add => false
  | _   => true

@[simp] theorem mem_all (kind : WorkKind) : kind ∈ all := by cases kind <;> decide

end WorkKind

/-! ### Quotes -/

/-- The content of a document. -/
structure Quote where
  id : DocumentId
  text : String
  deriving DecidableEq, Repr

namespace Quote

/-- The texts that a random quote is chosen from. -/
def texts : Vector String 10 :=
  #v["Simplicity is prerequisite for reliability.",
    "Premature optimization is the root of all evil.",
    "Make it work, make it right, make it fast.",
    "There are only two hard things in computer science.",
    "Talk is cheap. Show me the code.",
    "Programs must be written for people to read.",
    "The best way to predict the future is to invent it.",
    "Testing shows the presence, not the absence of bugs.",
    "Any sufficiently advanced technology is indistinguishable from magic.",
    "Code never lies, comments sometimes do."]

end Quote

/-! ### Works -/

/-- A request to change one document. -/
structure Work where
  kind : WorkKind
  id : DocumentId
  payload : Quote
  deriving DecidableEq, Repr

namespace Work

/-- The work on the document that a quote names. -/
def of (kind : WorkKind) (payload : Quote) : Work := ⟨kind, payload.id, payload⟩

@[simp] theorem kind_of (kind : WorkKind) (payload : Quote) : (of kind payload).kind = kind := rfl

@[simp] theorem id_of (kind : WorkKind) (payload : Quote) : (of kind payload).id = payload.id := rfl

/-- The text by which a work is routed. -/
def key (w : Work) : String := Text.decimal w.id.toNat

/-- The work on one line. -/
def summary (w : Work) : String := s!"Work\x7b{w.kind.label} id={w.id}\x7d"

end Work

end ShardedIndex
