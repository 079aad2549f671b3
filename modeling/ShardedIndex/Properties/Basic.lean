import Std.Data.ExtTreeMap
import ShardedIndex.Fault
import ShardedIndex.Properties.Key
import ShardedIndex.Text.Numeral

/-!
# Properties

A finite map from keys to texts, which configures an index or a strategy. Two properties are equal
when they answer every key alike, and their entries are listed in the order of their keys by code
point.
-/

namespace ShardedIndex

/-- Configuration entries, one text per key. -/
@[ext] structure Properties where
  entries : Std.ExtTreeMap String String
  deriving DecidableEq

namespace Properties

open Text

variable {p : Properties} {k : String}

/-! ### Entries -/

def empty : Properties := ⟨∅⟩

instance : EmptyCollection Properties := ⟨empty⟩

instance : Inhabited Properties := ⟨empty⟩

/-- The text of a key. -/
def get? (p : Properties) (key : String) : Option String := p.entries[key]?

/-- Put a text under a key, in place of any text it had. -/
def set (p : Properties) (key value : String) : Properties := ⟨p.entries.insert key value⟩

def contains (p : Properties) (key : String) : Bool := p.entries.contains key

def size (p : Properties) : Nat := p.entries.size

def isEmpty (p : Properties) : Bool := p.entries.isEmpty

/-- The entries in the order of their keys. -/
def toList (p : Properties) : List (String × String) := p.entries.toList

/-- Set entries one after the other, so the last one of a key stays. -/
def setAll (p : Properties) (entries : List (String × String)) : Properties :=
  entries.foldl (fun p entry => p.set entry.1 entry.2) p

def ofList (entries : List (String × String)) : Properties := empty.setAll entries

@[ext] theorem ext_get? {p q : Properties} (h : ∀ key, p.get? key = q.get? key) : p = q := by
  obtain ⟨p⟩ := p
  obtain ⟨q⟩ := q
  exact congrArg mk (Std.ExtTreeMap.ext_getElem? h)

@[simp] theorem get?_empty (key : String) : empty.get? key = none := by simp [empty, get?]

@[simp] theorem get?_set (key value : String) :
    (p.set key value).get? k = if key = k then some value else p.get? k := by
  simp [set, get?, Std.ExtTreeMap.getElem?_insert]

theorem mem_toList {entry : String × String} :
    entry ∈ p.toList ↔ p.get? entry.1 = some entry.2 :=
  Std.ExtTreeMap.mem_toList_iff_getElem?_eq_some

@[simp] theorem setAll_nil : p.setAll [] = p := rfl

@[simp] theorem setAll_cons (entry : String × String) (rest : List (String × String)) :
    p.setAll (entry :: rest) = (p.set entry.1 entry.2).setAll rest := rfl

theorem setAll_append (xs ys : List (String × String)) :
    p.setAll (xs ++ ys) = (p.setAll xs).setAll ys := List.foldl_append

/-! ### Counts -/

/-- The count under a key. Blanks around it are ignored; any other text is a fault. -/
def getCount (p : Properties) (key : String) : Except Fault (Option Nat) :=
  match p.get? key with
  | none     => .ok none
  | some raw =>
    match readBelow wordLimit (trim raw.toList) with
    | some n => .ok (some n)
    | none   => .error (.malformedCount key raw)

/-! ### Lifted properties -/

/-- The key that `key` becomes at the top level when it stands below the selector. A selector with
nothing behind its dot has nothing to come up. -/
def lifted? (selector key : String) : Option String :=
  (Key.below? selector key).filter (· ≠ "")

/-- These properties without the selector, the entries below it moved to the top level: so a
strategy is configured by the entries of an index. An entry that comes up replaces a top-level entry
of its name, and it may come up under the name of the selector. -/
def lift (p : Properties) (selector : String) : Properties :=
  let nested := p.toList.filterMap fun (key, value) => (lifted? selector key).map (·, value)
  let kept := p.entries.filter fun key _ => key ≠ selector && (lifted? selector key).isNone
  (mk kept).setAll nested

end Properties

end ShardedIndex
