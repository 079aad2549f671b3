import Mathlib
import ShardedIndex.Proofs.Properties.Views

/-!
# Lifted properties, key by key

An entry below the selector comes up in front of a top-level entry of its name; the selector and the
keys below it are hidden, and every other entry stays as it is. Lifting takes the text of the
selector out of the properties, but an entry below the selector may come up under the name of the
selector.
-/

namespace ShardedIndex

lemma Key.join_ne_left (parent rest : String) : join parent rest ≠ parent := by
  intro heq
  have hlength := congrArg String.length heq
  simp only [join, String.length_append] at hlength
  have hdot : ".".length = 1 := rfl
  omega

lemma Key.join_ne_empty (parent rest : String) : join parent rest ≠ "" := by
  intro heq
  have hlength := congrArg String.length heq
  simp only [join, String.length_append] at hlength
  have hdot : ".".length = 1 := rfl
  have hempty : "".length = 0 := rfl
  omega

namespace Properties

variable {p : Properties} {k key selector value : String} {text : Option String}

/-! ### The selector -/

lemma contains_eq_isSome (p : Properties) (k : String) : p.contains k = (p.get? k).isSome :=
  Std.ExtTreeMap.contains_eq_isSome_getElem?

lemma get?_lift_selector (p : Properties) (selector : String) : (p.lift selector).get? selector =
    if selector ≠ "" then p.get? (Key.join selector selector) else none := by
  have hhidden : ¬ (selector ≠ selector ∧ lifted? selector selector = none) := fun h => h.1 rfl
  rw [get?_lift, if_neg hhidden, Option.or_none]

/-- The text of the selector is not seen in the lifted properties. -/
lemma lift_set_selector (p : Properties) (selector value : String) :
    (p.set selector value).lift selector = p.lift selector := by
  refine ext_get? fun k => ?_
  rw [get?_lift, get?_lift, get?_set, get?_set, if_neg (Key.join_ne_left selector k).symm]
  by_cases hk : k = selector
  · have hhidden : ¬ (k ≠ selector ∧ lifted? selector k = none) := fun h => h.1 hk
    rw [if_neg hhidden, if_neg hhidden]
  · rw [if_neg (Ne.symm hk)]

/-- What the lifted properties have under the name of the selector. It is never the text of the
selector, but there is an entry when one of that name stands below the selector. -/
theorem contains_lift_selector_iff (p : Properties) (selector : String) :
    (∀ value, (p.set selector value).lift selector = p.lift selector) ∧
      ((p.lift selector).contains selector = true ↔
        selector ≠ "" ∧ p.contains (Key.join selector selector) = true) := by
  refine ⟨p.lift_set_selector selector, ?_⟩
  rw [contains_eq_isSome, contains_eq_isSome, get?_lift_selector]
  split_ifs with hne <;> simp [hne]

/-- A strategy is named, and the name comes up a second time. -/
def doubled : Properties :=
  (empty.set Key.strategy "id-hash").set (Key.join Key.strategy Key.strategy) "none"

theorem not_always_hidden :
    ¬ ∀ (p : Properties) (selector : String), (p.lift selector).contains selector = false := by
  intro hhidden
  have hseen := hhidden doubled Key.strategy
  rw [contains_eq_isSome, get?_lift_selector, if_pos (by decide), doubled, get?_set, if_pos rfl]
    at hseen
  cases hseen

/-! ### Precedence -/

/-- A key below the selector, with some text behind the dot. -/
def IsNested (selector key : String) : Prop := ∃ rest, rest ≠ "" ∧ key = Key.join selector rest

/-- What the lifted properties answer for a key. -/
inductive Shows (p : Properties) (selector k : String) (text : Option String) : Prop
  /-- The text of the entry below the selector, whatever else there is. -/
  | nested (hne : k ≠ "") {value : String} (hget : p.get? (Key.join selector k) = some value)
      (htext : text = some value)
  /-- Nothing for the selector and for what stands below it. -/
  | hidden (hnone : k ≠ "" → p.get? (Key.join selector k) = none)
      (hk : k = selector ∨ IsNested selector k) (htext : text = none)
  /-- The text of the key itself. -/
  | own (hnone : k ≠ "" → p.get? (Key.join selector k) = none)
      (hk : ¬ (k = selector ∨ IsNested selector k)) (htext : text = p.get? k)

lemma lifted?_eq_none_iff : lifted? selector k = none ↔ ¬ IsNested selector k := by
  simp only [Option.eq_none_iff_forall_ne_some, ne_eq, lifted?_eq_some_iff, IsNested, not_exists]

lemma kept_iff : k ≠ selector ∧ lifted? selector k = none ↔
    ¬ (k = selector ∨ IsNested selector k) := by
  rw [lifted?_eq_none_iff, not_or]

lemma get?_lift_of_nested (hne : k ≠ "") (hget : p.get? (Key.join selector k) = some value) :
    (p.lift selector).get? k = some value := by
  rw [get?_lift, if_pos hne, hget, Option.some_or]

lemma get?_lift_of_hidden (hnone : k ≠ "" → p.get? (Key.join selector k) = none)
    (hk : k = selector ∨ IsNested selector k) : (p.lift selector).get? k = none := by
  rw [get?_lift, if_neg fun h => kept_iff.1 h hk, Option.or_none]
  split_ifs with hne
  · exact hnone hne
  · rfl

lemma get?_lift_of_own (hnone : k ≠ "" → p.get? (Key.join selector k) = none)
    (hk : ¬ (k = selector ∨ IsNested selector k)) : (p.lift selector).get? k = p.get? k := by
  rw [get?_lift, if_pos (kept_iff.2 hk)]
  split_ifs with hne
  · rw [hnone hne, Option.none_or]
  · rw [Option.none_or]

lemma get?_lift_eq_iff : (p.lift selector).get? k = text ↔ p.Shows selector k text := by
  constructor
  · rintro rfl
    by_cases hnested : k ≠ "" ∧ ∃ value, p.get? (Key.join selector k) = some value
    · obtain ⟨hne, value, hget⟩ := hnested
      exact .nested hne hget (get?_lift_of_nested hne hget)
    · have hnone (hne : k ≠ "") : p.get? (Key.join selector k) = none :=
        Option.eq_none_iff_forall_ne_some.2 fun value hget => hnested ⟨hne, value, hget⟩
      by_cases hk : k = selector ∨ IsNested selector k
      · exact .hidden hnone hk (get?_lift_of_hidden hnone hk)
      · exact .own hnone hk (get?_lift_of_own hnone hk)
  · rintro (⟨hne, hget, rfl⟩ | ⟨hnone, hk, rfl⟩ | ⟨hnone, hk, rfl⟩)
    · exact get?_lift_of_nested hne hget
    · exact get?_lift_of_hidden hnone hk
    · exact get?_lift_of_own hnone hk

/-! ### Entries that stay -/

/-- The name of an entry in the lifted properties. -/
def liftedName (selector key : String) : String := (lifted? selector key).getD key

/-- A top-level entry that an entry below the selector replaces. -/
def IsShadowed (p : Properties) (selector key : String) : Prop :=
  ¬ IsNested selector key ∧ key ≠ "" ∧ (p.get? (Key.join selector key)).isSome

lemma liftedName_join (hne : k ≠ "") : liftedName selector (Key.join selector k) = k := by
  rw [liftedName, lifted?_eq_some_iff.2 ⟨hne, rfl⟩, Option.getD_some]

lemma liftedName_of_not_isNested (hkey : ¬ IsNested selector key) :
    liftedName selector key = key := by
  rw [liftedName, lifted?_eq_none_iff.2 hkey, Option.getD_none]

/-- The lifted properties have the entries that were there before, under their new names, but for
the selector and for what is shadowed. -/
lemma get?_lift_eq_some_iff : (p.lift selector).get? k = some value ↔
    ∃ key, p.get? key = some value ∧ key ≠ selector ∧ ¬ p.IsShadowed selector key ∧
      liftedName selector key = k := by
  rw [get?_lift_eq_iff]
  constructor
  · rintro (⟨hne, hget, htext⟩ | ⟨-, -, htext⟩ | ⟨hnone, hk, htext⟩)
    · have hnested : IsNested selector (Key.join selector k) := ⟨k, hne, rfl⟩
      exact ⟨Key.join selector k, hget.trans htext.symm, Key.join_ne_left selector k,
        fun hshadowed => hshadowed.1 hnested, liftedName_join hne⟩
    · cases htext
    · obtain ⟨hne, hnested⟩ := not_or.1 hk
      refine ⟨k, htext.symm, hne, ?_, liftedName_of_not_isNested hnested⟩
      rintro ⟨-, hempty, hset⟩
      rw [hnone hempty] at hset
      cases hset
  · rintro ⟨key, hget, hne, hshadowed, rfl⟩
    by_cases hnested : IsNested selector key
    · obtain ⟨rest, hrest, rfl⟩ := hnested
      rw [liftedName_join hrest]
      exact .nested hrest hget rfl
    · have hnone (hempty : key ≠ "") : p.get? (Key.join selector key) = none := by
        by_contra hset
        exact hshadowed ⟨hnested, hempty, Option.isSome_iff_ne_none.2 hset⟩
      rw [liftedName_of_not_isNested hnested]
      exact .own hnone (not_or.2 ⟨hne, hnested⟩) hget.symm

/-- Only one selector is taken off the front of a key. -/
lemma get?_lift_join (hne : k ≠ "") : (p.lift selector).get? (Key.join selector k) =
    p.get? (Key.join selector (Key.join selector k)) := by
  have hhidden : ¬ (Key.join selector k ≠ selector ∧
      lifted? selector (Key.join selector k) = none) := fun h => kept_iff.1 h (.inr ⟨k, hne, rfl⟩)
  rw [get?_lift, if_pos (Key.join_ne_empty selector k), if_neg hhidden, Option.or_none]

/-- A key that ends with the dot behind the selector is a top-level key. -/
lemma get?_lift_join_empty : (p.lift selector).get? (Key.join selector "") =
    (p.get? (Key.join selector (Key.join selector ""))).or (p.get? (Key.join selector "")) := by
  have hkept : ¬ (Key.join selector "" = selector ∨ IsNested selector (Key.join selector "")) := by
    rintro (heq | ⟨rest, hne, heq⟩)
    · exact Key.join_ne_left selector "" heq
    · exact hne (Key.join_right_inj.1 heq).symm
  rw [get?_lift, if_pos (Key.join_ne_empty selector ""), if_pos (kept_iff.2 hkept)]

/-- What the lifted properties answer for every key, and which entries they have. An entry below the
selector wins over a top-level one of its name; otherwise there is nothing for the selector and for
the keys below it, and the own text for any other key. Every entry but the selector and those that
are shadowed so is there under its new name, and there are no others. One selector is taken off the
front of a key and no more, and a key with nothing behind the selector and its dot is not below the
selector. -/
theorem lift_precedence (p : Properties) (selector : String) :
    let view := p.lift selector
    (∀ k text, view.get? k = text ↔ p.Shows selector k text) ∧
      (∀ k value, (k, value) ∈ view.toList ↔ ∃ key, (key, value) ∈ p.toList ∧ key ≠ selector ∧
        ¬ p.IsShadowed selector key ∧ liftedName selector key = k) ∧
      (∀ k, k ≠ "" → view.get? (Key.join selector k) =
        p.get? (Key.join selector (Key.join selector k))) ∧
      view.get? (Key.join selector "") =
        (p.get? (Key.join selector (Key.join selector ""))).or (p.get? (Key.join selector "")) := by
  intro view
  refine ⟨fun k text => get?_lift_eq_iff, fun k value => ?_, fun k hne => get?_lift_join hne,
    get?_lift_join_empty⟩
  simp only [mem_toList]
  exact get?_lift_eq_some_iff

/-- Entries in front of those below the selector and behind them, and keys that look like the
selector. -/
def layered : Properties :=
  ofList [("a", "own"), ("sel", "id-hash"), ("sel.", "dot"), ("sel.a", "nested"),
    ("sel.sel.b", "twice"), ("sel.z", "nested"), ("self", "own"), ("z", "own")]

theorem lift_precedence_layered :
    let view := layered.lift "sel"
    view.get? "a" = some "nested" ∧ view.get? "z" = some "nested" ∧ view.get? "sel" = none ∧
      view.get? "self" = some "own" ∧ view.get? "sel.a" = none ∧ view.get? "sel.b" = some "twice" ∧
      view.get? "sel." = some "dot" := by
  intro view
  obtain ⟨hshows, -, honce, hdot⟩ := lift_precedence layered "sel"
  have hself : ¬ ("self" = "sel" ∨ IsNested "sel" "self") :=
    kept_iff.1 ⟨by decide, by decide⟩
  refine ⟨(hshows _ _).2 ?_, (hshows _ _).2 ?_, (hshows _ _).2 ?_, (hshows _ _).2 ?_,
    (honce "a" (by decide)).trans (by decide), (honce "b" (by decide)).trans (by decide),
    hdot.trans (by decide)⟩
  · exact .nested (by decide) (by decide) rfl
  · exact .nested (by decide) (by decide) rfl
  · exact .hidden (by decide) (.inl rfl) rfl
  · exact .own (by decide) hself (by decide)

end Properties

end ShardedIndex
