import Mathlib
import ShardedIndex.Json.Value

/-!
# Reading the tokens of a value

`Value.ofTokens?` undoes `Value.tokens` and accepts nothing else. In one direction a reading is
followed by the tokens that it has consumed, which every step extends by the token it reads; in the
other direction the tokens of a value take a reading from the place before the value to the place
after it.
-/

namespace ShardedIndex.Json.Value

variable {v : Value} {stack : List Frame} {r r' : Reading} {t : Token} {ts rest : List Token}

/-! ### Lists with a comma behind each member -/

/-- Items with a comma behind each of them. -/
def itemsThenComma (vs : List Value) : List Token := vs.flatMap fun v => v.tokens ++ [.comma]

/-- Fields with a comma behind each of them. -/
def fieldsThenComma (fs : List Field) : List Token :=
  fs.flatMap fun f => .string f.1 :: .colon :: f.2.tokens ++ [.comma]

lemma itemsThenComma_append_singleton (vs : List Value) (v : Value) :
    itemsThenComma (vs ++ [v]) = itemsThenComma vs ++ v.tokens ++ [.comma] := by
  simp [itemsThenComma]

lemma tokens_append_moreItems (v w : Value) (vs : List Value) :
    v.tokens ++ moreItems (vs ++ [w]) = itemsThenComma (v :: vs) ++ w.tokens := by
  induction vs generalizing v with
  | nil => simp [itemsThenComma, moreItems]
  | cons u vs ih =>
    rw [List.cons_append, moreItems, List.cons_append, ih u]
    simp [itemsThenComma]

lemma tokens_array_append (vs : List Value) (v : Value) :
    (array (vs ++ [v])).tokens = .openArray :: itemsThenComma vs ++ v.tokens ++ [.closeArray] := by
  cases vs with
  | nil => simp [tokens, itemsThenComma, moreItems]
  | cons u vs =>
    rw [List.cons_append, tokens, List.cons_append, tokens_append_moreItems]
    rfl

lemma fieldsThenComma_append_singleton (fs : List Field) (k : Content) (v : Value) :
    fieldsThenComma (fs ++ [(k, v)]) =
      fieldsThenComma fs ++ .string k :: .colon :: v.tokens ++ [.comma] := by
  simp [fieldsThenComma]

lemma tokens_append_moreFields (k l : Content) (v w : Value) (fs : List Field) :
    .string k :: .colon :: v.tokens ++ moreFields (fs ++ [(l, w)]) =
      fieldsThenComma ((k, v) :: fs) ++ .string l :: .colon :: w.tokens := by
  induction fs generalizing k v with
  | nil => simp [fieldsThenComma, moreFields]
  | cons f fs ih =>
    obtain ⟨m, u⟩ := f
    calc
      .string k :: .colon :: v.tokens ++ moreFields ((m, u) :: fs ++ [(l, w)])
        = .string k :: .colon :: v.tokens ++
            .comma :: (.string m :: .colon :: u.tokens ++ moreFields (fs ++ [(l, w)])) := rfl
      _ = fieldsThenComma ((k, v) :: (m, u) :: fs) ++ .string l :: .colon :: w.tokens := by
        rw [ih]
        simp [fieldsThenComma]

lemma tokens_object_append (fs : List Field) (k : Content) (v : Value) :
    (object (fs ++ [(k, v)])).tokens =
      .openObject :: fieldsThenComma fs ++ .string k :: .colon :: v.tokens ++ [.closeObject] := by
  cases fs with
  | nil => simp [tokens, fieldsThenComma, moreFields]
  | cons f fs =>
    obtain ⟨l, w⟩ := f
    calc
      (object ((l, w) :: fs ++ [(k, v)])).tokens
        = .openObject :: (.string l :: .colon :: w.tokens ++ moreFields (fs ++ [(k, v)])) ++
            [.closeObject] := rfl
      _ = .openObject :: fieldsThenComma ((l, w) :: fs) ++ .string k :: .colon :: v.tokens ++
            [.closeObject] := by
        rw [tokens_append_moreFields]
        simp

/-! ### Only the tokens of a value are accepted -/

/-- The tokens of what is open, up to the place of a further value. -/
def openTokens : List Frame → List Token
  | []                      => []
  | .items done :: stack    => openTokens stack ++ .openArray :: itemsThenComma done.reverse
  | .fields done k :: stack =>
    openTokens stack ++ .openObject :: fieldsThenComma done.reverse ++ [.string k, .colon]

/-- The tokens that a reading has consumed. -/
def Reading.consumed : Reading → List Token
  | value stack        => openTokens stack
  | firstItem stack    => openTokens stack ++ [.openArray]
  | firstKey stack     => openTokens stack ++ [.openObject]
  | key done stack     => openTokens stack ++ .openObject :: fieldsThenComma done.reverse
  | colon done k stack =>
    openTokens stack ++ .openObject :: fieldsThenComma done.reverse ++ [.string k]
  | complete v stack   => openTokens stack ++ v.tokens

lemma consumed_start? (h : start? stack t = some r) : r.consumed = openTokens stack ++ [t] := by
  unfold start? at h
  split at h <;> cases h <;> simp [Reading.consumed, tokens]

/-- A step consumes the token that it reads. -/
lemma consumed_step? (h : r.step? t = some r') : r'.consumed = r.consumed ++ [t] := by
  unfold Reading.step? at h
  split at h
  case h_1 => exact consumed_start? h
  case h_3 =>
    rw [consumed_start? h]
    simp [openTokens, Reading.consumed, itemsThenComma]
  all_goals cases h
  case h_2 | h_4 => simp [Reading.consumed, tokens]
  case h_5 => simp [Reading.consumed, fieldsThenComma]
  case h_6 | h_7 => simp [Reading.consumed, openTokens]
  case h_8 => simp [Reading.consumed, openTokens, itemsThenComma_append_singleton]
  case h_9 => simp [Reading.consumed, openTokens, tokens_array_append]
  case h_10 => simp [Reading.consumed, openTokens, fieldsThenComma_append_singleton]
  case h_11 => simp [Reading.consumed, openTokens, tokens_object_append]

lemma consumed_run? (h : r.run? ts = some r') : r'.consumed = r.consumed ++ ts := by
  induction ts generalizing r with
  | nil =>
    cases h
    exact (List.append_nil _).symm
  | cons t ts ih =>
    rw [Reading.run?] at h
    split at h
    · next hstep =>
      rw [ih h, consumed_step? hstep, List.append_assoc, List.singleton_append]
    · cases h

/-! ### The tokens of every value are accepted -/

lemma run?_cons (h : r.step? t = some r') : r.run? (t :: ts) = r'.run? ts := by
  rw [Reading.run?, h]

/-- A value does not start with the end of an array. -/
lemma run?_firstItem (v : Value) :
    (Reading.firstItem stack).run? (v.tokens ++ rest) =
      (Reading.value (.items [] :: stack)).run? (v.tokens ++ rest) := by
  cases v with
  | null | bool | number | string => rfl
  | array vs => cases vs <;> rfl
  | object fs => cases fs <;> rfl

mutual

/-- The tokens of a value lead from its place to the place behind it. -/
lemma run?_tokens (v : Value) (stack : List Frame) (rest : List Token) :
    (Reading.value stack).run? (v.tokens ++ rest) = (Reading.complete v stack).run? rest := by
  match v with
  | null | bool _ | number _ | string _ => rfl
  | array [] => rfl
  | array (v :: vs) =>
    rw [tokens, List.append_assoc, List.append_assoc, List.cons_append, run?_cons rfl,
      run?_firstItem, run?_tokens v, List.singleton_append, run?_moreItems vs]
    rfl
  | object [] => rfl
  | object ((k, v) :: fs) =>
    rw [tokens, List.append_assoc, List.append_assoc, List.cons_append, List.cons_append,
      List.cons_append, run?_cons rfl, run?_cons rfl, run?_cons rfl, run?_tokens v,
      List.singleton_append, run?_moreFields fs]
    rfl

lemma run?_moreItems (vs : List Value) (v : Value) (done : List Value) (stack : List Frame)
    (rest : List Token) :
    (Reading.complete v (.items done :: stack)).run? (moreItems vs ++ .closeArray :: rest) =
      (Reading.complete (array ((v :: done).reverse ++ vs)) stack).run? rest := by
  match vs with
  | [] => rw [moreItems, List.nil_append, List.append_nil, run?_cons rfl]
  | w :: vs =>
    rw [moreItems, List.append_assoc, List.cons_append, run?_cons rfl, run?_tokens w,
      run?_moreItems vs, List.reverse_cons, List.append_assoc, List.singleton_append]

lemma run?_moreFields (fs : List (Content × Value)) (k : Content) (v : Value) (done : List Field)
    (stack : List Frame) (rest : List Token) :
    (Reading.complete v (.fields done k :: stack)).run? (moreFields fs ++ .closeObject :: rest) =
      (Reading.complete (object (((k, v) :: done).reverse ++ fs)) stack).run? rest := by
  match fs with
  | [] => rw [moreFields, List.nil_append, List.append_nil, run?_cons rfl]
  | (l, w) :: fs =>
    rw [moreFields, List.append_assoc, List.cons_append, List.cons_append, List.cons_append,
      run?_cons rfl, run?_cons rfl, run?_cons rfl, run?_tokens w, run?_moreFields fs,
      List.reverse_cons, List.append_assoc, List.singleton_append]

end

/-- A list of tokens spells a value when it is the list of its tokens. -/
theorem ofTokens?_eq_some_iff : ofTokens? ts = some v ↔ v.tokens = ts := by
  constructor
  · intro h
    unfold ofTokens? at h
    split at h
    · next hrun =>
      cases h
      exact consumed_run? hrun
    · cases h
  · rintro rfl
    have hrun := run?_tokens v [] []
    rw [List.append_nil] at hrun
    rw [ofTokens?, hrun, Reading.run?]

/-- A text spells a value when it has the tokens of the value. -/
theorem ofChars?_eq_some_iff {cs : List Char} :
    ofChars? cs = some v ↔ tokens? cs = some v.tokens := by
  unfold ofChars?
  split
  · next ts hts => rw [ofTokens?_eq_some_iff, hts, Option.some_inj, eq_comm]
  · next hnone => simp [hnone]

end ShardedIndex.Json.Value
