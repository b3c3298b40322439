import ActivityMetrics.Query.Statement

/-!
# What a statement is compiled to

A statement is compiled when it has a value and its items have an expression; nothing else is
refused (`Statement.compile_eq_ok_iff`). Its text is then a heading that says what is selected and
from where, the window with the predicates, an ending that groups and orders, and perhaps a limit.

The text is cut into these four parts because they depend on different things. Only the second part
depends on what a filter asks for, and only the second and the last one have marks. So what is said
about the marks of a statement, or about its text under other values, is said about a part of it
that is small.
-/

namespace ActivityMetrics

namespace Statement

variable {s : Statement} {mode : Mode} {q : CompiledStatement}

/-- Texts with a separator are the first of them, and the others with the separator in front. -/
theorem listed_cons (sep t : String) (ts : List String) :
    listed sep (t :: ts) = t ++ String.join (ts.map (sep ++ ·)) := by
  unfold listed
  induction ts generalizing t with
  | nil => simp
  | cons u us ih =>
    rw [String.intercalate_cons_cons, ih, List.map_cons, String.join_cons, String.append_assoc,
      String.append_assoc]

/-- The limit that a statement states: that of a total by item. A series has all of its items, and a
total without items has a single row. -/
def statedLimit (s : Statement) (mode : Mode) : Option Nat :=
  if mode = .aggregate ∧ s.grouping.isSome then s.limit else none

/-- A limit is stated by a total by item that has one. -/
theorem isSome_statedLimit_iff :
    (s.statedLimit mode).isSome ↔ mode = .aggregate ∧ s.grouping.isSome ∧ s.limit.isSome := by
  rw [← and_assoc, statedLimit]
  split
  · rename_i ranked
    exact (and_iff_right ranked).symm
  · rename_i plain
    exact iff_of_false Bool.false_ne_true fun h => plain h.1

/-- What stands before the window: what is selected, and from where. -/
def heading (s : Statement) (mode : Mode) (key : Option (String × String)) : String :=
  "SELECT " ++ listed ", " (s.selected mode key) ++ " FROM " ++ s.table
    ++ String.join (s.fragments.joins.map fun j => " " ++ j.text) ++ " WHERE "

/-- What stands between the predicates and the limit: the groups and the order. -/
def ending (s : Statement) (mode : Mode) (key : Option (String × String)) : String :=
  clause " GROUP BY " ", " (s.grouped mode key) ++ clause " ORDER BY " ", " (s.ordered mode key)

/-- A statement as it is sent, if its items have this name and this expression. The parameters are
in the order of their marks: the window, the predicates and the limit. -/
def composed (s : Statement) (mode : Mode) (key : Option (String × String)) :
    CompiledStatement where
  text :=
    s.heading mode key ++ listed " AND " s.required ++ s.ending mode key
      ++ (s.statedLimit mode).elim "" fun _ => " LIMIT ?"
  params :=
    [.ofDate s.start, .ofDate s.stop] ++ s.fragments.predicates.flatMap (·.params)
      ++ (s.statedLimit mode).toList.map fun n => .integer n

/-- The limit that a statement is cut by is the one that it states. -/
theorem cut_eq_statedLimit {key : Option (String × String)} (hk : s.key? = .ok key) :
    s.cut mode key = s.statedLimit mode := by
  have present : key.isSome = s.grouping.isSome := by
    rw [key?] at hk
    split at hk <;> cases hk
    all_goals
      rename_i grouping
      rw [grouping]
      rfl
  unfold cut statedLimit
  rw [← present]
  cases mode <;> cases key <;> rfl

/-- A statement whose items have an expression is compiled to the one composed of its parts. -/
theorem compile_of_key {key : Option (String × String)} (value : s.fields ≠ [])
    (hk : s.key? = .ok key) : s.compile mode = .ok (s.composed mode key) := by
  have some_value : ¬ s.fields.isEmpty := fun empty => value (List.isEmpty_iff.1 empty)
  rw [compile, if_neg some_value, hk]
  dsimp only
  rw [cut_eq_statedLimit hk]
  simp only [composed, heading, ending, String.append_assoc]
  rfl

/-- A statement whose items have no expression is refused for that. -/
theorem compile_of_no_key {e : Failure} (value : s.fields ≠ []) (hk : s.key? = .error e) :
    s.compile mode = .error e := by
  have some_value : ¬ s.fields.isEmpty := fun empty => value (List.isEmpty_iff.1 empty)
  rw [compile, if_neg some_value, hk]

/-- **A statement is compiled** if it has a value and its items have an expression, and nothing else
is refused. It is then compiled to the one composed of its parts. -/
theorem compile_eq_ok_iff :
    s.compile mode = .ok q ↔
      s.fields ≠ [] ∧ ∃ key, s.key? = .ok key ∧ s.composed mode key = q := by
  constructor
  · intro h
    have value : s.fields ≠ [] := by
      intro empty
      rw [compile, empty] at h
      cases h
    cases hk : s.key? with
    | ok key => exact ⟨value, key, rfl, Except.ok.inj ((compile_of_key value hk).symm.trans h)⟩
    | error e =>
      rw [compile, hk] at h
      split at h <;> cases h
  · rintro ⟨value, key, hk, rfl⟩
    exact compile_of_key value hk

/-- **The text of a statement** depends on its predicates only through their texts. Their parameters
are sent beside it. -/
theorem text_composed_congr {s' : Statement} {ps : List Predicate}
    (same : s' = { s with fragments := ⟨s.fragments.joins, ps⟩ })
    (texts : ps.map (·.text) = s.fragments.predicates.map (·.text))
    (key : Option (String × String)) :
    (s'.composed mode key).text = (s.composed mode key).text := by
  have brackets : ps.map (fun p => "(" ++ p.text ++ ")")
      = s.fragments.predicates.map fun p => "(" ++ p.text ++ ")" := by
    have bracket : (fun p : Predicate => "(" ++ p.text ++ ")")
        = (fun t => "(" ++ t ++ ")") ∘ Predicate.text := rfl
    rw [bracket, ← List.map_map, texts, List.map_map]
  have required : s'.required = s.required := by
    rw [same]
    exact congrArg (_ ++ ·) brackets
  simp only [composed, required]
  rw [same]
  rfl

/-- A statement is compiled exactly if it has a value and, if it has items, an expression for
them. -/
theorem exists_compile_iff :
    (∃ q, s.compile mode = .ok q) ↔ s.fields ≠ [] ∧ ∀ d, s.grouping ≠ some (d, none) := by
  have named : (∃ key, s.key? = .ok key) ↔ ∀ d, s.grouping ≠ some (d, none) := by
    unfold key?
    rcases s.grouping with _ | ⟨d, _ | key⟩ <;> simp
  rw [← named]
  constructor
  · rintro ⟨q, h⟩
    obtain ⟨value, key, hk, _⟩ := compile_eq_ok_iff.1 h
    exact ⟨value, key, hk⟩
  · rintro ⟨value, key, hk⟩
    exact ⟨_, compile_of_key value hk⟩

end Statement

end ActivityMetrics
