import ActivityMetrics.Proofs.Metric.Answers
import ActivityMetrics.Proofs.Metric.Timely
import ActivityMetrics.Proofs.Query.Marks

/-!
# Marks in the statement of a metric

The statement of a query has marks in its predicates only, beside those of the window and of the
limit, and its predicates are balanced. So its marks and its parameters line up
(`Statement.marks_line_up`).

A statement is a text with marks, and its parameters are a list: the database gives the first value
to the first mark. Nothing in the text says which value a mark is meant for, so a mark too many in
any part would shift all values behind it, and the statement would still be one. The parts are
written by different functions, some of which add values and others do not. It has to be seen of
each part that it adds as many values as it has marks, and in the order of its marks; that a part
without values has no mark is a fact about its text, whatever names are in it.

The theorem is about any statement that is put together from such parts (`Statement.WellMarked`),
and the statements of metrics are shown to be among these.
-/

namespace ActivityMetrics

/-- The statement of a query has no marks of its own. Tables, links, columns and keys are written in
a fixed wording for each of their kinds, without a mark in any of them, and every condition brings a
value for each of its marks. -/
theorem Query.wellMarked_statement {q : Query} (name : marksIn q.name = 0) :
    q.statement.WellMarked where
  table := by
    show marksIn q.event.table = 0
    cases q.event <;> rfl
  joins := by
    intro j hj
    obtain ⟨l, _, rfl⟩ := List.mem_map.1 hj
    exact l.marksIn_join q.event
  fields := by
    intro f hf
    rw [List.mem_singleton.1 hf]
    refine ⟨name, ?_⟩
    show marksIn q.counted.text = 0
    cases q.counted <;> rfl
  key := by
    intro d key grouping
    obtain ⟨d', _, same⟩ := Option.map_eq_some_iff.1 grouping
    obtain ⟨k, _, rfl⟩ := Option.map_eq_some_iff.1 (congrArg Prod.snd same)
    cases k with
    | repository source => cases source <;> rfl
    | person => rfl
    | group kind => cases kind <;> rfl
  dateColumn := q.event.marksIn_columns.2.1
  predicates := by
    intro p hp
    obtain ⟨c, _, rfl⟩ := List.mem_map.1 hp
    exact c.balanced_predicate q.event

/-- The statement of a metric has no marks of its own. -/
theorem Count.wellMarked_query (c : Count) (w : Warehouse) (f : Filter) (group : Option Dimension) :
    (c.query w f group).statement.WellMarked := by
  refine Query.wellMarked_statement ?_
  rw [name_query]
  cases c <;> rfl

namespace Statement

/-- **The marks of a statement are those of its parameters**, in the same order: the two bounds of
the window, the predicates, and the limit of a ranking. This holds of every statement without marks
outside its balanced predicates, and so of every counting metric under every filter.

The first part says also when a statement is compiled, as it would hold of nothing if none were:
there has to be something to select, and a breakdown has to have a key. For a metric both are given,
but for a breakdown by project. -/
theorem marks_line_up :
    (∀ (s : Statement) (mode : Mode), s.WellMarked →
      ((∃ q, s.compile mode = .ok q) ↔ s.fields ≠ [] ∧ ∀ d, s.grouping ≠ some (d, none)) ∧
      ∀ q, s.compile mode = .ok q → q.LinesUp s mode) ∧
    ∀ (c : Count) (w : Warehouse) (f : Filter) (group : Option Dimension) (mode : Mode),
      (∀ d ∈ group, (d.key? c.source).isSome) →
        ∃ q, (c.query w f group).statement.compile mode = .ok q ∧
          q.LinesUp (c.query w f group).statement mode := by
  refine ⟨fun s mode h => ⟨exists_compile_iff, fun q hq => h.linesUp hq⟩, ?_⟩
  intro c w f group mode keyed
  have compiled : ∃ q, (c.query w f group).statement.compile mode = .ok q :=
    Query.exists_compile_of_keyed keyed mode
  obtain ⟨q, hq⟩ := compiled
  exact ⟨q, hq, (c.wellMarked_query w f group).linesUp hq⟩

/-- The trackers with the most new and open issues of January 2025 that nobody works on. -/
def unassigned : Statement where
  source := .its
  table := "its_issues i"
  fields := [⟨"issues", "COUNT(*)"⟩]
  fragments :=
    ⟨[⟨"its_trackers t", "t.id = i.tracker_id"⟩],
      [.plain "i.assignee IS NULL", .oneOf "i.status" [.text "NEW", .text "OPEN"]]⟩
  dateColumn := "i.submitted_on"
  start := (Filter.january (.bound [])).start
  stop := (Filter.january (.bound [])).stop
  period := .month
  grouping := some (.repository, some "t.url")
  limit := some 3

/-- The three people with the most commits of January 2025 in a project, two others left out. -/
def busiest : Statement :=
  (Count.commits.query .empty
    { Filter.january (.bound [(.project, "core")]) with
      limit := some 3
      excludedActors := ["bot", "mirror"] } (some .person)).statement

/-- Beside the window and the limit, one statement has the marks of two states, and the other one
those of a source, a project and two people. -/
theorem marks_line_up_busiest :
    unassigned.WellMarked ∧
    (∃ q, unassigned.compile .aggregate = .ok q ∧ q.LinesUp unassigned .aggregate ∧
      marksIn q.text = 5) ∧
    ∃ q, busiest.compile .aggregate = .ok q ∧ q.LinesUp busiest .aggregate ∧
      marksIn q.text = 7 := by
  have wellMarked : unassigned.WellMarked := {
    table := rfl
    joins := by decide
    fields := by decide
    key := by
      rintro d key ⟨⟩
      rfl
    dateColumn := rfl
    predicates := by
      refine List.forall_mem_cons.2 ⟨?_, List.forall_mem_singleton.2 ?_⟩
      · exact show marksIn "i.assignee IS NULL" = 0 by decide
      · exact show marksIn "i.status IN (?, ?)" = 2 by decide }
  obtain ⟨general, counting⟩ := marks_line_up
  obtain ⟨compiled, linesUp⟩ := general unassigned .aggregate wellMarked
  obtain ⟨q, hq⟩ := compiled.2 ⟨List.cons_ne_nil _ _, fun d => nofun⟩
  have lines := linesUp q hq
  obtain ⟨q', hq', lines'⟩ := counting .commits .empty _ (some .person) .aggregate
    (by rintro d ⟨⟩; rfl)
  refine ⟨wellMarked, ⟨q, hq, lines, ?_⟩, q', hq', lines', ?_⟩
  · rw [lines.marks, lines.params]
    rfl
  · rw [lines'.marks, lines'.params]
    decide +kernel

end Statement

end ActivityMetrics
