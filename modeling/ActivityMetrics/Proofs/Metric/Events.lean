import ActivityMetrics.Proofs.Metric.Answers
import ActivityMetrics.Proofs.Query.Slots
import ActivityMetrics.Proofs.Warehouse.Load
import Mathlib.Data.List.Basic

/-!
# The events that a metric counts

A metric counts an event under a filter when the event has a match. Of the match itself only the
records matter that links lead to, so an event is counted exactly when it lies in the window and all
links and conditions hold of some records (`Count.counts_iff`). Commits and opened issues have
numbers of their own, so their total is the number of events that are counted
(`Count.total_eq_countP`).

A statement lists matches, and a match is an event with other records beside it. One event may have
many matches: a person with two enrolments at the time is joined twice. So a total is not the number
of matches, and it is not at once a number of events either, since what the statement counts are the
different values of a column. That the two agree takes two facts, that an event has one number and
that different events have different ones. The second is no fact about statements. It holds because
the numbers are keys of their tables, and it is why the warehouse has to be one that was loaded.

With totals as numbers of events, sums over parts of the events are plain: an event is in one part
or in another. The theorems on companies, repositories, exclusions and windows are all proved here
first, for one event.
-/

namespace ActivityMetrics

/-- The number of the record of an event. Only within one table does it tell records apart. -/
def EventRecord.number : EventRecord → Int
  | .commit c => c.id
  | .issue i => i.id
  | .change c => c.id

/-! ## What a filter leaves out

An exclusion is a subquery that looks for a raw actor. What it looks for is written here as a
statement about the records of the warehouse. -/

namespace Condition

variable {w : Warehouse} {actor : Option Int} {instant : String} {names uuids : List String}

/-- A raw actor acts as one of some people if a link says so. A missing actor and one without a link
act as nobody. -/
theorem actsAsOne_iff :
    actsAsOne w uuids actor ↔ ∃ i ∈ w.identities, some i.id = actor ∧ i.uuid ∈ uuids := by
  simp only [actsAsOne, List.any_eq_true, Bool.and_eq_true, beq_iff_eq, List.contains_iff_mem]

/-- A raw actor belongs to one of some organizations if the person behind it has an enrolment in it
that covers the instant. -/
theorem belongsToOne_iff :
    belongsToOne w names actor instant ↔
      ∃ i ∈ w.identities, some i.id = actor ∧ ∃ n ∈ w.enrollments,
        (n.uuid = i.uuid ∧ n.kind = .organization ∧ n.covers instant) ∧
          ∃ o ∈ w.organizations, o.id = n.target ∧ o.name ∈ names := by
  simp only [belongsToOne, List.any_eq_true, Bool.and_eq_true, beq_iff_eq, List.contains_iff_mem,
    and_assoc]

end Condition

namespace Filter

variable {f : Filter} {w : Warehouse} {e : Event} {r : EventRecord}

/-- The exclusions of a filter do not concern an event. This depends on the event alone and not on
the match, as the subqueries of exclusions bring their own records. -/
structure Spares (f : Filter) (w : Warehouse) (e : Event) (r : EventRecord) : Prop where
  /-- Nobody who is left out acted. -/
  actors : ¬ Condition.actsAsOne w f.excludedActors (e.actorOf r)
  /-- No member of an organization that is left out acted. -/
  organizations : ¬ Condition.belongsToOne w f.excludedOrganizations (e.actorOf r) r.date

/-- The exclusions of a filter hold of a match exactly when its event is spared. A filter without
anyone to leave out has no condition at all, and then every event is spared. -/
theorem forall_exclusions_iff {m : Match} :
    (∀ p ∈ f.exclusions, p.holds w e m) ↔ f.Spares w e m.record := by
  have nobody : ¬ Condition.actsAsOne w [] (e.actorOf m.record) := by
    simp [Condition.actsAsOne_iff]
  have nowhere : ¬ Condition.belongsToOne w [] (e.actorOf m.record) m.record.date := by
    simp [Condition.belongsToOne_iff]
  have actors : (∀ p ∈ (actorExclusion f.excludedActors).toList.flatMap (·.predicates),
      p.holds w e m) ↔ ¬ Condition.actsAsOne w f.excludedActors (e.actorOf m.record) := by
    unfold actorExclusion
    cases f.excludedActors <;> simp [Fragments.ofPredicate, Condition.holds, nobody]
  have organizations : (∀ p ∈ (organizationExclusion f.excludedOrganizations).toList.flatMap
      (·.predicates), p.holds w e m) ↔
        ¬ Condition.belongsToOne w f.excludedOrganizations (e.actorOf m.record) m.record.date := by
    unfold organizationExclusion
    cases f.excludedOrganizations <;> simp [Fragments.ofPredicate, Condition.holds, nowhere]
  rw [exclusions, List.flatMap_append, List.forall_mem_append, actors, organizations]
  exact ⟨fun h => ⟨h.1, h.2⟩, fun h => ⟨h.actors, h.organizations⟩⟩

/-- An exclusion reads no record that a link leads to. -/
theorem reads_of_mem_exclusions {p : Condition} (h : p ∈ f.exclusions) : p.reads = none := by
  rcases eq_of_mem_exclusions h with rfl | rfl <;> rfl

end Filter

/-- What binds a dimension reads the issue, or a record that a link of the dimension leads to. -/
theorem Dimension.slot_of_reads_condition {w : Warehouse} {source : Source} {v : String} {s : Slot}
    (d : Dimension) (h : (d.condition w source v).reads = some s) :
    s = .issue ∨ s ∈ (d.links source).map Link.slot := by
  cases d <;> cases h <;> simp [links, links.membership, Link.slot]

/-! ## Events and their matches

The matches of an event are what makes it count, and one is enough. This section says what it takes
for one to exist. -/

namespace Count

/-- The events of a metric. Repositories and people are counted by their commits or changes, so they
share events with other metrics. -/
def event : Count → Event
  | .commits | .authors | .repositories => .commits
  | .committers => .commitsByCommitter
  | .opened | .openers => .issues
  | .closed | .closers => .changes

variable {c : Count} {w : Warehouse} {f : Filter} {group : Option Dimension} {r : EventRecord}
variable {m : Match}

/-- A query is over the events of its metric, whatever the filter. -/
@[simp]
theorem event_query (c : Count) (w : Warehouse) (f : Filter) (group : Option Dimension) :
    (c.query w f group).event = c.event := by
  cases c <;> rfl

/-- An event has a match under a filter. It is said of the query without a breakdown: to break down
joins more, and an event without an item would be lost. -/
def Counts (c : Count) (w : Warehouse) (f : Filter) (r : EventRecord) : Prop :=
  ∃ m ∈ (c.query w f none).matchesIn w, m.record = r

instance : Decidable (c.Counts w f r) :=
  inferInstanceAs (Decidable (∃ _ ∈ _, _))

/-- The conditions of a query are those of the metric, one for every dimension that is bound, and
the exclusions. -/
theorem forall_predicates_iff :
    (∀ p ∈ (c.query w f group).clauses.predicates, p.holds w c.event m) ↔
      (∀ p ∈ (c.definition f).base.predicates, p.holds w c.event m) ∧
        (∀ b ∈ f.bindings, (b.1.condition w c.source b.2).holds w c.event m) ∧
          f.Spares w c.event m.record := by
  rw [← Filter.forall_exclusions_iff]
  simp only [mem_predicates_query, or_imp, forall_and, forall_exists_index, and_imp]
  exact and_congr_right fun _ => and_congr_left fun _ =>
    ⟨fun h b hb => h _ b hb rfl, fun h _ b hb same => same ▸ h b hb⟩

/-- **Every condition of a query finds the record that it reads.** The condition of a binding reads
what the links of its dimension lead to, and these are joined with it. So a condition never fails
for the reason that its record was not looked for. -/
theorem supported_query (c : Count) (w : Warehouse) (f : Filter) :
    (c.query w f group).clauses.Supported := by
  intro p hp s reads
  rcases mem_predicates_query.1 hp with base | ⟨b, hb, rfl⟩ | excluded
  · cases c with
    | closed | closers =>
      rw [List.mem_singleton.1 base] at reads
      cases reads
    | commits | authors | committers | repositories | opened | openers => cases base
  · have own : s = .issue ∨ s ∈ (b.1.links c.source).map Link.slot :=
      b.1.slot_of_reads_condition reads
    refine own.imp_right fun linked => ?_
    obtain ⟨l, hl, rfl⟩ := List.mem_map.1 linked
    exact List.mem_map.2 ⟨l, mem_joins_query.2 (.inr (.inl ⟨b, hb, hl⟩)), rfl⟩
  · rw [Filter.reads_of_mem_exclusions excluded] at reads
    cases reads

/-- The metrics of changes look for the issue. -/
theorem issue_mem_joins_or (c : Count) (w : Warehouse) (f : Filter) :
    Link.issue ∈ (c.query w f group).clauses.joins ∨ ∀ x, .change x ∉ c.event.records w := by
  cases c with
  | closed | closers => exact .inl (mem_joins_query.2 (.inl List.mem_cons_self))
  | commits | authors | committers | repositories | opened | openers =>
    exact .inr fun x => by simp [event, Event.records]

/-- **A metric counts an event** exactly when it lies in the window, and all links and conditions
hold of some records. The records are those of one match and have to serve all links and conditions
together. How the statement finds them, in which order and how often, has no part in this. -/
theorem counts_iff :
    c.Counts w f r ↔
      (r ∈ c.event.records w ∧ f.start.text ≤ r.date ∧ r.date < f.stop.text) ∧
        ∃ m : Match, m.record = r ∧
          (∀ l ∈ (c.query w f none).clauses.joins, l.Holds w c.event m) ∧
            ∀ p ∈ (c.query w f none).clauses.predicates, p.holds w c.event m := by
  unfold Counts Query.matchesIn
  rw [event_query]
  exact Clauses.exists_mem_matchesIn_iff (c.chain_query w f none) (c.supported_query w f)
    (c.issue_mem_joins_or w f)

/-! ## Totals

A total is the number of distinct values of what is counted. It is compared with the number of
events, for the metrics for which this is the same. -/

/-- The number of distinct values among the matches, which is what a statement without a breakdown
answers. -/
def total (c : Count) (w : Warehouse) (f : Filter) : Nat :=
  (c.query w f none).counted.count ((c.query w f none).matchesIn w)

/-- The answer to a filter is a number. With the number as a parameter this says at once that there
is an answer. -/
def Answers (c : Count) (w : Warehouse) (f : Filter) (n : Nat) : Prop :=
  ∃ a, c.aggregate w f = .ok a ∧ a.scalar? c.id = some (.int n)

/-- Where the statement is accepted, the answer is the total. -/
theorem answers_total (hg : f.group? = none) (h : (c.query w f none).Admitted .aggregate) :
    c.Answers w f (c.total w f) :=
  ⟨_, aggregate_eq hg h, Answer.scalar?_of_get? (Answer.get?_insert_self _ _ _)⟩

/-- Where the answer is a failure, no number is the answer. -/
theorem not_answers_of_error {e : Failure} {n : Nat} (h : c.aggregate w f = .error e) :
    ¬ c.Answers w f n := by
  rintro ⟨a, answered, _⟩
  rw [h] at answered
  cases answered

/-- The metric counts its events by their own numbers. People and repositories are counted by names,
of which many events have the same, and closed issues by the issue and not by the change, of which
an issue may have several. -/
def CountsNumbers (c : Count) : Prop :=
  c = .commits ∨ c = .opened

/-- Different events of such a metric have different numbers. -/
theorem nodup_numbers (keyed : w.Keyed) (hc : c.CountsNumbers) :
    ((c.event.records w).map EventRecord.number).Nodup := by
  rcases hc with rfl | rfl
  · simpa [event, Event.records, Function.comp_def, EventRecord.number] using keyed.commits
  · simpa [event, Event.records, Function.comp_def, EventRecord.number] using keyed.issues

/-- What is counted of a match is the number of its event. -/
theorem valueOf_eq_number (hc : c.CountsNumbers) (h : m.record ∈ c.event.records w) :
    (c.query w f none).counted.valueOf m = some (.number m.record.number) := by
  rcases hc with rfl | rfl
  · obtain ⟨x, _, record⟩ := List.mem_map.1 h
    show Counted.valueOf .commit m = _
    unfold Counted.valueOf
    rw [← record]
    rfl
  · obtain ⟨x, _, record⟩ := List.mem_map.1 h
    show Counted.valueOf .issue m = _
    unfold Counted.valueOf
    rw [← record]
    rfl

/-- **The total is the number of events that are counted.** The values among the matches are the
numbers of the events that have a match, and no two of these are the same. -/
theorem total_eq_countP (keyed : w.Keyed) (hc : c.CountsNumbers) :
    c.total w f = (c.event.records w).countP fun r => c.Counts w f r := by
  have values : ∀ v, v ∈ ((c.query w f none).matchesIn w).filterMap
      (c.query w f none).counted.valueOf ↔
        v ∈ ((c.event.records w).filter fun r => c.Counts w f r).map (.number ·.number) := by
    intro v
    simp only [List.mem_filterMap, List.mem_map, List.mem_filter, decide_eq_true_eq]
    constructor
    · rintro ⟨m, hm, value⟩
      have known : m.record ∈ c.event.records w := (counts_iff.1 ⟨m, hm, rfl⟩).1.1
      rw [valueOf_eq_number hc known] at value
      exact ⟨m.record, ⟨known, m, hm, rfl⟩, Option.some.inj value⟩
    · rintro ⟨r, ⟨known, m, hm, rfl⟩, rfl⟩
      exact ⟨m, hm, valueOf_eq_number hc known⟩
  -- as the list of events has no number twice, neither has the part that is counted
  have apart : (((c.event.records w).filter fun r => c.Counts w f r).map
      (MatchValue.number ·.number)).Nodup := by
    have numbers := (nodup_numbers keyed hc).sublist
      (List.filter_sublist (p := fun r => c.Counts w f r).map EventRecord.number)
    have values := numbers.map fun _ _ same => MatchValue.number.inj same
    rwa [List.map_map] at values
  rw [total, Counted.count, length_eraseDups_congr values, eraseDups_eq_self apart,
    List.length_map, List.countP_eq_length_filter]

end Count

end ActivityMetrics
