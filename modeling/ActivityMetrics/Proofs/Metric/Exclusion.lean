import ActivityMetrics.Proofs.Metric.Binding
import ActivityMetrics.Proofs.Metric.SeriesCut
import Mathlib.Algebra.BigOperators.Group.List.Basic
import Mathlib.Algebra.Group.Action.Defs

/-!
# Leaving out is the complement of selecting

An event is selected by an organization or a person through links, and left out by a condition that
looks the memberships up on its own. Both follow the one link that the raw actor has, and the
memberships at the time of the event, so they decide every event alike: what is left out is what
would be selected (`Count.exclusion_complements_selection`). For commits and opened issues the two
totals add up to the total of the filter.

That the two are complements is not clear from how they are written. Selecting joins the identity of
the actor, and an event without one has no match. Leaving out must not do this: with a join, an
event of an unknown actor would be lost with those who are left out, although nobody that is left
out did it. So an exclusion is the negation of a subquery, and an event that the subquery finds
nothing for is kept. The statements about events of nobody and of people without an organization are
there to fix this reading.

Three conditions carry the proof. A raw actor has one link, or else the link that selects and the
link that excludes could be different ones. No company is bound yet, since a second company is
joined to the same membership. And events are counted by their own numbers where totals are added:
authors who committed inside and outside of an organization are counted on both sides.

A filter with an exclusion has more marks and deeper conditions than the filter alone, so the
database may refuse it where the filter is accepted (`Count.exclusion_beyond_depth_refused`).
-/

namespace ActivityMetrics

/-- The person behind a raw actor, if there is one, is in no organization at an instant. This
includes actors whom nobody is behind. -/
def Warehouse.OutsideOrganizations (w : Warehouse) (actor : Option Int) (instant : String) : Prop :=
  ∀ i ∈ w.identities, some i.id = actor → ∀ n ∈ w.enrollments, n.uuid = i.uuid →
    n.kind = .organization → ¬ n.covers instant

/-! ## More exclusions

Exclusions are added to those that a filter has. So the theorem is about any filter, and in
particular about one that leaves out people and organizations already. -/

namespace Filter

variable {f : Filter} {w : Warehouse} {e : Event} {r : EventRecord}

/-- The filter that leaves out more people. -/
def withoutActors (f : Filter) (uuids : List String) : Filter :=
  { f with excludedActors := f.excludedActors ++ uuids }

/-- The filter that leaves out the members of more organizations. -/
def withoutOrganizations (f : Filter) (names : List String) : Filter :=
  { f with excludedOrganizations := f.excludedOrganizations ++ names }

/-- The exclusions spare an event if they did before and it is not by one of the people added. One
condition on a list of people is many on single ones. -/
theorem spares_withoutActors_iff {uuids : List String} :
    (f.withoutActors uuids).Spares w e r ↔
      f.Spares w e r ∧ ∀ u ∈ uuids, ¬ Condition.actsAsOne w [u] (e.actorOf r) := by
  constructor
  · intro h
    refine ⟨⟨fun acts => ?_, h.organizations⟩, fun u hu acts => ?_⟩
    all_goals
      obtain ⟨i, known, actor, among⟩ := Condition.actsAsOne_iff.1 acts
      refine h.actors (Condition.actsAsOne_iff.2 ⟨i, known, actor, ?_⟩)
    · exact List.mem_append_left _ among
    · exact List.mem_append_right _ (List.mem_singleton.1 among ▸ hu)
  · rintro ⟨h, others⟩
    refine ⟨fun acts => ?_, h.organizations⟩
    obtain ⟨i, known, actor, among⟩ := Condition.actsAsOne_iff.1 acts
    rcases List.mem_append.1 among with before | more
    · exact h.actors (Condition.actsAsOne_iff.2 ⟨i, known, actor, before⟩)
    · exact others _ more (Condition.actsAsOne_iff.2 ⟨i, known, actor, List.mem_singleton.2 rfl⟩)

/-- With more organizations left out, an event is spared if it was before, and if its actor belonged
to none of these when it happened. -/
theorem spares_withoutOrganizations_iff {names : List String} :
    (f.withoutOrganizations names).Spares w e r ↔
      f.Spares w e r ∧ ∀ n ∈ names, ¬ Condition.belongsToOne w [n] (e.actorOf r) r.date := by
  have parts : Condition.belongsToOne w (f.withoutOrganizations names).excludedOrganizations
        (e.actorOf r) r.date ↔
      Condition.belongsToOne w f.excludedOrganizations (e.actorOf r) r.date ∨
        ∃ n ∈ names, Condition.belongsToOne w [n] (e.actorOf r) r.date := by
    simp only [Condition.belongsToOne_iff_hasMember, withoutOrganizations, List.mem_append,
      List.mem_singleton, exists_eq_left, or_and_right, exists_or]
  constructor
  · intro h
    obtain ⟨before, more⟩ := not_or.1 (mt parts.2 h.organizations)
    exact ⟨⟨h.actors, before⟩, fun n hn belongs => more ⟨n, hn, belongs⟩⟩
  · rintro ⟨h, others⟩
    refine ⟨h.actors, fun belongs => ?_⟩
    rcases parts.1 belongs with before | ⟨n, hn, one⟩
    · exact h.organizations before
    · exact others n hn one

end Filter

namespace Count

variable {c : Count} {w : Warehouse} {f g : Filter} {r : EventRecord}
variable {d : Dimension} {v : String}

/-- Filters that bind the same dimensions look for the same records. If they differ in what they
leave out, then the events that are counted differ in this and in nothing else: the exclusions speak
of the event, and any match of it will do. -/
theorem counts_iff_of_spares {P : Prop} (closing : g.closingCondition = f.closingCondition)
    (bindings : g.bindings = f.bindings) (window : g.start = f.start ∧ g.stop = f.stop)
    (spares : g.Spares w c.event r ↔ f.Spares w c.event r ∧ P) :
    c.Counts w g r ↔ c.Counts w f r ∧ P := by
  have joins : ∀ l, l ∈ (c.query w g none).clauses.joins ↔
      l ∈ (c.query w f none).clauses.joins := fun l => by
    rw [mem_joins_query, mem_joins_query, definition_congr closing, bindings]
  simp only [counts_iff, joins, forall_predicates_iff, definition_congr closing, bindings,
    window.1, window.2]
  constructor
  · rintro ⟨inside, m, rfl, links, base, values, spared⟩
    obtain ⟨before, p⟩ := spares.1 spared
    exact ⟨⟨inside, m, rfl, links, base, values, before⟩, p⟩
  · rintro ⟨⟨inside, m, rfl, links, base, values, spared⟩, p⟩
    exact ⟨inside, m, rfl, links, base, values, spares.2 ⟨spared, p⟩⟩

/-- What is counted without some people is counted with them and not done by one of them. -/
theorem counts_withoutActors_iff {uuids : List String} :
    c.Counts w (f.withoutActors uuids) r ↔
      c.Counts w f r ∧ ∀ u ∈ uuids, ¬ Condition.actsAsOne w [u] (c.event.actorOf r) :=
  counts_iff_of_spares rfl rfl ⟨rfl, rfl⟩ Filter.spares_withoutActors_iff

/-- What is counted without some organizations is counted with them and not done by a member. -/
theorem counts_withoutOrganizations_iff {names : List String} :
    c.Counts w (f.withoutOrganizations names) r ↔
      c.Counts w f r ∧ ∀ n ∈ names, ¬ Condition.belongsToOne w [n] (c.event.actorOf r) r.date :=
  counts_iff_of_spares rfl rfl ⟨rfl, rfl⟩ Filter.spares_withoutOrganizations_iff

/-- **An organization selects an event** exactly when a member acted. -/
theorem counts_also_company_iff (keyed : w.Keyed) (free : ∀ b ∈ f.bindings, b.1 ≠ .company)
    {n : String} :
    c.Counts w (f.also .company n) r ↔
      c.Counts w f r ∧ Condition.belongsToOne w [n] (c.event.actorOf r) r.date := by
  rw [counts_also_affiliation_iff keyed rfl free, Condition.belongsToOne_singleton_iff]

/-! ## Totals

From here on events are numbers. The sum of two totals is the number of events on one side or on the
other, as no event is on both. -/

/-- **What is selected and what is left add up**, where events are counted by their numbers. -/
theorem total_also_add_total (keyed : w.Keyed) (hc : c.CountsNumbers)
    (apart : ∀ r, c.Counts w g r ↔ c.Counts w f r ∧ ¬ c.Counts w (f.also d v) r) :
    c.total w (f.also d v) + c.total w g = c.total w f := by
  have selected : ∀ r, c.Counts w (f.also d v) r ↔ c.Counts w f r ∧ c.Counts w (f.also d v) r :=
    fun _ => (and_iff_right_of_imp Counts.of_also).symm
  have split := List.countP_eq_countP_filter_add (c.event.records w) (c.Counts w f ·)
    (c.Counts w (f.also d v) ·)
  rw [List.countP_filter, List.countP_filter] at split
  rw [total_eq_countP keyed hc, total_eq_countP keyed hc, total_eq_countP keyed hc, split]
  congr 1
  · exact List.countP_congr fun r _ => by simpa using selected r
  · exact List.countP_congr fun r _ => by simpa using apart r

/-- Filters that count the same events have the same total. -/
theorem total_congr (keyed : w.Keyed) (hc : c.CountsNumbers)
    (same : ∀ r, c.Counts w f r ↔ c.Counts w g r) : c.total w f = c.total w g := by
  rw [total_eq_countP keyed hc, total_eq_countP keyed hc]
  exact List.countP_congr fun r _ => by simpa using same r

/-! ## The theorem

What is said of organizations and of people has the same form, and so it is a structure with the
dimension and the exclusion as parameters. -/

/-- Leaving out values of a dimension is the complement of selecting one of them. The first field is
about events, for every metric and any number of values; the second is about answers, where these
count events. -/
structure Complements (c : Count) (w : Warehouse) (f : Filter) (d : Dimension)
    (without : List String → Filter) : Prop where
  /-- An event is left exactly when no value selects it. -/
  events : ∀ values r, c.Counts w (without values) r ↔
    c.Counts w f r ∧ ∀ v ∈ values, ¬ c.Counts w (f.also d v) r
  /-- The answers add up, where events are counted by their numbers. -/
  answers : c.CountsNumbers → ∀ v, (c.query w f none).Admitted .aggregate →
    (c.query w (f.also d v) none).Admitted .aggregate →
    (c.query w (without [v]) none).Admitted .aggregate →
      ∃ selected left, c.Answers w (f.also d v) selected ∧ c.Answers w (without [v]) left ∧
        c.Answers w f (selected + left)

/-- Two filters count the same events, and have the same answers where events are counted by their
numbers. Their statements may differ, and each has to be accepted. -/
structure Agrees (c : Count) (w : Warehouse) (f g : Filter) : Prop where
  /-- The events are the same. -/
  events : ∀ r, c.Counts w f r ↔ c.Counts w g r
  /-- The answers are the same. -/
  answers : c.CountsNumbers → (c.query w f none).Admitted .aggregate →
    (c.query w g none).Admitted .aggregate → ∃ n, c.Answers w f n ∧ c.Answers w g n

/-- From events to answers: if the events are complementary, the totals add up. -/
theorem complements_of_events {without : List String → Filter} (keyed : w.Keyed)
    (hg : f.group? = none) (ungrouped : ∀ values, (without values).group? = none)
    (events : ∀ values r, c.Counts w (without values) r ↔
      c.Counts w f r ∧ ∀ v ∈ values, ¬ c.Counts w (f.also d v) r) :
    c.Complements w f d without := by
  refine ⟨events, fun hc v all selected left => ?_⟩
  have apart : ∀ r, c.Counts w (without [v]) r ↔
      c.Counts w f r ∧ ¬ c.Counts w (f.also d v) r := fun r => by
    rw [events, List.forall_mem_singleton]
  refine ⟨_, _, answers_total rfl selected, answers_total (ungrouped [v]) left, ?_⟩
  rw [total_also_add_total keyed hc apart]
  exact answers_total hg all

/-- From events to answers: if the events are the same, so are the totals. -/
theorem agrees_of_events (keyed : w.Keyed) (hf : f.group? = none) (hg : g.group? = none)
    (events : ∀ r, c.Counts w f r ↔ c.Counts w g r) : c.Agrees w f g := by
  refine ⟨events, fun hc accepted accepted' => ⟨_, answers_total hf accepted, ?_⟩⟩
  rw [total_congr keyed hc events]
  exact answers_total hg accepted'

/-- Organizations select and exclude by the same memberships. -/
theorem complements_company (keyed : w.Keyed) (hg : f.group? = none)
    (free : ∀ b ∈ f.bindings, b.1 ≠ .company) :
    c.Complements w f .company f.withoutOrganizations := by
  refine complements_of_events keyed hg (fun _ => hg) fun names r => ?_
  rw [counts_withoutOrganizations_iff]
  refine and_congr_right fun counted => forall₂_congr fun n _ => not_congr ?_
  rw [counts_also_company_iff keyed free, and_iff_right counted]

/-- People select and exclude by the same link. There is no condition on what is bound, since a
person who is bound twice is bound to the same link. -/
theorem complements_person (keyed : w.Keyed) (hg : f.group? = none) :
    c.Complements w f .person f.withoutActors := by
  refine complements_of_events keyed hg (fun _ => hg) fun uuids r => ?_
  rw [counts_withoutActors_iff]
  refine and_congr_right fun counted => forall₂_congr fun u _ => not_congr ?_
  rw [counts_also_person_iff keyed, and_iff_right counted]

/-- An event whose actor is in no organization is kept. No organization selects it, so none can
leave it out. -/
theorem counts_withoutOrganizations_iff_of_outside
    (outside : w.OutsideOrganizations (c.event.actorOf r) r.date) {names : List String} :
    c.Counts w (f.withoutOrganizations names) r ↔ c.Counts w f r := by
  rw [counts_withoutOrganizations_iff, and_iff_left]
  intro n _ belongs
  obtain ⟨i, known, actor, k, member, ⟨person, kind, during⟩, _⟩ :=
    Condition.belongsToOne_iff.1 belongs
  exact outside i known actor k member person kind during

/-- An event without an actor is kept, whoever is left out. -/
theorem counts_without_iff_of_nobody (nobody : c.event.actorOf r = none) {values : List String} :
    (c.Counts w (f.withoutOrganizations values) r ↔ c.Counts w f r) ∧
      (c.Counts w (f.withoutActors values) r ↔ c.Counts w f r) := by
  constructor
  · refine counts_withoutOrganizations_iff_of_outside fun i _ actor => ?_
    cases actor.trans nobody
  · rw [counts_withoutActors_iff, and_iff_left]
    intro u _ acts
    obtain ⟨i, _, actor, _⟩ := Condition.actsAsOne_iff.1 acts
    cases actor.trans nobody

/-- **Leaving out is the exact complement of selecting.** A filter that leaves out organizations
keeps the events that none of them selects, as long as no company is bound, and a filter that leaves
out people keeps those that none of them selects. The answers of commits and of opened issues add
up. The order of what is left out does not matter, nor do repeats. Events of nobody are kept, and
events of someone who is in no organization are kept by the exclusion of organizations. Statements
that are not accepted fail in the database.

Complement is meant event by event, not in the totals. From totals that add up it would not follow
that the right events were left out, and for metrics that count people they do not add up at all.
With the events fixed, the totals follow for those metrics that count them, and the last part says
that for these an answer is nothing but the number of events that are counted. -/
theorem exclusion_complements_selection (c : Count) {w : Warehouse} (reachable : w.Reachable)
    {f : Filter} (hg : f.group? = none) :
    ((∀ b ∈ f.bindings, b.1 ≠ .company) →
      c.Complements w f .company f.withoutOrganizations) ∧
    c.Complements w f .person f.withoutActors ∧
    (∀ values values' : List String, (∀ v, v ∈ values ↔ v ∈ values') →
      c.Agrees w (f.withoutOrganizations values) (f.withoutOrganizations values') ∧
        c.Agrees w (f.withoutActors values) (f.withoutActors values')) ∧
    (∀ values r, c.event.actorOf r = none →
      (c.Counts w (f.withoutOrganizations values) r ↔ c.Counts w f r) ∧
        (c.Counts w (f.withoutActors values) r ↔ c.Counts w f r)) ∧
    (∀ values r, w.OutsideOrganizations (c.event.actorOf r) r.date →
      (c.Counts w (f.withoutOrganizations values) r ↔ c.Counts w f r)) ∧
    ∀ g : Filter, g.group? = none →
      ((c.query w g none).Admitted .aggregate → c.CountsNumbers →
        c.Answers w g ((c.event.records w).countP fun r => c.Counts w g r)) ∧
      (¬ (c.query w g none).Admitted .aggregate →
        ∃ fault, c.aggregate w g = .error (.database fault)) := by
  have keyed := reachable.keyed
  refine ⟨complements_company keyed hg, complements_person keyed hg,
    fun values values' same => ⟨?_, ?_⟩, fun _ _ nobody => counts_without_iff_of_nobody nobody,
    fun _ _ outside => counts_withoutOrganizations_iff_of_outside outside,
    fun g ungrouped => ⟨fun accepted hc => ?_, aggregate_refused ungrouped⟩⟩
  · refine agrees_of_events keyed hg hg fun r => ?_
    simp only [counts_withoutOrganizations_iff, same]
  · refine agrees_of_events keyed hg hg fun r => ?_
    simp only [counts_withoutActors_iff, same]
  · rw [← total_eq_countP keyed hc]
    exact answers_total ungrouped accepted

end Count

/-! ## A member, before and after

Two commits of one person, of whom only the second was a member at the time, show that the
membership is read at the time of the event. -/

/-- A commit of Ada before she joined the guild, one after it, and one of nobody. -/
def Warehouse.joiner : Warehouse :=
  .load .empty
    [.addIdentity 1 .scm "ada" "Ada",
      .addEnrollment "ada" .organization "guild" (some "2025-01-10") none,
      .nameRepository "core" none,
      .insertCommit "r1" 1 (some 1) none "2025-01-05",
      .insertCommit "r2" 1 (some 1) none "2025-01-20",
      .insertCommit "r3" 1 none none "2025-01-20 12:00:00"]

namespace Count

/-- In the month in which Ada joins the guild, her commit as a member and the two others are all
commits. -/
theorem exclusion_complements_selection_joiner :
    (∃ selected left,
      commits.Answers .joiner ((Filter.january (.bound [])).also .company "guild") selected ∧
      commits.Answers .joiner ((Filter.january (.bound [])).withoutOrganizations ["guild"]) left ∧
      commits.Answers .joiner (.january (.bound [])) (selected + left)) ∧
    commits.Answers .joiner ((Filter.january (.bound [])).also .company "guild") 1 ∧
    commits.Answers .joiner ((Filter.january (.bound [])).withoutOrganizations ["guild"]) 2 := by
  have ungrouped : (Filter.january (.bound [])).group? = none := rfl
  have free : ∀ b ∈ (Filter.january (.bound [])).bindings, b.1 ≠ .company := nofun
  have whole : (commits.query .joiner (.january (.bound [])) none).Admitted .aggregate := by decide
  have member : (commits.query .joiner ((Filter.january (.bound [])).also .company "guild")
      none).Admitted .aggregate := by decide
  have others : (commits.query .joiner ((Filter.january (.bound [])).withoutOrganizations ["guild"])
      none).Admitted .aggregate := by decide
  obtain ⟨company, _, _, _, _, numbers⟩ :=
    commits.exclusion_complements_selection (w := .joiner) ⟨_, rfl⟩ ungrouped
  refine ⟨(company free).answers (.inl rfl) "guild" whole member others, ?_, ?_⟩
  · have one : (commits.event.records .joiner).countP
        (fun r => commits.Counts .joiner ((Filter.january (.bound [])).also .company "guild") r)
          = 1 := by decide
    exact one ▸ (numbers _ rfl).1 member (.inl rfl)
  · have two : (commits.event.records .joiner).countP (fun r => commits.Counts .joiner
        ((Filter.january (.bound [])).withoutOrganizations ["guild"]) r) = 2 := by decide
    exact two ▸ (numbers _ rfl).1 others (.inl rfl)

/-! ## A condition too deep

A thousand levels are reached with repositories, each of which adds a condition. What an exclusion
adds is a subquery with its own conditions beneath. -/

/-- The filter binds its repositories and nothing else. -/
theorem exists_of_mem_bindings_inRepositories {n : Nat} {b : Dimension × String}
    (h : b ∈ (Filter.inRepositories n).bindings) :
    ∃ i ∈ List.range n, (.repository, Text.padded 4 i) = b :=
  List.mem_map.1 ((List.mem_append.1 h).resolve_right List.not_mem_nil)

/-- A filter on repositories has a condition for each of them, and no other. -/
theorem predicates_inRepositories_subset (w : Warehouse) (n : Nat) :
    (commits.query w (.inRepositories n) none).clauses.predicates
      ⊆ (List.range n).map fun i => .repositoryIs .scm (Text.padded 4 i) := by
  intro p hp
  rcases mem_predicates_query.1 hp with base | ⟨b, hb, rfl⟩ | excluded
  · cases base
  · obtain ⟨i, hi, rfl⟩ := exists_of_mem_bindings_inRepositories hb
    exact List.mem_map.2 ⟨i, hi, rfl⟩
  · cases excluded

/-- A filter for repositories needs a single link, however many there are. -/
theorem joins_inRepositories_subset (w : Warehouse) (n : Nat) :
    (commits.query w (.inRepositories n) none).clauses.joins ⊆ [.repository .scm] := by
  intro l hl
  rcases mem_joins_query.1 hl with base | ⟨b, hb, own⟩ | ⟨_, none, _⟩
  · cases base
  · obtain ⟨i, _, rfl⟩ := exists_of_mem_bindings_inRepositories hb
    exact own
  · cases none

/-- Nearly a thousand repositories are still accepted. Each is one comparison with one mark, and the
link lifts them by a level. -/
theorem admitted_inRepositories (w : Warehouse) {n : Nat} (few : n ≤ 995) :
    (commits.query w (.inRepositories n) none).Admitted .aggregate := by
  have predicates := predicates_inRepositories_subset w n
  have joins := joins_inRepositories_subset w n
  have single : ∀ p ∈ (commits.query w (.inRepositories n) none).clauses.predicates,
      p.depth = Limits.comparisonDepth ∧ p.innerReach? = none ∧ p.marks .commits = 1 := by
    intro p hp
    obtain ⟨i, _, rfl⟩ := List.mem_map.1 (predicates hp)
    exact ⟨rfl, rfl, rfl⟩
  have fewPredicates := (nodup_predicates_query _ _ _ _).length_le_of_subset predicates
  have oneJoin : (commits.query w (.inRepositories n) none).clauses.joins.length ≤ 1 :=
    (nodup_joins_query _ _ _ _).length_le_of_subset joins
  rw [List.length_map, List.length_range] at fewPredicates
  constructor
  · show Limits.marksOf .commits (commits.query w (.inRepositories n) none).clauses false ≤ _
    rw [Limits.marksOf, Limits.sum_marks_of_single fun p hp => (single p hp).2.2,
      Bool.toNat_false, Limits.marks]
    omega
  · have reach := Clauses.reach_le (Nat.le_refl _)
      (fun p hp => ⟨Nat.le_of_eq (single p hp).1, (single p hp).2.1⟩) fun l hl => by
        rw [List.mem_singleton.1 (joins hl)]
        exact Nat.le_refl _
    unfold Limits.comparisonDepth Limits.columnDepth at reach
    unfold Limits.depth
    omega

/-- The subquery of an exclusion reaches deeper than a thousand levels. It joins several tables, and
is nine levels deep by itself. -/
theorem not_admitted_inRepositories_withoutOrganizations (w : Warehouse) {n : Nat}
    (many : 988 ≤ n) :
    ¬ (commits.query w ((Filter.inRepositories n).withoutOrganizations ["guild"]) none).Admitted
      .aggregate := by
  intro accepted
  have kept : (commits.query w (.inRepositories n) none).clauses.predicates
      ⊆ (commits.query w ((Filter.inRepositories n).withoutOrganizations ["guild"])
        none).clauses.predicates := by
    intro p hp
    rcases mem_predicates_query.1 hp with base | bound | excluded
    · exact mem_predicates_query.2 (.inl base)
    · exact mem_predicates_query.2 (.inr (.inl bound))
    · cases excluded
  have excluded : .notFrom ["guild"] ∈ (commits.query w
      ((Filter.inRepositories n).withoutOrganizations ["guild"]) none).clauses.predicates :=
    mem_predicates_query.2 (.inr (.inr List.mem_cons_self))
  have length := (nodup_predicates_query _ _ _ _).length_le_of_subset kept
  have before := le_length_predicates_inRepositories w n
  have window := Clauses.length_predicates_lt_predicateDepth (commits.query w
    ((Filter.inRepositories n).withoutOrganizations ["guild"]) none).clauses
  have joins := Limits.le_joinedDepth (commits.query w
    ((Filter.inRepositories n).withoutOrganizations ["guild"]) none).clauses.predicateDepth
      ((commits.query w ((Filter.inRepositories n).withoutOrganizations ["guild"])
        none).clauses.joins.map Link.depth)
  have below := Clauses.add_innerReach_le_reach excluded (show _ = some 9 from rfl)
  have limit := accepted.2
  unfold Limits.depth at limit
  unfold Limits.comparisonDepth Limits.columnDepth at window
  unfold Clauses.depth at below
  omega

/-- **An exclusion may be refused.** The total of nearly a thousand repositories is answered, and
what is left of it without the members of the guild is not, even in an empty warehouse. -/
theorem exclusion_beyond_depth_refused :
    Warehouse.empty.Reachable ∧ (Filter.inRepositories 992).group? = none ∧
    (∀ b ∈ (Filter.inRepositories 992).bindings, b.1 ≠ .company) ∧
    commits.Answers .empty (.inRepositories 992) 0 ∧
    ∃ fault, commits.aggregate .empty ((Filter.inRepositories 992).withoutOrganizations ["guild"])
      = .error (.database fault) := by
  refine ⟨⟨[], rfl⟩, rfl, ?_, ?_, ?_⟩
  · intro b hb
    obtain ⟨i, _, rfl⟩ := exists_of_mem_bindings_inRepositories hb
    nofun
  · have nothing : commits.total .empty (.inRepositories 992) = 0 := by
      rw [total_eq_countP Warehouse.keyed_empty (.inl rfl)]
      rfl
    exact nothing ▸ answers_total rfl (admitted_inRepositories .empty (by omega))
  · exact aggregate_refused rfl
      (not_admitted_inRepositories_withoutOrganizations .empty (by omega))

end Count

end ActivityMetrics
