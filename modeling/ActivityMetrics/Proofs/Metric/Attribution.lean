import ActivityMetrics.Proofs.Metric.DrillDown
import ActivityMetrics.Proofs.Metric.Exclusion
import ActivityMetrics.Proofs.Warehouse.References

/-!
# Events are attributed at most once

A stretch of membership includes its first instant and not its last, so two stretches that meet have
no instant in common. Where a person is in one organization at a time, an event has at most one
company (`Count.company_unique`). The breakdown by company then splits the events of a filter into
parts that share nothing, and what is left out of all of them is what remains of the filter without
the members of any organization. So the numbers of all companies and of the rest add up to the
total.

The rest is asked for by an exclusion, and the parts by selections, which are worded in different
ways: a selection joins the memberships of the person behind an event, while an exclusion looks for
such a person in a subquery and keeps the events that have nobody behind them. That they complement
each other is the reason why nothing is counted twice and nothing is missing.

It is about events that count by their numbers, commits and opened issues. A count of people would
not add up, as one person may have worked for two companies in a window.
-/

namespace ActivityMetrics

/-- **Stretches that meet have no instant in common.** The end of one is compared strictly and the
beginning of the other is not. -/
theorem Enrollment.not_covers_both {n n' : Enrollment} (h : n.stop ≤ n'.start)
    (instant : String) : ¬ (n.covers instant ∧ n'.covers instant) := by
  rintro ⟨before, after⟩
  rw [covers, Bool.and_eq_true, decide_eq_true_iff, decide_eq_true_iff] at before after
  exact absurd before.2 (not_lt_of_ge (le_trans h after.1))

namespace Warehouse

variable {w : Warehouse} {kind : Affiliation} {a b instant : String} {actor : Option Int}

/-- Two different enrollments of a person in groups of a kind have no instant in common. The
warehouse does not see to this; it is so when memberships follow each other, and an event has two
companies where it is not. -/
def OneAtATime (w : Warehouse) (kind : Affiliation) : Prop :=
  ∀ n ∈ w.enrollments, ∀ n' ∈ w.enrollments, n.uuid = n'.uuid → n.kind = kind → n'.kind = kind →
    n ≠ n' → ∀ instant, ¬ (n.covers instant ∧ n'.covers instant)

/-- The number of a group leads to one name. -/
theorem Coherent.name_eq (coherent : w.Coherent) {g h : Entity} (hg : g ∈ w.entities kind)
    (hh : h ∈ w.entities kind) (same : g.id = h.id) : g.name = h.name :=
  congrArg (·.name) (List.inj_on_of_nodup_map (coherent.groups kind) hg hh same)

/-- A person is a member of one group at a time. -/
theorem IsMember.unique {uuid : String} (coherent : w.Coherent) (alone : w.OneAtATime kind)
    (ha : w.IsMember kind a uuid instant) (hb : w.IsMember kind b uuid instant) : a = b := by
  obtain ⟨n, hn, ⟨person, of_kind, during⟩, g, hg, target, rfl⟩ := ha
  obtain ⟨n', hn', ⟨person', of_kind', during'⟩, h, hh, target', rfl⟩ := hb
  have same : n = n' := by
    by_contra different
    exact alone n hn n' hn' (person.trans person'.symm) of_kind of_kind' different instant
      ⟨during, during'⟩
  exact coherent.name_eq hg hh (by rw [target, target', same])

/-- **A raw actor stands for a member of one group at a time.** It has one person, the person one
membership, and the membership one group. -/
theorem HasMember.unique (keyed : w.Keyed) (coherent : w.Coherent) (alone : w.OneAtATime kind)
    (ha : w.HasMember kind a actor instant) (hb : w.HasMember kind b actor instant) : a = b := by
  obtain ⟨i, hi, actor_i, member⟩ := ha
  obtain ⟨j, hj, actor_j, member'⟩ := hb
  have same : i = j := List.inj_on_of_nodup_map keyed.identities hi hj
    (Option.some.inj (actor_i.trans actor_j.symm))
  exact member.unique coherent alone (same ▸ member')

theorem HasMember.exists_group (h : w.HasMember kind a actor instant) :
    ∃ g ∈ w.entities kind, g.name = a := by
  obtain ⟨_, _, _, _, _, _, g, hg, _, name⟩ := h
  exact ⟨g, hg, name⟩

end Warehouse

namespace Count

variable {c : Count} {w : Warehouse} {f g : Filter} {r : EventRecord} {v : String}

/-! ## Parts

The companies of a filter are bound one after another, on top of what the filter binds, so that each
part is a filter of its own with a total of its own. -/

/-- **An event has at most one company.** So the parts share nothing. -/
theorem company_unique (reachable : w.Reachable) (alone : w.OneAtATime .organization)
    {v v' : String} (h : c.Counts w (f.also .company v) r)
    (h' : c.Counts w (f.also .company v') r) : v = v' :=
  (h.hasMember rfl).unique reachable.keyed reachable.coherent alone (h'.hasMember rfl)

/-- What an item selects is what the breakdown has under the item. -/
theorem mem_matchesIn_also_iff {d : Dimension} {key : GroupKey} (hk : d.key? c.source = some key)
    (same : g.RestrictsAs f) {m : Match} :
    m ∈ (c.query w (f.also d v) none).matchesIn w ↔
      m ∈ (c.query w g (some d)).matchesIn w ∧ key.valueOf m = some v := by
  have frame : (f.also d v).SameFrame g :=
    ⟨same.start.symm, same.stop.symm, same.actors.symm, same.organizations.symm,
      same.closing.symm⟩
  refine mem_matchesIn_iff_of_bound hk frame fun b => ?_
  rw [Filter.mem_bindings_also, same.bindings, or_comm]

section

variable {d : Dimension} {key : GroupKey} {q : Query}

/-- The number of an item of a breakdown is the total of one more binding. -/
theorem itemCount_eq_total_also (hk : d.key? c.source = some key) (same : g.RestrictsAs f)
    (hq : q = c.breakdownQuery w g d none) :
    q.itemCount key (q.matchesIn w) v = c.total w (f.also d v) := by
  have counted : q.counted = (c.query w (f.also d v) none).counted := by
    rw [hq]
    exact congrArg (·.counted) (definition_congr same.closing c)
  rw [Query.itemCount, counted]
  refine Counted.count_congr fun m => ?_
  rw [mem_matchesIn_also_iff hk same, List.mem_filter, beq_iff_eq, hq]
  rfl

/-- An item that selects an event is listed. -/
theorem mem_rankedItems_of_counts_also (hk : d.key? c.source = some key) (same : g.RestrictsAs f)
    (hq : q = c.breakdownQuery w g d none) (h : c.Counts w (f.also d v) r) :
    v ∈ q.rankedItems key (q.matchesIn w) := by
  obtain ⟨m, selected, _⟩ := h
  obtain ⟨there, item⟩ := (mem_matchesIn_also_iff hk same).1 selected
  have unlimited : q.limit = none := hq ▸ rfl
  exact (Query.mem_rankedItems_iff unlimited).2 ⟨m, hq ▸ there, item⟩

end

/-- What is left without all organizations has no company. An event without a person has none
either, and is left. -/
theorem counts_withoutOrganizations_iff_of_all (keyed : w.Keyed)
    (free : ∀ b ∈ f.bindings, b.1 ≠ .company) {names : List String}
    (all : ∀ o ∈ w.entities .organization, o.name ∈ names) :
    c.Counts w (f.withoutOrganizations names) r ↔
      c.Counts w f r ∧ ¬ ∃ v, c.Counts w (f.also .company v) r := by
  rw [counts_withoutOrganizations_iff]
  refine and_congr_right fun counted => ?_
  simp only [Condition.belongsToOne_singleton_iff, counts_also_affiliation_iff keyed rfl free,
    counted, true_and, not_exists]
  refine ⟨fun none v member => ?_, fun none n _ => none n⟩
  obtain ⟨o, known, rfl⟩ := member.exists_group
  exact none _ (all o known) member

/-- **The numbers of all companies and of the rest add up.** The list of items may hold companies
without an event, which add nothing. -/
theorem sum_totals_add_left (reachable : w.Reachable) (hc : c.CountsNumbers)
    (alone : w.OneAtATime .organization) (free : ∀ b ∈ f.bindings, b.1 ≠ .company)
    {names items : List String} (all : ∀ o ∈ w.entities .organization, o.name ∈ names)
    (nodup : items.Nodup)
    (listed : ∀ r ∈ c.event.records w, ∀ v, c.Counts w (f.also .company v) r → v ∈ items) :
    (items.map fun v => c.total w (f.also .company v)).sum
        + c.total w (f.withoutOrganizations names)
      = c.total w f := by
  have keyed := reachable.keyed
  have left := fun r => counts_withoutOrganizations_iff_of_all (r := r) (c := c) keyed free all
  have parts := sum_countP_of_apart (l := c.event.records w)
    (p := fun v r => decide (c.Counts w (f.also .company v) r)) nodup
    fun r _ v _ v' _ h h' =>
      company_unique reachable alone (of_decide_eq_true h) (of_decide_eq_true h')
  -- an event is counted by the filter exactly if it is in a part or in the rest
  have whole : ∀ r ∈ c.event.records w, c.Counts w f r ↔
      (items.any fun v => c.Counts w (f.also .company v) r) ∨
        c.Counts w (f.withoutOrganizations names) r := by
    intro r known
    simp only [List.any_eq_true, decide_eq_true_eq, left]
    constructor
    · intro counted
      by_cases some_company : ∃ v, c.Counts w (f.also .company v) r
      · obtain ⟨v, selected⟩ := some_company
        exact .inl ⟨v, listed r known v selected, selected⟩
      · exact .inr ⟨counted, some_company⟩
    · rintro (⟨v, _, selected⟩ | ⟨counted, _⟩)
      · exact selected.of_also
      · exact counted
  simp only [total_eq_countP keyed hc]
  rw [parts, ← countP_or_of_apart]
  · refine List.countP_congr fun r known => ?_
    rw [decide_eq_true_iff, whole r known, Bool.or_eq_true, decide_eq_true_iff]
  · intro r _ some_company rest
    obtain ⟨v, _, selected⟩ := List.any_eq_true.1 some_company
    exact ((left r).1 (of_decide_eq_true rest)).2 ⟨v, of_decide_eq_true selected⟩

/-! ## The theorem

Parts and rest are three kinds of statements over the same warehouse, and the database accepts or
refuses each of them for itself. -/

/-- The breakdown of a filter by company and the filter without some organizations split the events
of the filter. What is said of events comes first, and then what follows for answers: the numbers
that a caller reads, and what happens when the database refuses one of the three statements. The
last is needed because the three statements have different sizes, so that any of them may be refused
while the others are accepted. -/
structure SplitsByCompany (c : Count) (w : Warehouse) (f g : Filter) (names : List String) :
    Prop where
  /-- An event has at most one company. -/
  once : ∀ r v v', c.Counts w (f.also .company v) r → c.Counts w (f.also .company v') r → v = v'
  /-- A filter that is broken down by company without a limit has the breakdown as its answer. -/
  asked : g.selection = .every .company → g.limit = none →
    c.aggregate w g = c.breakdown w g .company none
  /-- The numbers of the companies and of the rest add up to the total. -/
  answers : (c.breakdownQuery w g .company none).Admitted .aggregate →
    (c.query w f none).Admitted .aggregate →
    (c.query w (f.withoutOrganizations names) none).Admitted .aggregate →
    ∃ (listing : Answer) (items : List String) (values : List Nat) (left : Nat),
      c.breakdown w g .company none = .ok listing ∧
      listing.list? Dimension.company.name = some (items.map .text) ∧
      listing.list? c.id = some (values.map fun n => .int n) ∧
      c.Answers w (f.withoutOrganizations names) left ∧
      c.Answers w f (values.sum + left)
  /-- A breakdown that is not accepted fails in the database. -/
  refused : ¬ (c.breakdownQuery w g .company none).Admitted .aggregate →
    ∃ fault, c.breakdown w g .company none = .error (.database fault)
  /-- A total that is not accepted fails in the database, with the companies or without them. -/
  refused_total : ∀ h ∈ [f, f.withoutOrganizations names],
    ¬ (c.query w h none).Admitted .aggregate →
      ∃ fault, c.aggregate w h = .error (.database fault)

/-- **Half-open enrollments attribute every event at most once.** Where a person is in one
organization at a time, commits and opened issues have at most one company each. So the numbers of
all companies, and what is left without the members of any organization, add up to the total of the
filter. Statements that are not accepted fail in the database.

The filter may ask for anything but a company, and the names to leave out may be more than the
organizations there are. The second filter is the first one broken down, whose limit has to be put
aside since it would hide companies. -/
theorem companies_add_up (hc : c.CountsNumbers) (reachable : w.Reachable)
    (alone : w.OneAtATime .organization) (hf : f.group? = none)
    (free : ∀ b ∈ f.bindings, b.1 ≠ .company) (same : g.RestrictsAs f)
    {names : List String} (all : ∀ o ∈ w.entities .organization, o.name ∈ names) :
    c.SplitsByCompany w f g names := by
  have key : Dimension.company.key? c.source = some (.group .organization) := rfl
  refine ⟨fun _ _ _ => company_unique reachable alone, fun every unlimited => ?_,
    fun grouped whole rest => ?_, breakdown_refused key, fun h hh => ?_⟩
  · rw [aggregate, Filter.group?_of_every every, unlimited]
  · obtain ⟨q, hq⟩ : ∃ q, q = c.breakdownQuery w g .company none := ⟨_, rfl⟩
    -- the numbers of the listing are totals of filters of their own, and these add up
    have totals : (q.rankedItems (.group .organization) (q.matchesIn w)).map
        (q.itemCount (.group .organization) (q.matchesIn w))
          = (q.rankedItems (.group .organization) (q.matchesIn w)).map
            fun v => c.total w (f.also .company v) :=
      List.map_congr_left fun v _ => itemCount_eq_total_also key same hq
    have sum := sum_totals_add_left reachable hc alone free all
      (q.nodup_rankedItems (.group .organization) (q.matchesIn w))
      fun r _ v selected => mem_rankedItems_of_counts_also key same hq selected
    refine ⟨_, q.rankedItems (.group .organization) (q.matchesIn w),
      (q.rankedItems (.group .organization) (q.matchesIn w)).map
        (q.itemCount (.group .organization) (q.matchesIn w)), _,
      breakdown_eq hq key (hq ▸ grouped), ?_, ?_, answers_total hf rest, ?_⟩
    · exact Answer.list?_of_get? (Answer.get?_insert_self _ _ _)
    · rw [List.map_map]
      apply Answer.list?_of_get?
      rw [Answer.get?_insert_of_ne (c.name_ne_id .company).symm, Answer.get?_insert_self]
      rfl
    · rw [totals, sum]
      exact answers_total hf whole
  · simp only [List.mem_cons, List.not_mem_nil, or_false] at hh
    rcases hh with rfl | rfl
    · exact aggregate_refused hf
    · exact aggregate_refused hf

end Count

/-! ## Two memberships that meet

The end of one membership is the beginning of the next. This is the case that the theorem is about,
and the one in which a closed interval would count twice. -/

/-- Ada left the guild for the lodge at the beginning of 10 January. She made a commit in the last
second before, one at this instant by another raw actor, and somebody else made a third one. -/
def Warehouse.backToBack : Warehouse :=
  .load .empty
    [.addIdentity 1 .scm "ada" "Ada", .addIdentity 2 .scm "ada" "Ada L.",
      .addEnrollment "ada" .organization "guild" none (some "2025-01-10 00:00:00"),
      .addEnrollment "ada" .organization "lodge" (some "2025-01-10 00:00:00") none,
      .nameRepository "core" none,
      .insertCommit "r1" 1 (some 1) none "2025-01-09 23:59:59",
      .insertCommit "r2" 1 (some 2) none "2025-01-10 00:00:00",
      .insertCommit "r3" 1 none none "2025-01-10 00:00:00"]

theorem Warehouse.oneAtATime_backToBack : backToBack.OneAtATime .organization := by
  have enrollments : backToBack.enrollments
      = [⟨1, "ada", .organization, 1, earliest, "2025-01-10 00:00:00"⟩,
        ⟨2, "ada", .organization, 2, "2025-01-10 00:00:00", latest⟩] := by
    decide
  intro n hn n' hn' _ _ _ different instant
  simp only [enrollments, List.mem_cons, List.not_mem_nil, or_false] at hn hn'
  rcases hn with rfl | rfl <;> rcases hn' with rfl | rfl
  · exact absurd rfl different
  · exact Enrollment.not_covers_both (by decide) instant
  · exact fun both => Enrollment.not_covers_both (by decide) instant both.symm
  · exact absurd rfl different

namespace Count

/-- The commit of the last second is the guild's, the one of the next instant is the lodge's, and
the third one remains. -/
theorem companies_add_up_backToBack :
    (∃ (listing : Answer) (items : List String) (values : List Nat) (left : Nat),
      commits.aggregate .backToBack (.january (.every .company)) = .ok listing ∧
      listing.list? Dimension.company.name = some (items.map .text) ∧
      listing.list? commits.id = some (values.map fun n => .int n) ∧
      commits.Answers .backToBack
        ((Filter.january (.bound [])).withoutOrganizations ["guild", "lodge"]) left ∧
      commits.Answers .backToBack (.january (.bound [])) (values.sum + left)) ∧
    commits.total .backToBack ((Filter.january (.bound [])).also .company "guild") = 1 ∧
    commits.total .backToBack ((Filter.january (.bound [])).also .company "lodge") = 1 ∧
    commits.total .backToBack
      ((Filter.january (.bound [])).withoutOrganizations ["guild", "lodge"]) = 1 ∧
    commits.total .backToBack (.january (.bound [])) = 3 := by
  have splits := companies_add_up (c := commits) (w := .backToBack) (f := .january (.bound []))
    (g := .january (.every .company)) (.inl rfl) ⟨_, rfl⟩ Warehouse.oneAtATime_backToBack rfl nofun
    ⟨⟨rfl, rfl, rfl, rfl, rfl⟩, fun _ => Iff.rfl⟩
    (show ∀ o ∈ Warehouse.backToBack.entities .organization, o.name ∈ ["guild", "lodge"] by decide)
  refine ⟨?_, by decide, by decide, by decide, by decide⟩
  rw [splits.asked rfl rfl]
  exact splits.answers (by decide) (by decide) (by decide)

end Count

/-! ## One mark too many

Of the three statements, the one with the exclusion has most marks, and may be refused alone. -/

/-- An organization without members. -/
def Warehouse.emptyGuild : Warehouse :=
  .load .empty [.nameGroup .organization "guild"]

/-- January 2025 with a selection, without somebody and without so many more. -/
def Filter.withoutBots (more : Nat) (selection : Selection) : Filter :=
  { january selection with excludedActors := "x" :: List.replicate more "x" }

namespace Count

variable (more : Nat)

/-- The total has a mark for each program that is left out, and two for its window. -/
theorem marksOf_withoutBots (w : Warehouse) :
    Limits.marksOf .commits (commits.query w (.withoutBots more (.bound [])) none).clauses
      false = more + 3 := by
  have predicates : (commits.query w (.withoutBots more (.bound [])) none).clauses.predicates
      = [.notBy ("x" :: List.replicate more "x")] := rfl
  rw [Limits.marksOf, predicates, List.map_singleton, Condition.marks_notBy, List.sum_singleton,
    List.length_cons, List.length_replicate, Bool.toNat_false]
  omega

/-- The breakdown has as many marks, since to group by a dimension takes none. -/
theorem marksOf_withoutBots_every :
    Limits.marksOf .commits (commits.query .emptyGuild (.withoutBots more (.every .company))
      (some .company)).clauses false = more + 3 :=
  marksOf_withoutBots more .emptyGuild

/-- The rest has one mark more, for the organization. -/
theorem marksOf_withoutBots_withoutOrganizations :
    Limits.marksOf .commits (commits.query .emptyGuild
      ((Filter.withoutBots more (.bound [])).withoutOrganizations ["guild"]) none).clauses false
        = more + 4 := by
  have predicates : (commits.query .emptyGuild ((Filter.withoutBots more
      (.bound [])).withoutOrganizations ["guild"]) none).clauses.predicates
        = [.notBy ("x" :: List.replicate more "x"), .notFrom ["guild"]] := rfl
  have mark : (Condition.notFrom ["guild"]).marks .commits = 1 := rfl
  rw [Limits.marksOf, predicates, List.map_cons, List.map_singleton, Condition.marks_notBy, mark,
    List.sum_cons, List.sum_singleton, List.length_cons, List.length_replicate, Bool.toNat_false]
  omega

theorem listed_withoutBots :
    commits.listed .emptyGuild (.withoutBots more (.every .company)) .company
      (.group .organization) = [] := by
  cbv

theorem total_withoutBots : commits.total .emptyGuild (.withoutBots more (.bound [])) = 0 := by
  cbv

/-- **What is left may be refused.** With as many marks as there may be, there are no commits, in
total and for each company, and the database refuses what is left without the one organization. -/
theorem rest_beyond_marks_refused :
    Warehouse.emptyGuild.Reachable ∧ Warehouse.emptyGuild.OneAtATime .organization ∧
    (Warehouse.emptyGuild.entities .organization).map (·.name) = ["guild"] ∧
    (∃ a, commits.aggregate .emptyGuild (.withoutBots 32763 (.every .company)) = .ok a ∧
      a.list? "company" = some [] ∧ a.list? "commits" = some []) ∧
    commits.Answers .emptyGuild (.withoutBots 32763 (.bound [])) 0 ∧
    ∃ fault, commits.aggregate .emptyGuild
      ((Filter.withoutBots 32763 (.bound [])).withoutOrganizations ["guild"])
        = .error (.database fault) := by
  refine ⟨⟨_, rfl⟩, nofun, by decide, ?_, ?_, ?_⟩
  · have key : Dimension.company.key? commits.source = some (.group .organization) := rfl
    have accepted : (commits.query .emptyGuild (.withoutBots 32763 (.every .company))
        (some .company)).Admitted .aggregate :=
      ⟨Nat.le_of_eq (marksOf_withoutBots_every 32763), by decide⟩
    obtain ⟨a, answered, keys, values⟩ := exists_breakdown key rfl accepted
    rw [listed_withoutBots] at keys values
    exact ⟨a, answered, keys, values⟩
  · have accepted : (commits.query .emptyGuild (.withoutBots 32763 (.bound [])) none).Admitted
        .aggregate :=
      ⟨Nat.le_of_eq (marksOf_withoutBots 32763 .emptyGuild), by decide⟩
    exact total_withoutBots 32763 ▸ answers_total rfl accepted
  · refine aggregate_refused rfl fun accepted => ?_
    have marks : 32763 + 4 ≤ Limits.marks :=
      marksOf_withoutBots_withoutOrganizations 32763 ▸ accepted.1
    exact absurd marks (by decide)

end Count

end ActivityMetrics
