import ActivityMetrics.Proofs.Metric.Binding
import ActivityMetrics.Proofs.Metric.Timely
import ActivityMetrics.Proofs.Text.Bytes
import ActivityMetrics.Proofs.Warehouse.References

/-!
# Attribution at an instant

Which groups a person belongs to at an instant can be asked of the warehouse, and it decides which
events a filter on a group selects. The question walks the memberships of the person, the filter
those of the person behind the raw actor of each event, and they agree: what the person did at the
instant is counted for a group exactly when the group is among the answers.

The two are written apart and have little in common. The question starts from a person and an
instant and asks for a sorted list of names; the filter starts from events, joins identities,
memberships and groups, and compares the stored texts of times. A membership ends before its last
instant in both, and an open end is no end. If one of them were closed at the other side, somebody
who moves from one group to the next would be counted for both, or for neither, at the instant of
the move.

To see the condition on the group alone, the filter asks for nothing else. The events are then those
that have a person behind them and, if they are changes, close their issues
(`Count.counts_of_unrestricted`).
-/

namespace ActivityMetrics

open Calendar

/-! ## The groups of a person

What can be asked of the warehouse directly. The names come from a set and have an order of their
own. -/

namespace Warehouse

variable {w : Warehouse} {uuid name : String} {kind : Affiliation} {t : Instant}

theorem mem_affiliationsAt_iff :
    name ∈ w.affiliationsAt uuid kind t ↔ w.IsMember kind name uuid t.text := by
  simp only [affiliationsAt, IsMember, (List.mergeSort_perm _ _).mem_iff, List.mem_eraseDups,
    List.mem_flatMap, List.mem_filter, List.mem_map, Bool.and_eq_true, beq_iff_eq, and_assoc]

/-- The groups are listed once each, in the order of their bytes, which is that of the texts. -/
theorem affiliationsAt_ascending (w : Warehouse) (uuid : String) (kind : Affiliation)
    (t : Instant) : ((w.affiliationsAt uuid kind t).map Text.bytes).Pairwise (· < ·) := by
  rw [List.pairwise_map]
  unfold affiliationsAt
  dsimp only
  generalize List.flatMap _ _ = names
  have sorted : (names.eraseDups.mergeSort (· ≤ ·)).Pairwise (· ≤ ·) := by
    have pairwise := List.pairwise_mergeSort
      (fun (a b c : String) (hab : decide (a ≤ b)) (hbc : decide (b ≤ c)) =>
        decide_eq_true (String.le_trans (of_decide_eq_true hab) (of_decide_eq_true hbc)))
      (fun a b => by simpa using String.le_total a b) names.eraseDups
    exact pairwise.imp of_decide_eq_true
  have apart : (names.eraseDups.mergeSort (· ≤ ·)).Pairwise (· ≠ ·) :=
    (List.mergeSort_perm _ _).nodup_iff.2 (nodup_eraseDups names)
  refine (sorted.and apart).imp fun {a b} ⟨le, ne⟩ => Text.lt_iff_bytes_lt.1 ?_
  exact Decidable.byContradiction fun less => ne (String.le_antisymm le (String.not_lt.1 less))

end Warehouse

/-- The same filter without anything bound. -/
def Filter.unbound (f : Filter) : Filter :=
  { f with selection := .bound [], global := none }

namespace Count

variable {c : Count} {w : Warehouse} {f : Filter} {d : Dimension} {kind : Affiliation}
variable {n : String} {r : EventRecord}

/-! ## Counted without restrictions

A metric restricts events even if its filter does not: it may need a person behind them, or that a
change closes its issue. What remains then is the condition on the group. -/

/-- **A filter without restrictions** counts every event of its window that has a person behind it
and, if it is a change, closes its issue. The base of a metric asks for the person and for the
closing, and no filter takes that away. -/
theorem counts_of_unrestricted (coherent : w.Coherent) (nothing : f.bindings = [])
    (actors : f.excludedActors = []) (organizations : f.excludedOrganizations = [])
    (hr : r ∈ c.event.records w) (window : f.start.text ≤ r.date ∧ r.date < f.stop.text)
    {i : Identity} (known : i ∈ w.identities) (actor : c.event.actorOf r = some i.id)
    (closes : ∀ x, r = .change x →
      x.field = f.closingCondition.field ∧ x.newValue ∈ f.closingCondition.values) :
    c.Counts w f r := by
  -- a change belongs to an issue that is known, so the link to it leads somewhere
  have issue : ∃ o : Option Issue, c.event = .changes →
      ∃ x j, r = .change x ∧ j ∈ w.issues ∧ o = some j ∧ j.id = x.issue := by
    by_cases changes : c.event = .changes
    · obtain ⟨x, hx, change⟩ := exists_change changes hr
      obtain ⟨j, hj, same⟩ := coherent.changes x hx
      exact ⟨some j, fun _ => ⟨x, j, change, hj, rfl, same⟩⟩
    · exact ⟨none, fun h => absurd h changes⟩
  obtain ⟨o, issue⟩ := issue
  let m : Match := { record := r, issue := o, identity := some i }
  refine counts_iff.2 ⟨⟨hr, window⟩, m, rfl, fun l hl => ?_, forall_predicates_iff.2 ⟨?_, ?_, ?_⟩⟩
  · rw [mem_joins_query, nothing] at hl
    have base : l ∈ (c.definition f).base.joins := by simpa using hl
    rcases mem_base_joins base with rfl | rfl
    · obtain ⟨x, j, change, hj, found, same⟩ := issue (event_of_issue_mem_base base)
      refine ⟨j, hj, found, ?_⟩
      rw [show m.record = .change x from change]
      exact beq_iff_eq.2 same
    · exact ⟨i, known, rfl, actor⟩
  · intro p hp
    obtain ⟨rfl, changes⟩ := mem_base_predicates hp
    obtain ⟨x, _, change⟩ := exists_change changes hr
    obtain ⟨field, value⟩ := closes x change
    rw [Condition.holds, show m.record = .change x from change, Bool.and_eq_true, beq_iff_eq,
      List.contains_iff_mem]
    exact ⟨field, value⟩
  · rw [nothing]
    exact List.forall_mem_nil _
  · constructor
    · simp [actors, Condition.actsAsOne_iff]
    · simp [organizations, Condition.belongsToOne_iff]

/-- **A filter on a group** counts what a member did in its window. The membership is asked for at
the time of the event, whoever belongs to the group now. -/
theorem counts_iff_hasMember (keyed : w.Keyed) (coherent : w.Coherent)
    (hd : d.affiliation? = some kind) (only : f.bindings = [(d, n)])
    (actors : f.excludedActors = []) (organizations : f.excludedOrganizations = [])
    (hr : r ∈ c.event.records w) (window : f.start.text ≤ r.date ∧ r.date < f.stop.text)
    {i : Identity} (known : i ∈ w.identities) (actor : c.event.actorOf r = some i.id)
    (closes : ∀ x, r = .change x →
      x.field = f.closingCondition.field ∧ x.newValue ∈ f.closingCondition.values) :
    c.Counts w f r ↔ w.HasMember kind n (c.event.actorOf r) r.date := by
  have same : f.RestrictsAs (f.unbound.also d n) := by
    refine ⟨⟨rfl, rfl, rfl, rfl, rfl⟩, fun b => ?_⟩
    rw [only, Filter.mem_bindings_also]
    exact List.mem_singleton.trans (or_iff_right List.not_mem_nil).symm
  have free : ∀ b ∈ f.unbound.bindings, b.1 ≠ d := nofun
  rw [counts_iff_of_restrictsAs same, counts_also_affiliation_iff keyed hd free]
  exact and_iff_right (counts_of_unrestricted (f := f.unbound) coherent rfl actors organizations hr
    window known actor closes)

/-- A person has one link for a raw actor, so the members among those behind it are that person. -/
theorem hasMember_iff_mem_affiliationsAt (keyed : w.Keyed) {i : Identity}
    (known : i ∈ w.identities) {t : Instant} :
    w.HasMember kind n (some i.id) t.text ↔ n ∈ w.affiliationsAt i.uuid kind t := by
  rw [Warehouse.mem_affiliationsAt_iff]
  constructor
  · rintro ⟨j, known', actor, member⟩
    rwa [← List.inj_on_of_nodup_map keyed.identities known' known (Option.some.inj actor)]
  · intro member
    exact ⟨i, known, rfl, member⟩

/-! ## Answers

A count of events adds up event by event. Closed issues do not, since an issue may be closed twice,
and are counted by the issues of the changes that are counted. -/

/-- The issues that changes close. -/
def closedIssues (w : Warehouse) (f : Filter) : List Int :=
  ((w.changes.filter fun x => closed.Counts w f (.change x)).map (·.issue)).eraseDups

/-- **The closed issues are those of the changes that are counted**, each once. An issue may be
closed more than once in a window. -/
theorem total_closed_eq (w : Warehouse) (f : Filter) :
    closed.total w f = (closedIssues w f).length := by
  have values : ∀ v, v ∈ ((closed.query w f none).matchesIn w).filterMap
      (closed.query w f none).counted.valueOf ↔ v ∈ (closedIssues w f).map .number := by
    intro v
    simp only [closedIssues, List.mem_filterMap, List.mem_map, List.mem_eraseDups, List.mem_filter,
      decide_eq_true_eq]
    constructor
    · rintro ⟨m, hm, value⟩
      have known : m.record ∈ closed.event.records w := (counts_iff.1 ⟨m, hm, rfl⟩).1.1
      obtain ⟨x, hx, change⟩ := exists_change rfl known
      have counted : Counted.valueOf .changedIssue m = some v := value
      unfold Counted.valueOf at counted
      rw [change] at counted
      exact ⟨x.issue, ⟨x, ⟨hx, m, hm, change⟩, rfl⟩, Option.some.inj counted⟩
    · rintro ⟨_, ⟨x, ⟨_, m, hm, change⟩, rfl⟩, rfl⟩
      refine ⟨m, hm, ?_⟩
      show Counted.valueOf .changedIssue m = _
      unfold Counted.valueOf
      rw [change]
  have apart : ((closedIssues w f).map MatchValue.number).Nodup :=
    (nodup_eraseDups _).map fun _ _ => MatchValue.number.inj
  rw [total, Counted.count, length_eraseDups_congr values, eraseDups_eq_self apart, List.length_map]

/-- The links and conditions of a filter on a group. -/
theorem clauses_of_single (hd : d.affiliation? = some kind) (only : f.bindings = [(d, n)])
    (actors : f.excludedActors = []) (organizations : f.excludedOrganizations = []) :
    (c.query w f none).clauses = (c.definition f).base.merge
      ⟨Dimension.links.membership kind, [.memberOf kind n]⟩ := by
  have bound : f.clauses w c.source
      = ⟨Dimension.links.membership kind, [.memberOf kind n]⟩ := by
    rw [Filter.clauses, only, actors, organizations]
    cases d <;> cases hd <;> rfl
  show (c.definition f).base.merge (f.clauses w c.source) = _
  rw [bound]

/-- **A filter on a group is accepted**, unless too many values close an issue. Everything else
about it has a fixed size. -/
theorem admitted_of_single (hd : d.affiliation? = some kind) (only : f.bindings = [(d, n)])
    (actors : f.excludedActors = []) (organizations : f.excludedOrganizations = [])
    (few : c.event = .changes → f.closingCondition.values.length ≤ 32762) :
    (c.query w f none).Admitted .aggregate := by
  have clauses := clauses_of_single (c := c) (w := w) hd only actors organizations
  have predicates : (c.query w f none).clauses.predicates
      = (c.definition f).base.predicates ++ [.memberOf kind n] := by
    rw [clauses]
    cases c <;> rfl
  have baseJoins : (c.definition f).base.joins.length ≤ 2 := by
    cases c <;> exact Nat.le_of_ble_eq_true rfl
  have basePredicates : (c.definition f).base.predicates.length ≤ 1 := by
    cases c <;> exact Nat.le_of_ble_eq_true rfl
  have joins : (c.query w f none).clauses.joins.length ≤ 2 + 3 := by
    rw [clauses]
    exact Nat.le_trans length_keepFirsts_le (Nat.add_le_add_right baseJoins 3)
  -- all marks but a few are those of the values that close an issue
  have baseMarks :
      ((c.definition f).base.predicates.map (Condition.marks c.event)).sum ≤ 32763 := by
    cases c with
    | closed | closers =>
      have values := few rfl
      show ([Condition.closes f.closingCondition].map (Condition.marks .changes)).sum ≤ 32763
      rw [List.map_singleton, List.sum_singleton, Condition.marks_closes]
      omega
    | commits | authors | committers | repositories | opened | openers => exact Nat.zero_le _
  have member : (Condition.memberOf kind n).marks c.event = 1 := rfl
  constructor
  · rw [Limits.marksOf, predicates, event_query, List.map_append, List.sum_append,
      List.map_singleton, List.sum_singleton, member]
    show 2 + (_ + 1) + 0 ≤ 32766
    omega
  · -- without subqueries, each condition and each link adds one level
    have flat : ∀ p ∈ (c.query w f none).clauses.predicates,
        p.depth ≤ 6 ∧ p.innerReach? = none := by
      intro p hp
      rw [predicates] at hp
      rcases List.mem_append.1 hp with base | member
      · rw [(mem_base_predicates base).1]
        exact ⟨show 4 ≤ 6 by decide, rfl⟩
      · rw [List.mem_singleton.1 member]
        exact ⟨show 3 ≤ 6 by decide, rfl⟩
    have reach := Clauses.reach_le (by decide) flat fun l _ => l.depth_le
    rw [predicates, List.length_append, List.length_singleton] at reach
    unfold Limits.depth
    omega

/-! ## The theorem

What is known of single events is put together with what answers say. -/

/-- **What a person did at an instant is counted for the groups that the person is in at the
instant**, and for no other, when nothing else is asked for. The event may be a commit, an issue or
a change that closes its issue, and the person may act under several raw actors. The groups are
listed by ascending bytes. The answers for a group are the numbers of what is counted for it.

The instants are compared as texts on one side and as texts of an instant on the other, so the year
needs four digits. The warehouse is any that can be reached, which is where it comes from that a raw
actor has one person. -/
theorem counts_iff_mem_affiliationsAt (c : Count) {w : Warehouse} (reachable : w.Reachable)
    {d : Dimension} {kind : Affiliation} (hd : d.affiliation? = some kind) {i : Identity}
    (known : i ∈ w.identities) {t : Instant} (year : t.date.FourDigit) {n : String} {f : Filter}
    (only : f.bindings = [(d, n)]) (actors : f.excludedActors = [])
    (organizations : f.excludedOrganizations = []) (first : f.start.FourDigit)
    (last : f.stop.FourDigit) (inside : f.start ≤ t.date ∧ t.date < f.stop) :
    (∀ r ∈ c.event.records w, c.event.actorOf r = some i.id → r.date = t.text →
      (∀ x, r = .change x →
        x.field = f.closingCondition.field ∧ x.newValue ∈ f.closingCondition.values) →
      (c.Counts w f r ↔ n ∈ w.affiliationsAt i.uuid kind t)) ∧
    ((w.affiliationsAt i.uuid kind t).map Text.bytes).Pairwise (· < ·) ∧
    (f.group? = none →
      (c.CountsNumbers → c.Answers w f ((c.event.records w).countP fun r => c.Counts w f r)) ∧
      (c = .closed → f.closingCondition.values.length ≤ 32762 →
        c.Answers w f (closedIssues w f).length)) := by
  have keyed := reachable.keyed
  refine ⟨fun r hr actor stored closes => ?_, w.affiliationsAt_ascending i.uuid kind t,
    fun ungrouped => ⟨fun hc => ?_, ?_⟩⟩
  · have window : f.start.text ≤ r.date ∧ r.date < f.stop.text := by
      rw [stored]
      exact (Instant.text_mem_window_iff year first last).2 inside
    rw [counts_iff_hasMember keyed reachable.coherent hd only actors organizations hr window known
      actor closes, actor, stored]
    exact hasMember_iff_mem_affiliationsAt keyed known
  · have accepted : (c.query w f none).Admitted .aggregate :=
      admitted_of_single hd only actors organizations fun changes => by
        rcases hc with rfl | rfl <;> cases changes
    rw [← total_eq_countP keyed hc]
    exact answers_total ungrouped accepted
  · rintro rfl few
    rw [← total_closed_eq]
    exact answers_total ungrouped (admitted_of_single hd only actors organizations fun _ => few)

end Count

/-! ## From one group to the next

At the instant of a move, both memberships have a bound: one ends with it and the other begins. -/

/-- The beginning of 10 January 2025. -/
def Calendar.Instant.tenth : Instant :=
  Date.midnight ⟨20098, by decide, by decide⟩

/-- Ada left the guild for the lodge at the beginning of 10 January, and closed an issue at that
instant. -/
def Warehouse.mover : Warehouse :=
  .load .empty
    [.addIdentity 1 .scm "ada" "Ada", .addIdentity 2 .its "ada" "Ada L.",
      .addEnrollment "ada" .organization "guild" none (some "2025-01-10 00:00:00"),
      .addEnrollment "ada" .organization "lodge" (some "2025-01-10 00:00:00") none,
      .nameTracker "t", .insertIssue 1 "1" none "2025-01-02",
      .insertChange 1 "status" "CLOSED" (some 2) "2025-01-10 00:00:00"]

/-- The issue was closed by a member of the lodge, and not by one of the guild. -/
theorem Count.counts_iff_mem_affiliationsAt_mover :
    closed.Answers .mover ((Filter.january (.bound [])).also .company "lodge") 1 ∧
    closed.Answers .mover ((Filter.january (.bound [])).also .company "guild") 0 ∧
    ∃ x ∈ Warehouse.mover.changes,
      closed.Counts .mover ((Filter.january (.bound [])).also .company "lodge") (.change x) ∧
      ¬ closed.Counts .mover ((Filter.january (.bound [])).also .company "guild") (.change x) := by
  let i : Identity := ⟨2, .its, "ada", "Ada L."⟩
  let x : Change := ⟨1, 1, "status", none, "CLOSED", some 2, "2025-01-10 00:00:00"⟩
  have known : i ∈ Warehouse.mover.identities := by decide
  have there : x ∈ Warehouse.mover.changes := by decide
  have stored : (EventRecord.change x).date = Instant.tenth.text := by decide
  have inside : (Filter.january (.bound [])).start ≤ Instant.tenth.date ∧
      Instant.tenth.date < (Filter.january (.bound [])).stop := by decide
  have closes : ∀ y, EventRecord.change x = .change y →
      y.field = ClosingCondition.standard.field ∧
        y.newValue ∈ ClosingCondition.standard.values := by
    rintro _ ⟨⟩
    decide
  have first : (Filter.january (.bound [])).start.FourDigit := by decide
  have last : (Filter.january (.bound [])).stop.FourDigit := by decide
  have attribution := fun n => closed.counts_iff_mem_affiliationsAt (w := .mover) ⟨_, rfl⟩
    (d := .company) rfl known (t := .tenth) (by decide) (n := n)
    (f := (Filter.january (.bound [])).also .company n) rfl rfl rfl first last inside
  obtain ⟨lodge, _, answers⟩ := attribution "lodge"
  obtain ⟨guild, _, answers'⟩ := attribution "guild"
  have one :
      (closedIssues .mover ((Filter.january (.bound [])).also .company "lodge")).length = 1 := by
    decide
  have none_left :
      (closedIssues .mover ((Filter.january (.bound [])).also .company "guild")).length = 0 := by
    decide
  refine ⟨one ▸ (answers rfl).2 rfl (by decide), none_left ▸ (answers' rfl).2 rfl (by decide), x,
    there, ?_, ?_⟩
  · rw [lodge _ (List.mem_map_of_mem there) rfl stored closes, Warehouse.mem_affiliationsAt_iff]
    decide
  · rw [guild _ (List.mem_map_of_mem there) rfl stored closes, Warehouse.mem_affiliationsAt_iff]
    decide

end ActivityMetrics
