import ActivityMetrics.Proofs.Metric.Attribution
import ActivityMetrics.Proofs.Metric.Restriction
import ActivityMetrics.Proofs.Metric.Trend
import ActivityMetrics.Proofs.Warehouse.Places

/-!
# Parts by repository

Commits, repositories with a commit, opened issues and closed issues are counted by a number that
leads to a single place: the repository of the commit, or the tracker of the issue
(`Count.Locates`). In a reachable warehouse this place is there, so an event that has a match has
one with its place, and matches that count the same are in the same place, whatever else they are
linked to. The numbers of a breakdown by repository therefore add up to the total
(`Count.repositories_add_up`).

Each half of this would fail for another reason. If a place could be missing, the breakdown would
join it and lose the event, and the sum would be less than the total. If what is counted could be in
two places, as an author can who commits to two repositories, it would be counted in both, and the
sum would be more. People are therefore not among these metrics. That a place cannot be missing is
not a matter of the statement but of loading, which refuses a commit in a repository that is not
there (`Warehouse.Housed`).

The sum over a breakdown is not compared with the total directly, but with the number of values over
the matches of the breakdown. The first step is general: parts in which equal values stay together
add up. The second compares two sets of matches by the values that occur in them.

The breakdown has one link more than the total and the same conditions. A filter that breaks
something down binds no more than the global pair, so its statements are never too deep, and both
are accepted as long as there are not too many marks (`Count.breakdown_beyond_marks_refused`).
-/

namespace ActivityMetrics

/-- The same filter without a breakdown. It keeps the global pair and the exclusions. -/
def Filter.ungrouped (f : Filter) : Filter :=
  { f with selection := .bound [] }

namespace Count

variable {c : Count} {w : Warehouse} {f : Filter} {group : Option Dimension} {m m' : Match}

/-! ## Places

A place is known by its number, and a match has the number whether the place is joined or not. -/

/-- What is counted is in one place each. Commits and issues are where they are, and repositories
are places themselves. -/
def CountsPlaced (c : Count) : Prop :=
  c = .commits ∨ c = .repositories ∨ c = .opened ∨ c = .closed

/-- What a metric counts under a number is in the place of a number. The value of a match is such a
number, and nothing else of the match matters for where it is counted. -/
def Locates (c : Count) (w : Warehouse) (n place : Int) : Prop :=
  match c with
  | .commits => ∃ x ∈ w.commits, x.id = n ∧ x.repository = place
  | .repositories => ∃ x ∈ w.commits, x.repository = n ∧ n = place
  | .opened | .closed => ∃ i ∈ w.issues, i.id = n ∧ i.tracker = place
  | .authors | .committers | .openers | .closers => False

/-- **A number leads to one place**, as numbers tell the records of a table apart. -/
theorem Locates.unique (keyed : w.Keyed) {n k k' : Int} (h : c.Locates w n k)
    (h' : c.Locates w n k') : k = k' := by
  cases c with
  | commits =>
    obtain ⟨x, known, number, rfl⟩ := h
    obtain ⟨x', known', number', rfl⟩ := h'
    rw [List.inj_on_of_nodup_map keyed.commits known known' (number.trans number'.symm)]
  | repositories =>
    obtain ⟨_, _, _, rfl⟩ := h
    obtain ⟨_, _, _, rfl⟩ := h'
    rfl
  | opened | closed =>
    obtain ⟨i, known, number, rfl⟩ := h
    obtain ⟨i', known', number', rfl⟩ := h'
    rw [List.inj_on_of_nodup_map keyed.issues known known' (number.trans number'.symm)]
  | authors | committers | openers | closers => cases h

/-- **The place is there.** A record that refers to a place was only added with the place known. -/
theorem Locates.exists_place (housed : w.Housed) {n k : Int} (h : c.Locates w n k) :
    ∃ p ∈ w.places c.source, p.id = k := by
  cases c with
  | commits =>
    obtain ⟨x, known, _, rfl⟩ := h
    exact housed.commits x known
  | repositories =>
    obtain ⟨x, known, rfl, rfl⟩ := h
    exact housed.commits x known
  | opened | closed =>
    obtain ⟨i, known, _, rfl⟩ := h
    exact housed.issues i known
  | authors | committers | openers | closers => cases h

/-- The value of a match leads to its place. For a change the way leads over its issue, which the
metric joins by itself. -/
theorem exists_locates (hc : c.CountsPlaced) (hm : m ∈ (c.query w f group).matchesIn w) :
    ∃ n k, (c.query w f group).counted.valueOf m = some (.number n) ∧
      m.repository = some k ∧ c.Locates w n k := by
  obtain ⟨⟨known, _⟩, _, links, _⟩ := (Clauses.mem_matchesIn_iff (c.chain_query w f group)).1 hm
  rw [event_query] at known links
  rcases hc with rfl | rfl | rfl | rfl
  · -- commits, repositories with a commit and opened issues are in the place of their own record
    obtain ⟨x, hx, record⟩ := List.mem_map.1 known
    refine ⟨x.id, x.repository, ?_, ?_, x, hx, rfl, rfl⟩
    · show Counted.valueOf .commit m = _
      unfold Counted.valueOf
      rw [← record]
    · rw [Match.repository, ← record]
  · obtain ⟨x, hx, record⟩ := List.mem_map.1 known
    refine ⟨x.repository, x.repository, ?_, ?_, x, hx, rfl, rfl⟩
    · show Counted.valueOf .repository m = _
      unfold Counted.valueOf
      rw [← record]
    · rw [Match.repository, ← record]
  · obtain ⟨i, hi, record⟩ := List.mem_map.1 known
    refine ⟨i.id, i.tracker, ?_, ?_, i, hi, rfl, rfl⟩
    · show Counted.valueOf .issue m = _
      unfold Counted.valueOf
      rw [← record]
    · rw [Match.repository, ← record]
  · -- the issue of a change is linked
    obtain ⟨x, _, record⟩ := List.mem_map.1 known
    obtain ⟨i, hi, linked, tied⟩ := links .issue (mem_joins_query.2 (.inl List.mem_cons_self))
    rw [← record] at tied
    refine ⟨x.issue, i.tracker, ?_, ?_, i, hi, beq_iff_eq.1 tied, rfl⟩
    · show Counted.valueOf .changedIssue m = _
      unfold Counted.valueOf
      rw [← record]
    · rw [Match.repository, ← record, linked]
      rfl

/-! ## Matches with their places

The matches of the breakdown are those of the total, each with its place. -/

/-- A breakdown has the links of the total and those of its dimension. -/
theorem mem_joins_every_iff {d : Dimension} {l : Link} :
    l ∈ (c.query w f (some d)).clauses.joins ↔
      l ∈ (c.query w f none).clauses.joins ∨ l ∈ d.links c.source := by
  simp only [mem_joins_query, Option.mem_def, Option.some.injEq, exists_eq_left', reduceCtorEq,
    false_and, exists_false, or_false, or_assoc]

/-- A breakdown has the conditions of the total. To group asks nothing of a match. -/
theorem predicates_every (c : Count) (w : Warehouse) (f : Filter) (d : Dimension) :
    (c.query w f (some d)).clauses.predicates = (c.query w f none).clauses.predicates :=
  rfl

/-- The link to the place of a match is there. -/
theorem exists_place_of_every (hm : m ∈ (c.query w f (some .repository)).matchesIn w) :
    ∃ p ∈ w.places c.source, m.place = some p ∧ m.repository = some p.id := by
  obtain ⟨_, _, links, _⟩ :=
    (Clauses.mem_matchesIn_iff (c.chain_query w f (some .repository))).1 hm
  exact links (.repository c.source) (mem_joins_every_iff.2 (.inr List.mem_cons_self))

/-- **Matches that count the same are in the same place.** They may differ in everything else: of a
person who is enrolled twice there are two matches for each commit, both in its repository. -/
theorem place_eq_of_valueOf_eq (hc : c.CountsPlaced) (keyed : w.Keyed) (housed : w.Housed)
    (hm : m ∈ (c.query w f (some .repository)).matchesIn w)
    (hm' : m' ∈ (c.query w f (some .repository)).matchesIn w)
    (same : (c.query w f (some .repository)).counted.valueOf m
      = (c.query w f (some .repository)).counted.valueOf m') : m.place = m'.place := by
  obtain ⟨n, k, value, repository, located⟩ := exists_locates hc hm
  obtain ⟨n', k', value', repository', located'⟩ := exists_locates hc hm'
  obtain ⟨p, known, place, tied⟩ := exists_place_of_every hm
  obtain ⟨p', known', place', tied'⟩ := exists_place_of_every hm'
  rw [value, value'] at same
  obtain rfl : n = n' := MatchValue.number.inj (Option.some.inj same)
  obtain rfl := located.unique keyed located'
  have number : p.id = p'.id := Option.some.inj
    (tied.symm.trans (repository.trans (repository'.symm.trans tied')))
  rw [place, place', housed.place_unique known known' number]

/-- Where the place of a match is looked for, it is the same. A filter may bind a repository
already, and then the match has its place and is given no other. -/
theorem agreeAt_place (housed : w.Housed) (hm : m ∈ (c.query w f none).matchesIn w) {p : Entity}
    (known : p ∈ w.places c.source) (here : m.repository = some p.id) {s : Slot}
    (hs : s ∈ (c.query w f none).clauses.joins.map Link.slot) :
    m.AgreeAt { m with place := some p } s := by
  cases s with
  | issue => exact fun _ _ => rfl
  | identity | enrollment kind | group kind => rfl
  | place =>
    obtain ⟨l, hl, own⟩ := List.mem_map.1 hs
    cases l with
    | repository source =>
      obtain rfl := (c.chain_query w f none).of_source hl
      obtain ⟨_, _, links, _⟩ := (Clauses.mem_matchesIn_iff (c.chain_query w f none)).1 hm
      obtain ⟨q, found, place, tied⟩ := links _ hl
      have same : q.id = p.id := Option.some.inj (tied.symm.trans here)
      exact place.trans (congrArg some (housed.place_unique found known same))
    | issue | identity | enrollment | group => cases own

/-- **A match has a place besides its other records.** With it, it is a match of the breakdown, and
it has the same value. -/
theorem exists_placed (hc : c.CountsPlaced) (housed : w.Housed)
    (hm : m ∈ (c.query w f none).matchesIn w) :
    ∃ m' ∈ (c.query w f (some .repository)).matchesIn w,
      (c.query w f (some .repository)).counted.valueOf m'
        = (c.query w f none).counted.valueOf m := by
  obtain ⟨n, k, value, repository, located⟩ := exists_locates hc hm
  obtain ⟨p, known, rfl⟩ := located.exists_place housed
  obtain ⟨window, within, links, conditions⟩ :=
    (Clauses.mem_matchesIn_iff (c.chain_query w f none)).1 hm
  have record : m.record = ({ m with place := some p } : Match).record := rfl
  obtain ⟨links', conditions'⟩ := Clauses.holds_of_agree (c.chain_query w f none)
    (c.supported_query w f) record (fun _ _ => rfl)
    (fun _ hs => agreeAt_place housed hm known repository hs) links conditions
  have own : Link.repository c.source ∈ (c.query w f (some .repository)).clauses.joins :=
    mem_joins_every_iff.2 (.inr List.mem_cons_self)
  refine ⟨{ m with place := some p }, (Clauses.mem_matchesIn_iff
    (c.chain_query w f (some .repository))).2 ⟨window, fun s filled => ?_, fun l hl => ?_,
      conditions'⟩, Counted.valueOf_congr rfl fun _ => rfl⟩
  · by_cases here : s = .place
    · exact here ▸ List.mem_map.2 ⟨_, own, rfl⟩
    · have before : m.filled s := by cases s <;> first
        | exact filled
        | exact absurd rfl here
      obtain ⟨l, hl, slot⟩ := List.mem_map.1 (within s before)
      exact List.mem_map.2 ⟨l, mem_joins_every_iff.2 (.inl hl), slot⟩
  · rcases mem_joins_every_iff.1 hl with old | new
    · exact links' l old
    · obtain rfl := List.mem_singleton.1 new
      exact ⟨p, known, rfl, repository⟩

/-! ## Statements

Whether a breakdown is accepted has to be compared with whether its total is, as the theorem speaks
of both answers. -/

/-- The total of a filter without a breakdown takes the same matches as the breakdown, less the
items. -/
theorem query_ungrouped {d : Dimension} (every : f.selection = .every d) (c : Count)
    (w : Warehouse) : c.query w f.ungrouped none = c.query w f none := by
  obtain ⟨period, start, stop, lt, selection, limit, actors, organizations, global, closing⟩ := f
  subst every
  rfl

/-- **Only the number of marks matters** for whether a breakdown is accepted, and it is that of the
total. -/
theorem admitted_every_iff {d : Dimension} (every : f.selection = .every d)
    (unlimited : f.limit = none) :
    (c.query w f (some d)).Admitted .aggregate ↔
      (c.query w f.ungrouped none).Admitted .aggregate := by
  have few : f.bindings.length ≤ 1 := by
    rw [Filter.bindings, every]
    cases f.global <;> exact Nat.le_of_ble_eq_true rfl
  have shallow : ∀ group, (c.query w f group).clauses.reach ≤ Limits.depth := fun group => by
    have reach := reach_query_le c w f group
    unfold Limits.depth
    omega
  have limited : (c.query w f (some d)).limited .aggregate
      = (c.query w f none).limited .aggregate := by
    have limit : ∀ group, (c.query w f group).limit = none := fun _ => unlimited
    simp [Query.limited, limit]
  rw [query_ungrouped every, Query.Admitted, Query.Admitted, limited, and_iff_left (shallow _),
    and_iff_left (shallow _), event_query, event_query, Limits.marksOf, Limits.marksOf,
    predicates_every]

/-! ## The theorem -/

/-- The numbers of all places add up. The parts of the breakdown add up to the values that occur in
it, and these are the values that occur in the total: no more, since a match of the breakdown
without its place is one of the total, and no fewer, since a match of the total has a place. -/
theorem sum_itemTotals (hc : c.CountsPlaced) (keyed : w.Keyed) (housed : w.Housed)
    (every : f.selection = .every .repository) (unlimited : f.limit = none) :
    ((c.listed w f .repository (.repository c.source)).map
      (c.itemTotal w f .repository (.repository c.source))).sum = c.total w f.ungrouped := by
  have key : Dimension.repository.key? c.source = some (.repository c.source) := rfl
  have all : ∀ m ∈ (c.query w f (some .repository)).matchesIn w,
      ∃ v ∈ c.listed w f .repository (.repository c.source),
        GroupKey.valueOf (.repository c.source) m = some v := by
    intro m hm
    obtain ⟨v, item⟩ := exists_item key hm
    exact ⟨v, (Query.mem_rankedItems_iff unlimited).2 ⟨m, hm, item⟩, item⟩
  have parts := Query.sum_itemCount (Query.nodup_rankedItems _ _ _) all
    fun m hm m' hm' same =>
      congrArg (Option.map _) (place_eq_of_valueOf_eq hc keyed housed hm hm' same)
  -- equality in two directions, each by sending the matches of the one query to matches of the
  -- other
  refine parts.trans (Nat.le_antisymm ?_ ?_)
  · rw [total, query_ungrouped every]
    refine Counted.count_le fun m hm => ?_
    have coarser : ∀ d ∈ (none : Option Dimension), d ∈ some .repository := by
      intro d hd
      cases hd
    obtain ⟨m', hm', _, value, _⟩ := exists_wider (.refl f) coarser hm
    exact ⟨m', hm', value⟩
  · rw [total, query_ungrouped every]
    exact Counted.count_le fun m hm => exists_placed hc housed hm

/-- **The numbers of all repositories add up to the total.** A commit is in one repository and an
issue in one tracker, so a breakdown by repository without a limit splits commits, repositories with
a commit, opened issues and closed issues. The breakdown and the total are accepted together, and
fail together in the database.

The items and their numbers are those that the breakdown lists, each item once, so that the sum is
one over a list that a client has in hand. The filter may leave people out and bind the global pair;
it may not have a limit, which would leave the rest of the ranking out of the sum. -/
theorem repositories_add_up (hc : c.CountsPlaced) (reachable : w.Reachable)
    (every : f.selection = .every .repository) (unlimited : f.limit = none) :
    ((c.query w f (some .repository)).Admitted .aggregate →
      ∃ items value, c.Lists w f .repository items value ∧
        c.Answers w f.ungrouped (items.map value).sum) ∧
    (¬ (c.query w f (some .repository)).Admitted .aggregate →
      (∃ fault, c.aggregate w f = .error (.database fault)) ∧
        ∃ fault, c.aggregate w f.ungrouped = .error (.database fault)) := by
  have key : Dimension.repository.key? c.source = some (.repository c.source) := rfl
  have accepted := admitted_every_iff (c := c) (w := w) every unlimited
  refine ⟨fun h => ⟨_, _, lists_of_admitted key (Filter.group?_of_every every) h, ?_⟩,
    fun h => ⟨aggregate_every_refused key every h,
      aggregate_refused rfl fun whole => h (accepted.2 whole)⟩⟩
  rw [sum_itemTotals hc reachable.keyed reachable.housed every unlimited]
  exact answers_total rfl (accepted.1 h)

/-- The six commits of the overtaking month are those of the two repositories. -/
theorem repositories_add_up_overtaking :
    (∃ items value,
      commits.Lists .overtaking (.january (.every .repository)) .repository items value ∧
      commits.Answers .overtaking (Filter.january (.every .repository)).ungrouped
        (items.map value).sum) ∧
    commits.total .overtaking (Filter.january (.every .repository)).ungrouped = 6 := by
  have add_up := repositories_add_up (c := commits) (w := .overtaking)
    (f := .january (.every .repository)) (.inl rfl) ⟨_, rfl⟩ rfl rfl
  exact ⟨add_up.1 (by decide), by decide⟩

/-! ## One mark too many

The people to be left out are marks, one for each, and the database counts them before it looks at
anything. -/

/-- **A breakdown may be refused**, and so is its total. Without one actor and so many more, there
is neither a list nor a total of commits, although there are commits. -/
theorem breakdown_beyond_marks_refused :
    Warehouse.overtaking.Reachable ∧ (Filter.withoutBots 32764 (.every .repository)).limit = none ∧
    (∃ fault, commits.aggregate .overtaking (.withoutBots 32764 (.every .repository))
      = .error (.database fault)) ∧
    (∃ fault, commits.aggregate .overtaking
      (Filter.withoutBots 32764 (.every .repository)).ungrouped = .error (.database fault)) ∧
    ¬ ∃ items value,
      commits.Lists .overtaking (.withoutBots 32764 (.every .repository)) .repository items value ∧
      commits.Answers .overtaking (Filter.withoutBots 32764 (.every .repository)).ungrouped
        (items.map value).sum := by
  have every : (Filter.withoutBots 32764 (.every .repository)).selection = .every .repository := rfl
  have unlimited : (Filter.withoutBots 32764 (.every .repository)).limit = none := rfl
  have whole : ¬ (commits.query .overtaking
      (Filter.withoutBots 32764 (.every .repository)).ungrouped none).Admitted .aggregate := by
    intro accepted
    have marks : 32764 + 3 ≤ Limits.marks := marksOf_withoutBots 32764 .overtaking ▸ accepted.1
    exact absurd marks (by decide)
  have refused := aggregate_refused rfl whole
  refine ⟨⟨_, rfl⟩, rfl, ?_, refused, ?_⟩
  · exact aggregate_every_refused rfl every fun accepted =>
      whole ((admitted_every_iff every unlimited).1 accepted)
  · rintro ⟨_, _, _, answered⟩
    obtain ⟨fault, failed⟩ := refused
    exact not_answers_of_error failed answered

end Count

end ActivityMetrics
