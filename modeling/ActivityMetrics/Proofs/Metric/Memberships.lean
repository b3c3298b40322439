import ActivityMetrics.Proofs.Metric.Affiliation
import ActivityMetrics.Proofs.Metric.SameAnswers
import ActivityMetrics.Proofs.Query.Slots

/-!
# Memberships that say the same

Two warehouses have the same memberships if each membership of one is, but for its number, one of
the other, and the groups that memberships lead to are the same (`Warehouse.SameMemberships`). One
of them may then have a membership twice, and groups that nobody belongs to. A query joins
memberships and so finds a different number of matches, but the same is read from them. So every
question has the same answer over both warehouses (`Warehouse.SameMemberships.answersAlike`).

The matches are compared in the only way that is left if their number is not the same: for each
match over one warehouse there is one over the other from which the same is read, and the other way
around. To find it, the memberships in the match are given the numbers that they have in the other
warehouse. This must be done for all memberships at once and before any match is looked at, since
the records of a match refer to each other. The relation is symmetric, so one direction is enough.
-/

namespace ActivityMetrics

open Calendar

namespace Warehouse

variable {w w' : Warehouse}

/-- All questions have the same answers over two warehouses. This is what it means that a difference
between two warehouses is not to be seen, and it is the conclusion of all theorems about loading. -/
structure AnswersAlike (w w' : Warehouse) : Prop where
  /-- The metrics are the same, under every filter. -/
  metrics : ∀ m : Metric, m.SameAnswers w w'
  /-- A person belongs to the same groups at every instant. -/
  affiliations : ∀ (uuid : String) (kind : Affiliation) (t : Instant),
    w'.affiliationsAt uuid kind t = w.affiliationsAt uuid kind t
  /-- The same person is behind a raw actor. -/
  actors : ∀ (source : Source) (actor : Int), w'.resolve? source actor = w.resolve? source actor
  /-- The same projects are part of a project. -/
  projects : ∀ project : String, w'.projectTree project = w.projectTree project
  /-- The same people are programs. -/
  bots : w'.bots = w.bots

/-- A warehouse answers as itself. -/
theorem AnswersAlike.refl (w : Warehouse) : w.AnswersAlike w :=
  ⟨fun _ => ⟨fun _ => rfl, fun _ => rfl, fun _ => rfl, fun _ _ _ => rfl⟩, fun _ _ _ => rfl,
    fun _ _ => rfl, fun _ => rfl, rfl⟩

/-- A warehouse differs from another only in how often it has a membership, in the numbers of
memberships, and in groups that have no members. Such differences come from loading the same
enrolments more than once. -/
structure SameMemberships (w w' : Warehouse) : Prop where
  /-- All records but those of groups and memberships are the same. -/
  rest : ∃ organizations countries domains enrollments,
    w' = { w with organizations, countries, domains, enrollments }
  /-- No membership is lost. -/
  kept : ∀ n ∈ w.enrollments, ∃ id, { n with id } ∈ w'.enrollments
  /-- No membership is new. -/
  known : ∀ n ∈ w'.enrollments, ∃ id, { n with id } ∈ w.enrollments
  /-- The groups that memberships lead to are the same. -/
  groups : ∀ n ∈ w.enrollments, ∀ g : Entity, g.id = n.target →
    (g ∈ w'.entities n.kind ↔ g ∈ w.entities n.kind)

/-- Which of the two is the other does not matter. So what holds of the first because it holds of
the second holds of the second because it holds of the first. -/
theorem SameMemberships.symm (h : w.SameMemberships w') : w'.SameMemberships w := by
  refine ⟨?_, h.known, h.kept, fun n hn g target => ?_⟩
  · obtain ⟨organizations, countries, domains, enrollments, rfl⟩ := h.rest
    exact ⟨_, _, _, _, rfl⟩
  · obtain ⟨id, there⟩ := h.known n hn
    exact (h.groups _ there g target).symm

end Warehouse

/-- The match with the memberships numbered anew. -/
def Match.renumber (number : Enrollment → Int) (m : Match) : Match :=
  { m with enrollment := fun kind => (m.enrollment kind).map fun n => { n with id := number n } }

/-- The number of a membership is not read from a match. -/
theorem Match.readsAs_renumber (number : Enrollment → Int) (m : Match) :
    m.ReadsAs (m.renumber number) :=
  ⟨rfl, rfl, rfl, fun _ => rfl⟩

/-- Its slots are filled as before. -/
theorem Match.filled_renumber (number : Enrollment → Int) (m : Match) (s : Slot) :
    (m.renumber number).filled s = m.filled s := by
  cases s with
  | enrollment kind => exact Option.isSome_map
  | issue | place | identity | group kind => rfl

namespace Warehouse.SameMemberships

variable {w w' : Warehouse} {e : Event} {m : Match} {kind : Affiliation}
variable {name uuid instant : String}

/-- The events are the same, as memberships are not among them. -/
theorem records (h : w.SameMemberships w') (e : Event) : e.records w' = e.records w := by
  obtain ⟨organizations, countries, domains, enrollments, rfl⟩ := h.rest
  cases e <;> rfl

/-! ## Members

Who is a member is said without numbers, and so the two warehouses agree about it. What depends on
members alone agrees for this reason. -/

/-- A member of a group is one in the other warehouse. -/
theorem isMember (h : w.SameMemberships w') (member : w.IsMember kind name uuid instant) :
    w'.IsMember kind name uuid instant := by
  obtain ⟨n, hn, ⟨person, rfl, during⟩, g, known, target, named⟩ := member
  obtain ⟨id, there⟩ := h.kept n hn
  exact ⟨_, there, ⟨person, rfl, during⟩, g, (h.groups n hn g target).2 known, target, named⟩

/-- **The same people are members.** -/
theorem isMember_iff (h : w.SameMemberships w') :
    w'.IsMember kind name uuid instant ↔ w.IsMember kind name uuid instant :=
  ⟨h.symm.isMember, h.isMember⟩

/-- A person belongs to the same groups, which are listed in the same order. The names are sorted
and without repeats, so that the same names are the same list. -/
theorem affiliationsAt_eq (h : w.SameMemberships w') (uuid : String) (kind : Affiliation)
    (t : Instant) : w'.affiliationsAt uuid kind t = w.affiliationsAt uuid kind t := by
  have same : ∀ name, name ∈ w'.affiliationsAt uuid kind t ↔ name ∈ w.affiliationsAt uuid kind t :=
    fun name => by rw [mem_affiliationsAt_iff, mem_affiliationsAt_iff, h.isMember_iff]
  refine mergeSort_congr (fun _ _ _ le le' => ?_) (fun _ _ => ?_) (fun _ _ _ _ le ge => ?_)
    ((List.perm_ext_iff_of_nodup (nodup_eraseDups _) (nodup_eraseDups _)).2 fun name => ?_)
  · exact decide_eq_true (String.le_trans (of_decide_eq_true le) (of_decide_eq_true le'))
  · rw [Bool.or_eq_true, decide_eq_true_iff, decide_eq_true_iff]
    exact String.le_total _ _
  · exact String.le_antisymm (of_decide_eq_true le) (of_decide_eq_true ge)
  · exact List.mem_mergeSort.symm.trans ((same name).trans List.mem_mergeSort)

/-- The same people are left out with organizations. -/
theorem belongsToOne_eq (h : w.SameMemberships w') (names : List String) (actor : Option Int)
    (instant : String) : Condition.belongsToOne w' names actor instant
      = Condition.belongsToOne w names actor instant := by
  have identities : w'.identities = w.identities := by
    obtain ⟨organizations, countries, domains, enrollments, rfl⟩ := h.rest
    rfl
  rw [Bool.eq_iff_iff, Condition.belongsToOne_iff_hasMember, Condition.belongsToOne_iff_hasMember]
  simp only [HasMember, identities, h.isMember_iff]

/-! ## Matches

A match over one warehouse is taken over into the other. -/

/-- A record of a match belongs to the match with the memberships numbered anew. A group is only
known to be in the other warehouse because a membership leads to it; hence the hypothesis on the
link in front. -/
theorem holds_link (h : w.SameMemberships w') {number : Enrollment → Int}
    (present : ∀ n ∈ w.enrollments, { n with id := number n } ∈ w'.enrollments) {l : Link}
    (holds : l.Holds w e m)
    (member : ∀ kind, l = .group kind → (Link.enrollment kind).Holds w e m) :
    l.Holds w' e (m.renumber number) := by
  cases l with
  | issue | identity =>
    obtain ⟨organizations, countries, domains, enrollments, rfl⟩ := h.rest
    exact holds
  | repository source =>
    obtain ⟨organizations, countries, domains, enrollments, rfl⟩ := h.rest
    cases source <;> exact holds
  | enrollment kind =>
    obtain ⟨n, hn, record, rest⟩ := holds
    refine ⟨{ n with id := number n }, present n hn, ?_, rest⟩
    show (m.enrollment kind).map _ = _
    rw [record]
    rfl
  | group kind =>
    obtain ⟨g, hg, record, target⟩ := holds
    obtain ⟨n, hn, own, -, rfl, -⟩ := member kind rfl
    rw [own] at target
    refine ⟨g, (h.groups n hn g (Option.some.inj target).symm).2 hg, record, ?_⟩
    show ((m.enrollment n.kind).map _).map _ = _
    rw [own]
    exact target

/-- A condition does not ask for the numbers of memberships. -/
theorem holds_condition (h : w.SameMemberships w') (number : Enrollment → Int) (p : Condition) :
    p.holds w' e (m.renumber number) = p.holds w e m := by
  have belongs := h.belongsToOne_eq
  cases p with
  | notFrom names => exact congrArg (!·) (belongs names _ _)
  | repositoryIs source name | personIs uuid | memberOf kind name | inProjects source projects
  | notBy uuids | closes condition =>
    obtain ⟨organizations, countries, domains, enrollments, rfl⟩ := h.rest
    rfl

/-- **What is read from a match over one warehouse** is read from a match over the other. -/
theorem exists_readsAs (h : w.SameMemberships w') {cs : Clauses} {source : Source}
    (chain : Link.Chain source cs.joins) {start stop : String}
    (hm : m ∈ cs.matchesIn w e start stop) :
    ∃ m' ∈ cs.matchesIn w' e start stop, m.ReadsAs m' := by
  have numbered : ∀ n, ∃ id, n ∈ w.enrollments → { n with id } ∈ w'.enrollments := by
    intro n
    by_cases hn : n ∈ w.enrollments
    · obtain ⟨id, there⟩ := h.kept n hn
      exact ⟨id, fun _ => there⟩
    · exact ⟨0, fun there => absurd there hn⟩
  -- one number for each membership, chosen once for the whole match
  choose number present using numbered
  obtain ⟨window, within, links, conditions⟩ := (Clauses.mem_matchesIn_iff chain).1 hm
  refine ⟨m.renumber number, (Clauses.mem_matchesIn_iff chain).2 ⟨?_, ?_, ?_, ?_⟩,
    m.readsAs_renumber number⟩
  · rw [h.records]
    exact window
  · exact fun s filled => within s (m.filled_renumber number s ▸ filled)
  · intro l hl
    refine h.holds_link present (links l hl) fun kind group => ?_
    -- the membership is linked before its group
    subst group
    have before := (chain.supported hl rfl).resolve_left Slot.noConfusion
    exact links _ (Link.mem_of_slot_mem before nofun)
  · intro p hp
    rw [h.holds_condition]
    exact conditions p hp

/-- **The same is read from the matches over both warehouses**, if not as often. -/
theorem sameReadings (h : w.SameMemberships w') {cs : Clauses} {source : Source}
    (chain : Link.Chain source cs.joins) (start stop : String) :
    SameReadings (cs.matchesIn w e start stop) (cs.matchesIn w' e start stop) := by
  refine ⟨fun m hm => h.exists_readsAs chain hm, fun m' hm' => ?_⟩
  obtain ⟨m, hm, reads⟩ := h.symm.exists_readsAs chain hm'
  exact ⟨m, hm, reads.symm⟩

/-! ## Answers

Answers of metrics are read from matches, and the other questions about memberships were answered
above. -/

/-- A counting metric has the same rows. -/
theorem sameRuns (h : w.SameMemberships w') (c : Count) : c.SameRuns w w' := by
  intro f group limit mode
  have children : w'.projectChildren = w.projectChildren := by
    obtain ⟨organizations, countries, domains, enrollments, rfl⟩ := h.rest
    rfl
  rw [Count.query_congr children]
  refine Query.run_congr ?_ mode
  exact h.sameReadings (c.chain_query w f group) _ _

/-- **Where memberships say the same, all questions have the same answers.** -/
theorem answersAlike (h : w.SameMemberships w') : w.AnswersAlike w' := by
  refine ⟨fun m => Metric.sameAnswers_of_runs fun c _ => h.sameRuns c, h.affiliationsAt_eq,
    ?_, ?_, ?_⟩
  all_goals
    obtain ⟨organizations, countries, domains, enrollments, rfl⟩ := h.rest
  · exact fun _ _ => rfl
  · exact projectTree_congr rfl
  · rfl

end Warehouse.SameMemberships

end ActivityMetrics
