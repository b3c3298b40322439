import ActivityMetrics.Proofs.Metric.Binding
import ActivityMetrics.Proofs.Metric.SameAnswers
import ActivityMetrics.Proofs.Metric.Timely
import ActivityMetrics.Proofs.Warehouse.Projects
import Mathlib

/-!
# Selecting a project

A project selects the events in the repositories of its tree, which is found whatever the links
between projects are (`Count.counts_also_project_iff`). The issue of a change says in which tracker
it is, and no other repository is asked for. More links between projects select more events, and
repositories that are numbered by the other source are not looked at.

A project is the one dimension that is not reached by links. Its tree is found before the statement
is written, and goes into the statement as a list of names; the condition then looks the repository
of the event up among those of these projects. So what has to be shown of a project is about two
searches, the one among projects (`Warehouse.mem_projectTree_iff`), which may run in circles, and
the one of the subquery. The links of the statement stay as they are.

Repositories and trackers are numbered separately, and the same number may be given to one of each.
The table of the repositories of projects has both, told apart by the source. A query must never
take the number of the one for that of the other, and this is why the source is a part of the
condition.
-/

namespace ActivityMetrics

/-- An event is in a repository or a tracker. A change is where its issue is. The number alone does
not say of which kind the place is; the kind of the event does. -/
def EventRecord.IsIn (w : Warehouse) (repository : Int) : EventRecord → Prop
  | .commit c => c.repository = repository
  | .issue i => i.tracker = repository
  | .change x => ∃ i ∈ w.issues, i.id = x.issue ∧ i.tracker = repository

namespace Warehouse

variable {w w' : Warehouse}

/-- A repository of a source belongs to a project, or to one in its tree. The tree is given by
reachability, and not by what a search finds. -/
def TreeHas (w : Warehouse) (source : Source) (project : String) (repository : Int) : Prop :=
  ∃ q, w.Reaches project q ∧ ⟨q, source, repository⟩ ∈ w.projectRepositories

/-- Two warehouses have the same records, except about projects. The three tables about projects may
differ in any way. -/
def SameBesidesProjects (w w' : Warehouse) : Prop :=
  ∃ projects children repositories,
    w' = { w with projects, projectChildren := children, projectRepositories := repositories }

/-- A warehouse has the same records as another, and more about projects. More is known where one
project is made part of another, or is given a repository. -/
structure MoreProjects (w w' : Warehouse) : Prop where
  /-- All other records are the same. -/
  rest : w.SameBesidesProjects w'
  /-- No link between projects is lost. -/
  children : w.projectChildren ⊆ w'.projectChildren
  /-- No repository of a project is lost. -/
  repositories : w.projectRepositories ⊆ w'.projectRepositories

/-- What a tree has it still has when there are more links. -/
theorem MoreProjects.treeHas (h : w.MoreProjects w') {source : Source} {project : String}
    {repository : Int} (has : w.TreeHas source project repository) :
    w'.TreeHas source project repository := by
  obtain ⟨q, reaches, attached⟩ := has
  exact ⟨q, reaches.mono h.children, h.repositories attached⟩

/-- To make a project part of another adds to what is known about projects, or changes nothing. -/
theorem moreProjects_addSubproject (w : Warehouse) (parent child : String) :
    w.MoreProjects (w.addSubproject parent child) := by
  unfold addSubproject
  dsimp only
  split
  · exact ⟨⟨_, _, _, rfl⟩, List.Subset.refl _, List.Subset.refl _⟩
  · exact ⟨⟨_, _, _, rfl⟩, List.subset_append_left _ _, List.Subset.refl _⟩

end Warehouse

/-! ## The condition of a project

The condition is read off once, and what other conditions do in a warehouse with other projects is
seen to be the same. -/

variable {w w' : Warehouse} {e : Event} {m : Match} {source : Source} {p : String}

/-- The condition of a project holds of a match if the repository of the match belongs to its
tree. -/
theorem Condition.holds_inProjects_iff :
    (inProjects source (w.projectTree p)).holds w e m ↔
      ∃ id, m.repository = some id ∧ w.TreeHas source p id := by
  simp only [holds, List.any_eq_true, Bool.and_eq_true, beq_iff_eq, List.contains_iff_mem,
    Warehouse.mem_projectTree_iff, Warehouse.TreeHas]
  constructor
  · rintro ⟨link, known, ⟨repository, rfl⟩, reaches⟩
    exact ⟨link.repository, repository, link.project, reaches, known⟩
  · rintro ⟨id, repository, q, reaches, attached⟩
    exact ⟨_, attached, ⟨repository, rfl⟩, reaches⟩

namespace Warehouse

namespace SameBesidesProjects

/-- Events have nothing to do with projects. -/
theorem records (h : w.SameBesidesProjects w') (e : Event) : e.records w' = e.records w := by
  obtain ⟨projects, children, repositories, rfl⟩ := h
  cases e <;> rfl

/-- The records that a link leads to have nothing to do with projects. -/
theorem extend (h : w.SameBesidesProjects w') (l : Link) (m : Match) :
    l.extend w' e m = l.extend w e m := by
  obtain ⟨projects, children, repositories, rfl⟩ := h
  cases l with
  | repository source => cases source <;> rfl
  | group kind => cases kind <;> rfl
  | issue | identity | enrollment kind => rfl

/-- A link holds without projects being looked at, whether it is followed or checked. -/
theorem holds_link (h : w.SameBesidesProjects w') (l : Link) :
    l.Holds w' e m ↔ l.Holds w e m := by
  obtain ⟨projects, children, repositories, rfl⟩ := h
  cases l with
  | repository source => cases source <;> exact Iff.rfl
  | group kind => cases kind <;> exact Iff.rfl
  | issue | identity | enrollment kind => exact Iff.rfl

/-- What is left out has nothing to do with projects. -/
theorem spares (h : w.SameBesidesProjects w') {f : Filter} {r : EventRecord}
    (spared : f.Spares w e r) : f.Spares w' e r := by
  obtain ⟨projects, children, repositories, rfl⟩ := h
  exact ⟨spared.actors, spared.organizations⟩

/-- A condition stays the same, as long as it asks for no repositories that have changed. -/
theorem holds (h : w.SameBesidesProjects w') {c : Condition}
    (same : ∀ source projects, c = .inProjects source projects →
      ∀ l : ProjectRepository, l.source = source →
        (l ∈ w'.projectRepositories ↔ l ∈ w.projectRepositories)) :
    c.holds w' e m = c.holds w e m := by
  cases c with
  | inProjects source projects =>
    rw [Bool.eq_iff_iff, Condition.holds, Condition.holds, List.any_eq_true, List.any_eq_true]
    simp only [Bool.and_eq_true, beq_iff_eq]
    exact exists_congr fun l => and_congr_left fun own =>
      same source projects rfl l own.1.2
  | repositoryIs | personIs | memberOf | notBy | notFrom | closes =>
    obtain ⟨projects, children, repositories, rfl⟩ := h
    rfl

end SameBesidesProjects

/-- **What a dimension selects is kept.** -/
theorem MoreProjects.holds_condition (h : w.MoreProjects w') {d : Dimension} {v : String}
    (holds : (d.condition w source v).holds w e m) : (d.condition w' source v).holds w' e m := by
  cases d with
  | project =>
    obtain ⟨id, repository, has⟩ := Condition.holds_inProjects_iff.1 holds
    exact Condition.holds_inProjects_iff.2 ⟨id, repository, h.treeHas has⟩
  | repository | company | country | domain | person => exact holds

end Warehouse

namespace Count

variable {c : Count} {f : Filter} {r : EventRecord}

/-- The repository of a match is that of its event. For a change the match has the issue, and there
is one issue of this number. -/
theorem repository_eq_some_iff (keyed : w.Keyed) (known : m.record ∈ c.event.records w)
    (links : ∀ l ∈ (c.query w f none).clauses.joins, l.Holds w c.event m) {id : Int} :
    m.repository = some id ↔ m.record.IsIn w id := by
  unfold Match.repository
  cases record : m.record with
  | commit | issue => exact Option.some_inj
  | change x =>
    have linked : Link.issue ∈ (c.query w f none).clauses.joins :=
      (c.issue_mem_joins_or w f).resolve_right fun no_change => no_change x (record ▸ known)
    obtain ⟨i, hi, issue, tied⟩ := links _ linked
    rw [record, beq_iff_eq] at tied
    rw [issue]
    constructor
    · intro same
      exact ⟨i, hi, tied, Option.some.inj same⟩
    · rintro ⟨j, hj, same, rfl⟩
      rw [List.inj_on_of_nodup_map keyed.issues hj hi (same.trans tied.symm)]
      rfl

/-- **A project selects an event** exactly when the event is in a repository of its tree. No record
has to be found for this besides those that the match has. -/
theorem counts_also_project_iff (keyed : w.Keyed) :
    c.Counts w (f.also .project p) r ↔
      c.Counts w f r ∧ ∃ id, r.IsIn w id ∧ w.TreeHas c.source p id := by
  constructor
  · intro h
    refine ⟨h.of_also, ?_⟩
    obtain ⟨window, m, rfl, ⟨links, _⟩, _, condition⟩ := counts_also_iff.1 h
    obtain ⟨id, repository, has⟩ := Condition.holds_inProjects_iff.1 condition
    exact ⟨id, (repository_eq_some_iff keyed window.1 links).1 repository, has⟩
  · rintro ⟨h, id, inside, has⟩
    obtain ⟨window, m, rfl, links, conditions⟩ := counts_iff.1 h
    have repository := (repository_eq_some_iff keyed window.1 links).2 inside
    refine counts_also_iff.2 ⟨window, m, rfl, ⟨links, conditions⟩, nofun, ?_⟩
    exact Condition.holds_inProjects_iff.2 ⟨id, repository, has⟩

/-- **More about projects keeps every event that is counted.** No condition of a filter is that
something is in no project, so that more projects can only select more. -/
theorem Counts.of_moreProjects (counted : c.Counts w f r) (h : w.MoreProjects w') :
    c.Counts w' f r := by
  obtain ⟨window, m, rfl, links, conditions⟩ := counts_iff.1 counted
  obtain ⟨base, bound, spared⟩ := forall_predicates_iff.1 conditions
  refine counts_iff.2 ⟨by rwa [h.rest.records], m, rfl, fun l hl => ?_,
    forall_predicates_iff.2 ⟨fun p hp => ?_, fun b hb => h.holds_condition (bound b hb),
      h.rest.spares spared⟩⟩
  · rw [mem_joins_query] at hl
    exact (h.rest.holds_link l).2 (links l (mem_joins_query.2 hl))
  · obtain ⟨rfl, _⟩ := mem_base_predicates hp
    exact base _ hp

/-- A part of a project selects no more than the project. Its tree is within that of the project. -/
theorem Counts.of_part (keyed : w.Keyed) {q : String} (part : w.HasPart p q)
    (counted : c.Counts w (f.also .project q) r) : c.Counts w (f.also .project p) r := by
  obtain ⟨before, id, inside, s, reaches, attached⟩ := (counts_also_project_iff keyed).1 counted
  exact (counts_also_project_iff keyed).2 ⟨before, id, inside, s, .head part reaches, attached⟩

/-! ## Repositories of the other source

A number that the other source gives out is of no consequence for a metric. This takes more than
that its events are the same: all rows have to be. -/

/-- A query asks for repositories of its own source only. -/
theorem source_of_inProjects_mem {group : Option Dimension} {projects : List String}
    (h : .inProjects source projects ∈ (c.query w f group).clauses.predicates) :
    source = c.source := by
  rcases mem_predicates_query.1 h with base | ⟨b, _, bound⟩ | excluded
  · cases (mem_base_predicates base).1
  · obtain ⟨d, v⟩ := b
    cases d <;> cases bound
    rfl
  · cases Filter.reads_of_mem_exclusions excluded

/-- **A metric looks only at the repositories that its source numbers.** With the same links between
projects the statement is the same text, and with the same repositories of its source it has the
same matches. -/
theorem sameRuns_of_repositories (h : w.SameBesidesProjects w')
    (children : w'.projectChildren = w.projectChildren)
    (same : ∀ l : ProjectRepository, l.source = c.source →
      (l ∈ w'.projectRepositories ↔ l ∈ w.projectRepositories)) : c.SameRuns w w' := by
  intro f group limit mode
  rw [query_congr children]
  refine Query.run_congr (.of_eq (Clauses.matchesIn_congr (h.records _) (fun l _ m => h.extend l m)
    (fun p hp m => h.holds fun source projects asks l numbered => ?_) _ _)) mode
  subst asks
  exact same l (numbered.trans (source_of_inProjects_mem hp))

end Count

/-- To attach a repository to a project changes nothing but what is known about projects. -/
theorem Warehouse.sameBesidesProjects_addProjectRepository (w : Warehouse) (project : String)
    (source : Source) (repository : Int) :
    w.SameBesidesProjects (w.addProjectRepository project source repository) := by
  unfold addProjectRepository
  dsimp only
  split <;> exact ⟨_, _, _, rfl⟩

/-- What is known about the repositories of another source stays the same. -/
theorem Warehouse.mem_addProjectRepository_iff {project : String} {repository : Int}
    {l : ProjectRepository} (other : l.source ≠ source) :
    l ∈ (w.addProjectRepository project source repository).projectRepositories ↔
      l ∈ w.projectRepositories := by
  unfold addProjectRepository
  dsimp only
  split
  · exact Iff.rfl
  · rw [List.mem_append, List.mem_singleton]
    exact or_iff_left fun same => other (same ▸ rfl)

/-! ## The theorem

The parts of the theorem are about what is selected, about how it grows, about what is not looked
at, and about the answers. -/

/-- **A project selects exactly the events in the repositories of its tree**, beside what else is
asked for. To make a project part of another lets the whole select what the part selects, and takes
no event away. What is attached under a number of the other source changes no answer. The answer to
a filter counts what it counts, as far as the database accepts the statement.

The tree is reachability along the links from a project to its parts, and the theorem has no
condition on these links: projects may be parts of each other, and of themselves. Nor is a project
asked to be known. One that nobody has heard of has a tree of its name alone, and selects
nothing. -/
theorem Warehouse.project_selects_tree {w : Warehouse} (reachable : w.Reachable) :
    (∀ (c : Count) (f : Filter) (p : String) (r : EventRecord),
      c.Counts w (f.also .project p) r ↔
        c.Counts w f r ∧ ∃ id, r.IsIn w id ∧ w.TreeHas c.source p id) ∧
    (∀ (c : Count) (f : Filter) (p q : String) (r : EventRecord),
      (c.Counts (w.addSubproject p q) (f.also .project q) r →
        c.Counts (w.addSubproject p q) (f.also .project p) r) ∧
      (c.Counts w f r → c.Counts (w.addSubproject p q) f r)) ∧
    (∀ (m : Metric) (project : String) (source : Source) (repository : Int), source ≠ m.source →
      m.SameAnswers w (w.addProjectRepository project source repository)) ∧
    ∀ (c : Count) (f : Filter), f.group? = none →
      ((c.query w f none).Admitted .aggregate → c.Answers w f (c.total w f) ∧
        (c.CountsNumbers → c.total w f = (c.event.records w).countP fun r => c.Counts w f r)) ∧
      (¬ (c.query w f none).Admitted .aggregate →
        ∃ fault, c.aggregate w f = .error (.database fault)) := by
  have keyed := reachable.keyed
  refine ⟨fun c f p r => Count.counts_also_project_iff keyed, fun c f p q r => ⟨fun h => ?_, ?_⟩,
    fun m project source repository other => Metric.sameAnswers_of_runs fun c own => ?_,
    fun c f ungrouped => ⟨fun accepted => ⟨?_, fun hc => Count.total_eq_countP keyed hc⟩,
      Count.aggregate_refused ungrouped⟩⟩
  · exact h.of_part (keyed.perform (.addSubproject p q)) (w.hasPart_addSubproject p q)
  · exact fun h => h.of_moreProjects (w.moreProjects_addSubproject p q)
  · refine Count.sameRuns_of_repositories
      (w.sameBesidesProjects_addProjectRepository project source repository) ?_ fun l numbered =>
        mem_addProjectRepository_iff fun same => other (same.symm.trans (numbered.trans own))
    unfold addProjectRepository
    dsimp only
    split <;> rfl
  · exact Count.answers_total ungrouped accepted

/-! ## Projects that are parts of each other

The circle is there to show that the search ends, and the repository of the same number to show that
the source is looked at. -/

/-- Two projects that are parts of each other. The tracker belongs to the editor, and the suite has
a repository of the same number. -/
def Warehouse.suite : Warehouse :=
  .load .empty
    [.addSubproject "suite" "editor", .addSubproject "editor" "suite", .nameTracker "t",
      .addProjectRepository "editor" .its 1, .addProjectRepository "suite" .scm 1,
      .insertIssue 1 "1" none "2025-01-02", .insertChange 1 "f" "C" none "2025-01-03"]

/-- The tracker belongs to the suite through the editor. -/
theorem Warehouse.treeHas_suite : suite.TreeHas .its "suite" 1 :=
  ⟨"editor", .single (show ⟨"suite", "editor"⟩ ∈ suite.projectChildren by decide), by decide⟩

/-- The issue of the editor is counted for the suite, and the number that the other source gives out
does not make it the suite's own. -/
theorem Warehouse.project_selects_tree_suite :
    Count.opened.Answers suite ((Filter.january (.bound [])).also .project "suite") 1 ∧
    (∃ r ∈ Count.opened.event.records suite,
      Count.opened.Counts suite ((Filter.january (.bound [])).also .project "suite") r) ∧
    (Metric.count .opened).SameAnswers suite (suite.addProjectRepository "suite" .scm 2) := by
  let issue : EventRecord := .issue ⟨1, 1, "1", none, none, "2025-01-02"⟩
  obtain ⟨selects, _, unseen, answers⟩ := project_selects_tree (w := suite) ⟨_, rfl⟩
  obtain ⟨accepted, _⟩ := answers .opened ((Filter.january (.bound [])).also .project "suite") rfl
  have one : Count.opened.total suite ((Filter.january (.bound [])).also .project "suite") = 1 := by
    cbv
  refine ⟨one ▸ (accepted (by cbv)).1, ⟨issue, by decide, ?_⟩, ?_⟩
  · exact (selects .opened _ "suite" issue).2 ⟨by decide, 1, rfl, treeHas_suite⟩
  · exact unseen (.count .opened) "suite" .scm 2 (by decide)

/-! ## Two marks too many

A project takes a mark for its source and one for each project of its tree, and so two at least. -/

/-- January 2025, where one value or one of so many more closes an issue. -/
def Filter.closedByOneOf (more : Nat) : Filter :=
  { january (.bound []) with closing := some ⟨"f", "C" :: List.replicate more "C"⟩ }

namespace Count

variable (more : Nat)

theorem marksOf_closedByOneOf :
    Limits.marksOf .changes (closed.query .suite (.closedByOneOf more) none).clauses false
      = more + 4 := by
  have predicates : (closed.query .suite (.closedByOneOf more) none).clauses.predicates
      = [.closes ⟨"f", "C" :: List.replicate more "C"⟩] := rfl
  rw [Limits.marksOf, predicates, List.map_singleton, Condition.marks_closes, List.sum_singleton,
    List.length_cons, List.length_replicate, Bool.toNat_false]
  omega

/-- A project has a mark for the source and one for each project of its tree. -/
theorem marksOf_closedByOneOf_also :
    more + 6 ≤ Limits.marksOf .changes
      (closed.query .suite ((Filter.closedByOneOf more).also .project "suite") none).clauses
        false := by
  have tree : Warehouse.suite.projectTree "suite" = ["suite", "editor"] := by cbv
  have predicates : (closed.query .suite ((Filter.closedByOneOf more).also .project "suite")
      none).clauses.predicates
        = [.closes ⟨"f", "C" :: List.replicate more "C"⟩,
          .inProjects .its (Warehouse.suite.projectTree "suite")] := rfl
  have mark : (Condition.inProjects .its ["suite", "editor"]).marks .changes = 3 := rfl
  rw [Limits.marksOf, predicates, tree, List.map_cons, List.map_singleton, Condition.marks_closes,
    mark, List.sum_cons, List.sum_singleton, List.length_cons, List.length_replicate,
    Bool.toNat_false]
  omega

theorem total_closedByOneOf : closed.total .suite (.closedByOneOf more) = 1 := by
  cbv

/-- **A project may be refused.** With as many marks as there may be, the issue that was closed is
counted. It is in a tracker of the suite, and the database refuses the total of the suite. -/
theorem project_beyond_marks_refused :
    Warehouse.suite.Reachable ∧ closed.Answers .suite (.closedByOneOf 32762) 1 ∧
    (∃ r, closed.Counts .suite (.closedByOneOf 32762) r ∧
      ∃ id, r.IsIn .suite id ∧ Warehouse.suite.TreeHas .its "suite" id) ∧
    ∃ fault, closed.aggregate .suite ((Filter.closedByOneOf 32762).also .project "suite")
      = .error (.database fault) := by
  have accepted : (closed.query .suite (.closedByOneOf 32762) none).Admitted .aggregate :=
    ⟨Nat.le_of_eq (marksOf_closedByOneOf 32762), by decide⟩
  refine ⟨⟨_, rfl⟩, total_closedByOneOf 32762 ▸ answers_total rfl accepted, ?_, ?_⟩
  · let change : Change := ⟨1, 1, "f", none, "C", none, "2025-01-03"⟩
    refine ⟨.change change, by decide, 1, ?_, Warehouse.treeHas_suite⟩
    exact show ∃ i ∈ Warehouse.suite.issues, i.id = 1 ∧ i.tracker = 1 by decide
  · refine aggregate_refused rfl fun refused => ?_
    have marks : 32762 + 6 ≤ Limits.marks :=
      Nat.le_trans (marksOf_closedByOneOf_also 32762) refused.1
    exact absurd marks (by decide)

end Count

end ActivityMetrics
