import ActivityMetrics.Calendar.Date
import ActivityMetrics.Query.Matching
import ActivityMetrics.Warehouse.Load

/-!
# Questions to the warehouse

Questions that are answered without a metric: who is behind a raw actor, which groups a person
belongs to at an instant, which projects make up a tree of projects, and how many records there are.
-/

namespace ActivityMetrics

open Calendar

namespace Warehouse

/-- The person behind a raw actor of a source. -/
def resolve? (w : Warehouse) (source : Source) (actor : Int) : Option String :=
  (w.identities.find? fun i => i.id == actor && i.source == source).map (·.uuid)

/-- The names of the groups of a kind that a person belongs to at an instant, in order and without
repeats. -/
def affiliationsAt (w : Warehouse) (uuid : String) (kind : Affiliation) (instant : Instant) :
    List String :=
  let memberships := w.enrollments.filter fun n =>
    n.uuid == uuid && n.kind == kind && n.covers instant.text
  let names := memberships.flatMap fun n =>
    ((w.entities kind).filter (·.id == n.target)).map (·.name)
  names.eraseDups.mergeSort (· ≤ ·)

/-- The projects that are part of a project. -/
def partsOf (w : Warehouse) (project : String) : List String :=
  (w.projectChildren.filter (·.parent == project)).map (·.child)

/-- Adds the parts of some projects to them. -/
def withParts (w : Warehouse) (projects : List String) : List String :=
  keepFirsts projects (projects.flatMap w.partsOf)

/-- Adds parts a number of times. -/
def withPartsTimes (w : Warehouse) : Nat → List String → List String
  | 0, projects => projects
  | n + 1, projects => w.withPartsTimes n (w.withParts projects)

/-- A project and everything that is part of it, directly or through other projects. The project
comes first and the rest is in order. Every round but the last adds a part, so there are enough
rounds. -/
def projectTree (w : Warehouse) (project : String) : List String :=
  match w.withPartsTimes w.projectChildren.length [project] with
  | [] => [project]
  | root :: parts => root :: parts.mergeSort (· ≤ ·)

/-- The numbers of records of some tables. -/
def counts (w : Warehouse) : List (String × Nat) :=
  [("unique_identities", w.people.length), ("identities", w.identities.length),
   ("enrollments", w.enrollments.length), ("projects", w.projects.length),
   ("scm_repositories", w.repositories.length), ("scm_commits", w.commits.length),
   ("its_trackers", w.trackers.length), ("its_issues", w.issues.length),
   ("its_changes", w.changes.length)]

end Warehouse

end ActivityMetrics
