import ActivityMetrics.Query.Parameter
import ActivityMetrics.Warehouse.Basic

/-!
# Tables

The warehouse as tables: every kind of record as rows of values, in a fixed order of the rows, by
their columns from left to right. Absent values come before integers, and these before texts.

This is how a warehouse is looked at from outside. The tables have columns that no operation fills,
such as the address of a person or the message of a commit, and these are absent in all rows. The
rows do not come in the order in which records were added, so that two warehouses can be compared by
their tables.
-/

namespace ActivityMetrics

namespace Warehouse

/-- A value of a table. -/
inductive TableValue where
  /-- The absent value. -/
  | null
  /-- An integer. -/
  | integer (i : Int)
  /-- A text. -/
  | text (s : String)
deriving DecidableEq

/-- The order of values. -/
def TableValue.le : TableValue → TableValue → Bool
  | .null, _ => true
  | .integer _, .null => false
  | .integer i, .integer j => i ≤ j
  | .integer _, .text _ => true
  | .text s, .text t => s ≤ t
  | .text _, _ => false

/-- The order of rows, by their values from left to right. -/
def rowLe : List TableValue → List TableValue → Bool
  | [], _ => true
  | _ :: _, [] => false
  | a :: as, b :: bs => if a = b then rowLe as bs else a.le b

/-- A text that may be absent. -/
def TableValue.ofText? : Option String → TableValue
  | some s => .text s
  | none => .null

/-- An integer that may be absent. -/
def TableValue.ofInteger? : Option Int → TableValue
  | some i => .integer i
  | none => .null

open TableValue

/-- The rows of the groups of a kind, or of the trackers. -/
def entityRows (es : List Entity) : List (List TableValue) :=
  es.map fun e => [integer e.id, text e.name]

/-- The rows of a table, unordered. Only the tables of the warehouse have a name. -/
def tableRows? (w : Warehouse) : String → Option (List (List TableValue))
  | "app_config" => some (w.settings.map fun (k, v) => [text k, text v])
  | "unique_identities" => some (w.people.map fun p =>
      [text p.uuid, text p.name, null, integer (if p.isBot then 1 else 0)])
  | "identities" => some (w.identities.map fun i =>
      [integer i.id, text i.source.name, text i.uuid, text i.name, null])
  | "organizations" => some (entityRows w.organizations)
  | "countries" => some (entityRows w.countries)
  | "domains" => some (entityRows w.domains)
  | "enrollments" => some (w.enrollments.map fun n =>
      [integer n.id, text n.uuid, text n.kind.name, integer n.target, text n.start, text n.stop])
  | "projects" => some (w.projects.map fun p => [text p.id, ofText? p.title])
  | "project_children" => some (w.projectChildren.map fun c => [text c.parent, text c.child])
  | "project_repositories" => some (w.projectRepositories.map fun r =>
      [text r.project, text r.source.name, integer r.repository])
  | "scm_repositories" => some (w.repositories.map fun r =>
      [integer r.id, text r.name, ofText? r.uri])
  | "scm_commits" => some (w.commits.map fun c =>
      [integer c.id, text c.rev, integer c.repository, ofInteger? c.author, ofInteger? c.committer,
       text c.date, text c.date, null])
  | "its_trackers" => some (entityRows w.trackers)
  | "its_issues" => some (w.issues.map fun i =>
      [integer i.id, integer i.tracker, text i.issue, null, ofText? i.status,
       ofInteger? i.submittedBy, text i.submittedOn])
  | "its_changes" => some (w.changes.map fun c =>
      [integer c.id, integer c.issue, text c.field, ofText? c.oldValue, text c.newValue,
       ofInteger? c.changedBy, text c.changedOn])
  | _ => none

/-- The rows of a table, in order. -/
def table? (w : Warehouse) (name : String) : Option (List (List TableValue)) :=
  (w.tableRows? name).map fun rows => rows.mergeSort rowLe

end Warehouse

end ActivityMetrics
