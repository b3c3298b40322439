import ActivityMetrics.Query.Clause
import ActivityMetrics.Warehouse.Basic

/-!
# Matching events with records

The meaning of a query's clauses. A *match* is an event together with the records that links lead
to. A link extends a match in as many ways as there are records for it, so an event without a record
for a link has no match, and one with several has several. A condition keeps some of the matches.

Only which matches there are is of interest, not their order or number: values are counted once for
every distinct value.
-/

namespace ActivityMetrics

/-- The record of an event. -/
inductive EventRecord where
  /-- A commit. -/
  | commit (c : Commit)
  /-- An issue. -/
  | issue (i : Issue)
  /-- A change of an issue. -/
  | change (c : Change)
deriving DecidableEq

/-- An event with the records that links lead to. -/
structure Match where
  /-- The event. -/
  record : EventRecord
  /-- The issue of a change. -/
  issue : Option Issue := none
  /-- The repository, or the tracker. -/
  place : Option Entity := none
  /-- The link from the raw actor to the person. -/
  identity : Option Identity := none
  /-- The memberships, by kind. -/
  enrollment : Affiliation → Option Enrollment := fun _ => none
  /-- The groups of the memberships, by kind. -/
  group : Affiliation → Option Entity := fun _ => none

/-- A value that matches are told apart by. -/
inductive MatchValue where
  /-- A number. -/
  | number (n : Int)
  /-- A name. -/
  | name (s : String)
deriving DecidableEq

namespace Event

/-- The records of an event's table. -/
def records (e : Event) (w : Warehouse) : List EventRecord :=
  match e with
  | .commits | .commitsByCommitter => w.commits.map .commit
  | .issues => w.issues.map .issue
  | .changes => w.changes.map .change

/-- The raw actor of an event. -/
def actorOf (e : Event) : EventRecord → Option Int
  | .commit c => match e with
    | .commitsByCommitter => c.committer
    | _ => c.author
  | .issue i => i.submittedBy
  | .change c => c.changedBy

end Event

/-- The time of an event. -/
def EventRecord.date : EventRecord → String
  | .commit c => c.date
  | .issue i => i.submittedOn
  | .change c => c.changedOn

namespace Match

/-- The number of the repository or the tracker. That of a change is the one of its issue. -/
def repository (m : Match) : Option Int :=
  match m.record with
  | .commit c => some c.repository
  | .issue i => some i.tracker
  | .change _ => m.issue.map (·.tracker)

end Match

/-- The records of a kind that one value is replaced in. -/
def Affiliation.update {α : Type} (f : Affiliation → α) (kind : Affiliation) (a : α) :
    Affiliation → α :=
  fun k => if k = kind then a else f k

/-- An enrollment covers an instant: from its start on, and before its end. -/
def Enrollment.covers (e : Enrollment) (instant : String) : Bool :=
  e.start ≤ instant && instant < e.stop

namespace Link

/-- The ways to extend a match by a record. -/
def extend (w : Warehouse) (e : Event) (l : Link) (m : Match) : List Match :=
  match l with
  | .issue =>
    (w.issues.filter fun i =>
      match m.record with
      | .change c => i.id == c.issue
      | _ => false).map fun i => { m with issue := some i }
  | .repository source =>
    ((w.places source).filter fun p => m.repository == some p.id).map fun p =>
      { m with place := some p }
  | .identity =>
    (w.identities.filter fun i => e.actorOf m.record == some i.id).map fun i =>
      { m with identity := some i }
  | .enrollment kind =>
    (w.enrollments.filter fun n =>
      m.identity.map (·.uuid) == some n.uuid && n.kind == kind && n.covers m.record.date).map
      fun n => { m with enrollment := Affiliation.update m.enrollment kind (some n) }
  | .group kind =>
    ((w.entities kind).filter fun g =>
      (m.enrollment kind).map (·.target) == some g.id).map fun g =>
      { m with group := Affiliation.update m.group kind (some g) }

end Link

namespace Condition

/-- The person behind a raw actor is one of some people. -/
def actsAsOne (w : Warehouse) (uuids : List String) (actor : Option Int) : Bool :=
  w.identities.any fun i => some i.id == actor && uuids.contains i.uuid

/-- The person behind a raw actor is at an instant a member of one of some organizations. -/
def belongsToOne (w : Warehouse) (names : List String) (actor : Option Int) (instant : String) :
    Bool :=
  w.identities.any fun i => some i.id == actor &&
    w.enrollments.any fun n =>
      n.uuid == i.uuid && n.kind == .organization && n.covers instant &&
        w.organizations.any fun o => o.id == n.target && names.contains o.name

/-- The condition holds of a match. -/
def holds (w : Warehouse) (e : Event) (c : Condition) (m : Match) : Bool :=
  match c with
  | .repositoryIs _ name => m.place.map (·.name) == some name
  | .personIs uuid => m.identity.map (·.uuid) == some uuid
  | .memberOf kind name => (m.group kind).map (·.name) == some name
  | .inProjects source projects =>
    w.projectRepositories.any fun r =>
      m.repository == some r.repository && r.source == source && projects.contains r.project
  | .notBy uuids => !actsAsOne w uuids (e.actorOf m.record)
  | .notFrom names => !belongsToOne w names (e.actorOf m.record) m.record.date
  | .closes condition =>
    match m.record with
    | .change c => c.field == condition.field && condition.values.contains c.newValue
    | _ => false

end Condition

/-- The events of a window, as matches without further records. -/
def eventsIn (w : Warehouse) (e : Event) (start stop : String) : List Match :=
  ((e.records w).filter fun r => start ≤ r.date && r.date < stop).map fun r => { record := r }

/-- The matches of some clauses among the events of a window. -/
def Clauses.matchesIn (w : Warehouse) (e : Event) (cs : Clauses) (start stop : String) :
    List Match :=
  (cs.joins.foldl (fun ms l => ms.flatMap (l.extend w e)) (eventsIn w e start stop)).filter
    fun m => cs.predicates.all fun c => c.holds w e m

end ActivityMetrics
