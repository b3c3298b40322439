import ActivityMetrics.Metric.Breakdown

/-!
# Counting metrics

A counting metric counts something once for every distinct value among the matches of an event: the
events themselves, the people behind them, or what they are about. Its definition says what the
event is, what is counted, and which clauses always apply.
-/

namespace ActivityMetrics

/-- What is counted. -/
inductive Counted where
  /-- The commits. -/
  | commit
  /-- The repositories of commits. -/
  | repository
  /-- The issues. -/
  | issue
  /-- The issues that change. -/
  | changedIssue
  /-- The people. -/
  | person
deriving DecidableEq

namespace Counted

/-- The column that is counted. -/
def column : Counted → Column
  | .commit => ⟨.commit, "id"⟩
  | .repository => ⟨.commit, "repository_id"⟩
  | .issue => ⟨.issue, "id"⟩
  | .changedIssue => ⟨.change, "issue_id"⟩
  | .person => uuidColumn

/-- How a statement words the number of distinct values. -/
def text (c : Counted) : String :=
  "COUNT(DISTINCT " ++ c.column.text ++ ")"

/-- The value of a match that is counted. -/
def valueOf (c : Counted) (m : Match) : Option MatchValue :=
  match c, m.record with
  | .commit, .commit r => some (.number r.id)
  | .repository, .commit r => some (.number r.repository)
  | .issue, .issue i => some (.number i.id)
  | .changedIssue, .change r => some (.number r.issue)
  | .person, _ => m.identity.map fun i => .name i.uuid
  | _, _ => none

/-- The number of distinct values among matches. -/
def count (c : Counted) (ms : List Match) : Nat :=
  (ms.filterMap c.valueOf).eraseDups.length

end Counted

/-- A counting metric. -/
inductive Count where
  /-- Commits. -/
  | commits
  /-- People who wrote commits. -/
  | authors
  /-- People who recorded commits. -/
  | committers
  /-- Repositories with a commit. -/
  | repositories
  /-- Issues submitted. -/
  | opened
  /-- People who submitted issues. -/
  | openers
  /-- Issues closed. -/
  | closed
  /-- People who closed issues. -/
  | closers
deriving DecidableEq

/-- How a metric is computed. -/
structure Definition where
  /-- The events. -/
  event : Event
  /-- The name of the value. -/
  name : String
  /-- What is counted. -/
  counted : Counted
  /-- The clauses that always apply. -/
  base : Clauses

namespace Count

/-- The name by which a metric is asked for, and of its value. -/
def id : Count → String
  | .commits => "commits"
  | .authors => "authors"
  | .committers => "committers"
  | .repositories => "repositories"
  | .opened => "opened"
  | .openers => "openers"
  | .closed => "closed"
  | .closers => "closers"

/-- The name under which a metric is shown. -/
def title : Count → String
  | .commits => "Commits"
  | .authors => "Authors"
  | .committers => "Committers"
  | .repositories => "Active repositories"
  | .opened => "Opened issues"
  | .openers => "Issue submitters"
  | .closed => "Closed issues"
  | .closers => "Issue closers"

/-- The source of a metric. -/
def source : Count → Source
  | .commits | .authors | .committers | .repositories => .scm
  | .opened | .openers | .closed | .closers => .its

/-- The dimension that a list ranks unless the filter names one. -/
def listDimension : Count → Dimension
  | .commits | .opened | .closed => .repository
  | .authors | .committers | .openers | .closers => .person
  | .repositories => .company

/-- The changes that close an issue, with the issue. -/
def closing (f : Filter) : Clauses :=
  (Fragments.ofJoins [Link.issue]).restrict (.closes f.closingCondition)

/-- The people behind raw actors. -/
def people : Clauses :=
  .ofJoins [.identity]

/-- The definition of a metric under a filter. -/
def definition (c : Count) (f : Filter) : Definition :=
  match c with
  | .commits => ⟨.commits, c.id, .commit, .empty⟩
  | .authors => ⟨.commits, c.id, .person, people⟩
  | .committers => ⟨.commitsByCommitter, c.id, .person, people⟩
  | .repositories => ⟨.commits, c.id, .repository, .empty⟩
  | .opened => ⟨.issues, c.id, .issue, .empty⟩
  | .openers => ⟨.issues, c.id, .person, people⟩
  | .closed => ⟨.changes, c.id, .changedIssue, closing f⟩
  | .closers => ⟨.changes, c.id, .person, (closing f).join .identity⟩

end Count

end ActivityMetrics
