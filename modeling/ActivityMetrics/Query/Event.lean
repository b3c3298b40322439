import ActivityMetrics.Query.Phrase

/-!
# Events

A metric counts events: commits, issues or changes of issues. An event has an actor, a date and a
repository, and the columns that hold them are what links an event to everything else. The commits
of the person who recorded them are events of their own kind.
-/

namespace ActivityMetrics

/-- What a metric counts. -/
inductive Event where
  /-- Commits, by the person who wrote the change. -/
  | commits
  /-- Commits, by the person who recorded the change. -/
  | commitsByCommitter
  /-- Issues, by the person who submitted them. -/
  | issues
  /-- Changes of issues, by the person who made them. -/
  | changes
deriving DecidableEq

namespace Event

/-- The alias of the table of events. -/
def tableAlias : Event → Alias
  | .commits | .commitsByCommitter => .commit
  | .issues => .issue
  | .changes => .change

/-- The table of events, with its alias. -/
def table : Event → String
  | .commits | .commitsByCommitter => "scm_commits s"
  | .issues => "its_issues i"
  | .changes => "its_changes ch"

/-- The column of the raw actor. -/
def actor : Event → Column
  | .commits => ⟨.commit, "author_id"⟩
  | .commitsByCommitter => ⟨.commit, "committer_id"⟩
  | .issues => ⟨.issue, "submitted_by"⟩
  | .changes => ⟨.change, "changed_by"⟩

/-- The column of the time. -/
def date : Event → Column
  | .commits | .commitsByCommitter => ⟨.commit, "date"⟩
  | .issues => ⟨.issue, "submitted_on"⟩
  | .changes => ⟨.change, "changed_on"⟩

/-- The column of the repository. That of a change is the tracker of its issue. -/
def repository : Event → Column
  | .commits | .commitsByCommitter => ⟨.commit, "repository_id"⟩
  | .issues | .changes => ⟨.issue, "tracker_id"⟩

end Event

end ActivityMetrics
