import ActivityMetrics.Filter.Basic
import ActivityMetrics.Query.Event

/-!
# Links and conditions

A *link* leads from an event to a record that belongs to it: the issue of a change, the repository,
the person behind the raw actor, a membership of that person at the time of the event, and the group
of the membership. A *condition* restricts the events, by the records that they are linked to or by
tables of their own.

This module says what links and conditions are, which tables they need, and how a statement words
them. What they mean for the records of a warehouse is the subject of
`ActivityMetrics.Query.Matching`.
-/

namespace ActivityMetrics

/-- A record that belongs to an event. -/
inductive Link where
  /-- The issue of a change. -/
  | issue
  /-- The repository, or the tracker. -/
  | repository (source : Source)
  /-- The person behind the raw actor. -/
  | identity
  /-- A membership of the person at the time of the event. -/
  | enrollment (kind : Affiliation)
  /-- The group of the membership. -/
  | group (kind : Affiliation)
deriving DecidableEq

/-- A restriction of the events. -/
inductive Condition where
  /-- The repository has a name, or the tracker an address. -/
  | repositoryIs (source : Source) (name : String)
  /-- The person is a certain one. -/
  | personIs (uuid : String)
  /-- The group of the membership has a name. -/
  | memberOf (kind : Affiliation) (name : String)
  /-- The repository belongs to one of some projects. -/
  | inProjects (source : Source) (projects : List String)
  /-- The person is none of some people. -/
  | notBy (uuids : List String)
  /-- At the time of the event, the person is in none of some organizations. -/
  | notFrom (names : List String)
  /-- The change closes an issue. -/
  | closes (condition : ClosingCondition)
deriving DecidableEq

/-- The table of the groups of a kind. -/
def Affiliation.table : Affiliation → String
  | .organization => "organizations"
  | .country => "countries"
  | .domain => "domains"

/-- The alias of the repositories of a source. -/
def Source.repositoryAlias : Source → Alias
  | .scm => .repository
  | .its => .tracker

/-- The column by which the repositories of a source are known. -/
def Source.repositoryName : Source → Column
  | .scm => ⟨.repository, "name"⟩
  | .its => ⟨.tracker, "url"⟩

/-- The column by which the groups of a kind are known. -/
def Affiliation.nameColumn (kind : Affiliation) : Column :=
  ⟨.group kind, "name"⟩

/-- The column of the person behind a raw actor. -/
def uuidColumn : Column :=
  ⟨.identity, "uuid"⟩

/-! ## Wording -/

open Phrase

/-- The time of an event lies in the stretch of an enrollment. -/
def duringPhrase (e : Event) (enrollment : Alias) : List Token :=
  [.column e.date, .words " >= ", .column ⟨enrollment, "start_date"⟩, .words " AND ",
   .column e.date, .words " < ", .column ⟨enrollment, "end_date"⟩]

namespace Link

/-- The alias that a link introduces. -/
def tableAlias : Link → Alias
  | .issue => .issue
  | .repository source => source.repositoryAlias
  | .identity => .identity
  | .enrollment kind => .enrollment kind
  | .group kind => .group kind

/-- The name of the table that a link leads to. -/
def tableName : Link → String
  | .issue => "its_issues"
  | .repository .scm => "scm_repositories"
  | .repository .its => "its_trackers"
  | .identity => "identities"
  | .enrollment _ => "enrollments"
  | .group kind => kind.table

/-- The condition that ties the record to the event. -/
def phrase (e : Event) : Link → Phrase
  | .issue => column ⟨.issue, "id"⟩ ++ words " = " ++ column ⟨.change, "issue_id"⟩
  | .repository source =>
    column ⟨source.repositoryAlias, "id"⟩ ++ words " = " ++ column e.repository
  | .identity => column ⟨.identity, "id"⟩ ++ words " = " ++ column e.actor
  | .enrollment kind =>
    column ⟨.enrollment kind, "uuid"⟩ ++ words " = " ++ column uuidColumn ++ words " AND "
      ++ column ⟨.enrollment kind, "kind"⟩ ++ words (" = '" ++ kind.name ++ "' AND ")
      ++ (duringPhrase e (.enrollment kind)).map .token
  | .group kind =>
    column ⟨.group kind, "id"⟩ ++ words " = " ++ column ⟨.enrollment kind, "target_id"⟩

/-- The join of a link. -/
def join (e : Event) (l : Link) : Join :=
  ⟨l.tableName ++ " " ++ l.tableAlias.text, (l.phrase e).text⟩

end Link

namespace Condition

/-- The subquery of the repositories of some projects. -/
def projectTokens (source : Source) (projects : List String) : List Token :=
  [.words "(SELECT ", .column ⟨.innerProject, "repository_id"⟩,
   .words " FROM project_repositories pr WHERE ", .column ⟨.innerProject, "data_source"⟩,
   .words " = ", .mark (.text source.name), .words " AND ",
   .column ⟨.innerProject, "project_id"⟩, .words " IN ("]
    ++ Token.marks (projects.map .text) ++ [.words "))"]

/-- The subquery of the raw actors of some people. -/
def actorTokens (uuids : List String) : List Token :=
  [.words "(SELECT ", .column ⟨.innerIdentity, "id"⟩, .words " FROM identities xi WHERE ",
   .column ⟨.innerIdentity, "uuid"⟩, .words " IN ("]
    ++ Token.marks (uuids.map .text) ++ [.words "))"]

/-- The subquery of the memberships of an event's actor in some organizations. -/
def membershipTokens (e : Event) (names : List String) : List Token :=
  [.words "(SELECT 1 FROM identities xi JOIN enrollments xe ON ",
   .column ⟨.innerEnrollment, "uuid"⟩, .words " = ", .column ⟨.innerIdentity, "uuid"⟩,
   .words " JOIN organizations xo ON ", .column ⟨.innerGroup, "id"⟩, .words " = ",
   .column ⟨.innerEnrollment, "target_id"⟩, .words " WHERE ", .column ⟨.innerIdentity, "id"⟩,
   .words " = ", .column e.actor, .words " AND ", .column ⟨.innerEnrollment, "kind"⟩,
   .words " = 'organization' AND "] ++ duringPhrase e .innerEnrollment
    ++ [.words " AND ", .column ⟨.innerGroup, "name"⟩, .words " IN ("]
    ++ Token.marks (names.map .text) ++ [.words "))"]

/-- How a statement words a condition on events. -/
def phrase (e : Event) : Condition → Phrase
  | .repositoryIs source name =>
    column source.repositoryName ++ words " = " ++ marks [.text name]
  | .personIs uuid => column uuidColumn ++ words " = " ++ marks [.text uuid]
  | .memberOf kind name => column kind.nameColumn ++ words " = " ++ marks [.text name]
  | .inProjects source projects =>
    column e.repository ++ words " IN " ++ [.subquery (projectTokens source projects)]
  | .notBy uuids =>
    words "(" ++ column e.actor ++ words " IS NULL OR " ++ column e.actor ++ words " NOT IN "
      ++ [.subquery (actorTokens uuids)] ++ words ")"
  | .notFrom names => words "NOT EXISTS " ++ [.subquery (membershipTokens e names)]
  | .closes condition =>
    column ⟨.change, "field"⟩ ++ words " = " ++ marks [.text condition.field] ++ words " AND "
      ++ column ⟨.change, "new_value"⟩ ++ words " IN ("
      ++ marks (condition.values.map .text) ++ words ")"

/-- The predicate of a condition. -/
def predicate (e : Event) (c : Condition) : Predicate :=
  ⟨(c.phrase e).text, (c.phrase e).params⟩

end Condition

/-- The links and the conditions of a query. -/
abbrev Clauses := Fragments Link Condition

/-- The joins and the predicates of a query, as text. -/
def Clauses.wording (e : Event) (cs : Clauses) : Fragments Join Predicate :=
  cs.map (Link.join e) (Condition.predicate e)

end ActivityMetrics
