import ActivityMetrics.Query.Matching
import ActivityMetrics.Warehouse.Lookup

/-!
# Dimensions of events

How a dimension is brought to bear on events: the links that it needs, the condition that binds it
to a value, and the key that tells its items apart. A person is found behind the raw actor, and an
affiliation through a membership of that person; the repository is found by its number. A project
binds events to the repositories of its whole tree. It has no key, since a repository may belong to
several projects.
-/

namespace ActivityMetrics

/-- What tells the items of a dimension apart. -/
inductive GroupKey where
  /-- The name of the repository, or the address of the tracker. -/
  | repository (source : Source)
  /-- The person. -/
  | person
  /-- The name of the group of a membership. -/
  | group (kind : Affiliation)
deriving DecidableEq

/-- The column of a key. -/
def GroupKey.column : GroupKey → Column
  | .repository source => source.repositoryName
  | .person => uuidColumn
  | .group kind => kind.nameColumn

/-- The item that a match belongs to. -/
def GroupKey.valueOf (key : GroupKey) (m : Match) : Option String :=
  match key with
  | .repository _ => m.place.map (·.name)
  | .person => m.identity.map (·.uuid)
  | .group kind => (m.group kind).map (·.name)

namespace Dimension

/-- The links that a dimension needs. -/
def links (source : Source) : Dimension → List Link
  | .repository => [.repository source]
  | .company => membership .organization
  | .country => membership .country
  | .domain => membership .domain
  | .project => []
  | .person => [.identity]
where
  /-- The links to the groups of a kind. -/
  membership (kind : Affiliation) : List Link :=
    [.identity, .enrollment kind, .group kind]

/-- The condition that binds a dimension to a value. -/
def condition (w : Warehouse) (source : Source) (d : Dimension) (value : String) : Condition :=
  match d with
  | .repository => .repositoryIs source value
  | .company => .memberOf .organization value
  | .country => .memberOf .country value
  | .domain => .memberOf .domain value
  | .project => .inProjects source (w.projectTree value)
  | .person => .personIs value

/-- The key of a dimension, if its items can be told apart. -/
def key? (source : Source) : Dimension → Option GroupKey
  | .repository => some (.repository source)
  | .company => some (.group .organization)
  | .country => some (.group .country)
  | .domain => some (.group .domain)
  | .project => none
  | .person => some .person

/-- The clauses that make a dimension available. -/
def clauses (source : Source) (d : Dimension) : Clauses :=
  .ofJoins (d.links source)

/-- The clauses that make a dimension available, and bind it if there is a value. -/
def boundClauses (w : Warehouse) (source : Source) (d : Dimension) (value : Option String) :
    Clauses :=
  match value with
  | none => d.clauses source
  | some v => (d.clauses source).restrict (d.condition w source v)

end Dimension

/-- The clauses that leave out people. -/
def actorExclusion (uuids : List String) : Option Clauses :=
  if uuids.isEmpty then none else some (.ofPredicate (.notBy uuids))

/-- The clauses that leave out the members of organizations. -/
def organizationExclusion (names : List String) : Option Clauses :=
  if names.isEmpty then none else some (.ofPredicate (.notFrom names))

/-- Everything that a filter restricts: the bound dimensions, the global one last, and the people
and organizations that it leaves out. -/
def Filter.clauses (f : Filter) (w : Warehouse) (source : Source) : Clauses :=
  let bound := f.bindings.map fun (d, v) => d.boundClauses w source (some v)
  let excluded :=
    (actorExclusion f.excludedActors).toList
      ++ (organizationExclusion f.excludedOrganizations).toList
  (bound ++ excluded).foldl .merge .empty

end ActivityMetrics
