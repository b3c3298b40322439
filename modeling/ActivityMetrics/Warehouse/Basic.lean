import ActivityMetrics.Dimension

/-!
# The warehouse

The warehouse holds what is known about people and their activity, as lists of records in the order
in which they were added. People act under *raw actors*, numbers given out by the sources; an
identity links a raw actor to a person, and an enrollment makes a person part of an organization, a
country or a domain for a half-open stretch of time.

Times are texts and are compared as texts. Text compares character by character.
-/

namespace ActivityMetrics

/-- A person. -/
structure Person where
  /-- The name by which the person is referred to. -/
  uuid : String
  /-- The name that was given first. -/
  name : String
  /-- The person is a program. -/
  isBot : Bool
deriving DecidableEq

/-- The link from a raw actor to a person. -/
structure Identity where
  /-- The raw actor. -/
  id : Int
  /-- The source that gave out the raw actor. -/
  source : Source
  /-- The person. -/
  uuid : String
  /-- The name of the raw actor. -/
  name : String
deriving DecidableEq

/-- Something with a number and a unique name. -/
structure Entity where
  /-- The number. -/
  id : Int
  /-- The name. -/
  name : String
deriving DecidableEq

/-- A stretch of time during which a person is part of a group. -/
structure Enrollment where
  /-- The number. -/
  id : Int
  /-- The person. -/
  uuid : String
  /-- The kind of group. -/
  kind : Affiliation
  /-- The number of the group among those of its kind. -/
  target : Int
  /-- The first instant. -/
  start : String
  /-- The instant after the last. -/
  stop : String
deriving DecidableEq

/-- A project. -/
structure Project where
  /-- The name by which the project is referred to. -/
  id : String
  /-- The title. -/
  title : Option String
deriving DecidableEq

/-- That one project is part of another. -/
structure ProjectChild where
  /-- The whole. -/
  parent : String
  /-- The part. -/
  child : String
deriving DecidableEq

/-- That a repository belongs to a project. -/
structure ProjectRepository where
  /-- The project. -/
  project : String
  /-- The source that numbers the repository. -/
  source : Source
  /-- The number of the repository. -/
  repository : Int
deriving DecidableEq

/-- A repository of source code. -/
structure Repository where
  /-- The number. -/
  id : Int
  /-- The unique name. -/
  name : String
  /-- Where the repository is found. -/
  uri : Option String
deriving DecidableEq

/-- A commit. -/
structure Commit where
  /-- The number. -/
  id : Int
  /-- The revision. -/
  rev : String
  /-- The number of the repository. -/
  repository : Int
  /-- The raw actor who wrote the change. -/
  author : Option Int
  /-- The raw actor who recorded it. -/
  committer : Option Int
  /-- When it was recorded. -/
  date : String
deriving DecidableEq

/-- An issue. -/
structure Issue where
  /-- The number. -/
  id : Int
  /-- The number of the tracker. -/
  tracker : Int
  /-- The name of the issue in its tracker. -/
  issue : String
  /-- The value of the last change of the status. -/
  status : Option String
  /-- The raw actor who submitted the issue. -/
  submittedBy : Option Int
  /-- When it was submitted. -/
  submittedOn : String
deriving DecidableEq

/-- A change of a field of an issue. -/
structure Change where
  /-- The number. -/
  id : Int
  /-- The number of the issue. -/
  issue : Int
  /-- The field. -/
  field : String
  /-- The value before, for changes of the status. -/
  oldValue : Option String
  /-- The value after. -/
  newValue : String
  /-- The raw actor who made the change. -/
  changedBy : Option Int
  /-- When it was made. -/
  changedOn : String
deriving DecidableEq

/-- All records. -/
structure Warehouse where
  /-- The settings. -/
  settings : List (String × String) := []
  /-- The people. -/
  people : List Person := []
  /-- The links from raw actors to people. -/
  identities : List Identity := []
  /-- The organizations. -/
  organizations : List Entity := []
  /-- The countries. -/
  countries : List Entity := []
  /-- The domains. -/
  domains : List Entity := []
  /-- The enrollments. -/
  enrollments : List Enrollment := []
  /-- The projects. -/
  projects : List Project := []
  /-- The parts of projects. -/
  projectChildren : List ProjectChild := []
  /-- The repositories of projects. -/
  projectRepositories : List ProjectRepository := []
  /-- The repositories. -/
  repositories : List Repository := []
  /-- The commits. -/
  commits : List Commit := []
  /-- The trackers of issues. -/
  trackers : List Entity := []
  /-- The issues. -/
  issues : List Issue := []
  /-- The changes of issues. -/
  changes : List Change := []
deriving DecidableEq

namespace Warehouse

/-- The warehouse without a record. -/
def empty : Warehouse := {}

/-- The groups of a kind. -/
def entities (w : Warehouse) : Affiliation → List Entity
  | .organization => w.organizations
  | .country => w.countries
  | .domain => w.domains

/-- Replaces the groups of a kind. -/
def setEntities (w : Warehouse) (kind : Affiliation) (es : List Entity) : Warehouse :=
  match kind with
  | .organization => { w with organizations := es }
  | .country => { w with countries := es }
  | .domain => { w with domains := es }

/-- What holds the events of a source: the repositories by name, or the trackers by address. -/
def places (w : Warehouse) : Source → List Entity
  | .scm => w.repositories.map fun r => ⟨r.id, r.name⟩
  | .its => w.trackers

/-- A person is known. -/
def hasPerson (w : Warehouse) (uuid : String) : Bool :=
  w.people.any (·.uuid == uuid)

/-- A raw actor is linked to a person, unless none is given. -/
def hasActor (w : Warehouse) : Option Int → Bool
  | none => true
  | some id => w.identities.any (·.id == id)

end Warehouse

/-- The number of a new record: one more than the largest in use, and 1 for the first. -/
def nextId (ids : List Int) : Int :=
  match ids with
  | [] => 1
  | id :: rest => rest.foldl max id + 1

end ActivityMetrics
