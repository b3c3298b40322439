import ActivityMetrics.Failure
import ActivityMetrics.Warehouse.Basic

/-!
# Loading

Records are added by load operations. An operation gives a result, or fails because a record would
refer to one that does not exist; either way it leaves a warehouse behind. A failing operation adds
nothing, with one exception: an enrollment of an unknown person still makes the group known.

Groups, repositories and trackers are known by name: naming one again gives its number, and a
project or repository keeps the last title or place that was given.
-/

namespace ActivityMetrics

namespace Warehouse

/-- What an operation leaves behind. -/
abbrev Loaded (α : Type) := Outcome α × Warehouse

/-- Makes a person known. The first name is kept. -/
def addPerson (w : Warehouse) (uuid name : String) : Warehouse :=
  if w.hasPerson uuid then w else { w with people := w.people ++ [⟨uuid, name, false⟩] }

/-- Replaces the identity of its number, or adds it. -/
def putIdentity (identity : Identity) : List Identity → List Identity
  | [] => [identity]
  | i :: rest => if i.id = identity.id then identity :: rest else i :: putIdentity identity rest

/-- Links a raw actor to a person, who becomes known. A raw actor has one link, the last. -/
def addIdentity (w : Warehouse) (id : Int) (source : Source) (uuid name : String) : Warehouse :=
  let w := w.addPerson uuid name
  { w with identities := putIdentity ⟨id, source, uuid, name⟩ w.identities }

/-- Says whether a person is a program. -/
def setBot (w : Warehouse) (uuid : String) (isBot : Bool) : Warehouse :=
  { w with people := w.people.map fun p => if p.uuid = uuid then { p with isBot } else p }

/-- The people who are programs, in order. -/
def bots (w : Warehouse) : List String :=
  ((w.people.filter (·.isBot)).map (·.uuid)).mergeSort (· ≤ ·)

/-- The number of the entity of a name. -/
def entityId? (es : List Entity) (name : String) : Option Int :=
  (es.find? (·.name == name)).map (·.id)

/-- The number of the entity of a name, which is added if it is new. -/
def putEntity (es : List Entity) (name : String) : Int × List Entity :=
  match entityId? es name with
  | some id => (id, es)
  | none =>
    let id := nextId (es.map (·.id))
    (id, es ++ [⟨id, name⟩])

/-- The number of the group of a name, which becomes known. -/
def nameGroup (w : Warehouse) (kind : Affiliation) (name : String) : Int × Warehouse :=
  let (id, es) := putEntity (w.entities kind) name
  (id, w.setEntities kind es)

/-- The beginning of an enrollment without one. -/
def earliest : String := "1900-01-01 00:00:00"

/-- The end of an enrollment without one. -/
def latest : String := "2100-01-01 00:00:00"

/-- Makes a person part of a group for a stretch of time. -/
def addEnrollment (w : Warehouse) (uuid : String) (kind : Affiliation) (name : String)
    (start stop : Option String) : Loaded Int :=
  let (target, w) := w.nameGroup kind name
  if w.hasPerson uuid then
    let id := nextId (w.enrollments.map (·.id))
    let enrollment := ⟨id, uuid, kind, target, start.getD earliest, stop.getD latest⟩
    (.ok id, { w with enrollments := w.enrollments ++ [enrollment] })
  else (.error (.database .danglingReference), w)

/-! ## Projects -/

/-- Gives a project a title, if there is one, and adds the project if it is new. -/
def putProject (id : String) (title : Option String) : List Project → List Project
  | [] => [⟨id, title⟩]
  | p :: rest =>
    if p.id = id then { p with title := title.or p.title } :: rest
    else p :: putProject id title rest

/-- Makes a project known. -/
def addProject (w : Warehouse) (id : String) (title : Option String) : Warehouse :=
  { w with projects := putProject id title w.projects }

/-- Makes one project part of another. -/
def addSubproject (w : Warehouse) (parent child : String) : Warehouse :=
  let w := (w.addProject parent none).addProject child none
  let link : ProjectChild := ⟨parent, child⟩
  if link ∈ w.projectChildren then w else { w with projectChildren := w.projectChildren ++ [link] }

/-- Gives a project a repository, whether or not the repository is known. -/
def addProjectRepository (w : Warehouse) (project : String) (source : Source) (repository : Int) :
    Warehouse :=
  let w := w.addProject project none
  let link : ProjectRepository := ⟨project, source, repository⟩
  if link ∈ w.projectRepositories then w
  else { w with projectRepositories := w.projectRepositories ++ [link] }

/-! ## Commits -/

/-- The number of the repository of a name, which becomes known. A place that is given is kept. -/
def nameRepository (w : Warehouse) (name : String) (uri : Option String) : Int × Warehouse :=
  match w.repositories.find? (·.name == name) with
  | some r =>
    (r.id, { w with repositories := w.repositories.map fun q =>
      if q.name = name then { q with uri := uri.or q.uri } else q })
  | none =>
    let id := nextId (w.repositories.map (·.id))
    (id, { w with repositories := w.repositories ++ [⟨id, name, uri⟩] })

/-- Adds a commit to a repository. -/
def insertCommit (w : Warehouse) (rev : String) (repository : Int) (author committer : Option Int)
    (date : String) : Loaded Int :=
  if w.repositories.any (·.id == repository) && w.hasActor author && w.hasActor committer then
    let id := nextId (w.commits.map (·.id))
    (.ok id, { w with commits := w.commits ++ [⟨id, rev, repository, author, committer, date⟩] })
  else (.error (.database .danglingReference), w)

/-! ## Issues -/

/-- The number of the tracker of an address, which becomes known. -/
def nameTracker (w : Warehouse) (url : String) : Int × Warehouse :=
  let (id, es) := putEntity w.trackers url
  (id, { w with trackers := es })

/-- Adds an issue to a tracker. -/
def insertIssue (w : Warehouse) (tracker : Int) (issue : String) (submittedBy : Option Int)
    (submittedOn : String) : Loaded Int :=
  if w.trackers.any (·.id == tracker) && w.hasActor submittedBy then
    let id := nextId (w.issues.map (·.id))
    let record := ⟨id, tracker, issue, none, submittedBy, submittedOn⟩
    (.ok id, { w with issues := w.issues ++ [record] })
  else (.error (.database .danglingReference), w)

/-- The field whose changes an issue follows. -/
def statusField : String := "status"

/-- The status of an issue. -/
def statusOf (w : Warehouse) (issue : Int) : Option String :=
  (w.issues.find? (·.id == issue)).bind (·.status)

/-- Adds a change of a field of an issue. A change of the status remembers the one before and
becomes the status of the issue. -/
def insertChange (w : Warehouse) (issue : Int) (field newValue : String) (changedBy : Option Int)
    (changedOn : String) : Loaded Int :=
  if w.issues.any (·.id == issue) && w.hasActor changedBy then
    let id := nextId (w.changes.map (·.id))
    let oldValue := if field = statusField then w.statusOf issue else none
    let changes := w.changes ++ [⟨id, issue, field, oldValue, newValue, changedBy, changedOn⟩]
    let issues :=
      if field = statusField then
        w.issues.map fun i => if i.id = issue then { i with status := some newValue } else i
      else w.issues
    (.ok id, { w with issues, changes })
  else (.error (.database .danglingReference), w)

/-! ## Settings -/

/-- Puts a setting, in place of one with its name. -/
def putSetting (key value : String) : List (String × String) → List (String × String)
  | [] => [(key, value)]
  | (k, v) :: rest => if k = key then (key, value) :: rest else (k, v) :: putSetting key value rest

/-- Stores a setting, whatever its name and value. -/
def storeSetting (w : Warehouse) (key value : String) : Warehouse :=
  { w with settings := putSetting key value w.settings }

/-- The value of a setting. -/
def setting? (w : Warehouse) (key : String) : Option String :=
  w.settings.lookup key

/-- All settings, by name. -/
def allSettings (w : Warehouse) : List (String × String) :=
  w.settings.mergeSort fun a b => a.1 ≤ b.1

end Warehouse

/-! ## Operations as data -/

/-- A load operation. -/
inductive LoadStep where
  /-- Links a raw actor to a person. -/
  | addIdentity (id : Int) (source : Source) (uuid name : String)
  /-- Says whether a person is a program. -/
  | setBot (uuid : String) (isBot : Bool)
  /-- Makes a group known. -/
  | nameGroup (kind : Affiliation) (name : String)
  /-- Makes a person part of a group. -/
  | addEnrollment (uuid : String) (kind : Affiliation) (name : String) (start stop : Option String)
  /-- Makes a project known. -/
  | addProject (id : String) (title : Option String)
  /-- Makes one project part of another. -/
  | addSubproject (parent child : String)
  /-- Gives a project a repository. -/
  | addProjectRepository (project : String) (source : Source) (repository : Int)
  /-- Makes a repository known. -/
  | nameRepository (name : String) (uri : Option String)
  /-- Adds a commit. -/
  | insertCommit (rev : String) (repository : Int) (author committer : Option Int) (date : String)
  /-- Makes a tracker known. -/
  | nameTracker (url : String)
  /-- Adds an issue. -/
  | insertIssue (tracker : Int) (issue : String) (actor : Option Int) (on : String)
  /-- Adds a change. -/
  | insertChange (issue : Int) (field value : String) (actor : Option Int) (on : String)
  /-- Stores a setting without checking it. -/
  | storeSetting (key value : String)

/-- Performs an operation. Those that give out or look up a number have it as their result. -/
def LoadStep.perform (w : Warehouse) : LoadStep → Warehouse.Loaded (Option Int)
  | .addIdentity id source uuid name => (.ok none, w.addIdentity id source uuid name)
  | .setBot uuid isBot => (.ok none, w.setBot uuid isBot)
  | .nameGroup kind name => numbered (w.nameGroup kind name)
  | .addEnrollment uuid kind name start stop => numbers (w.addEnrollment uuid kind name start stop)
  | .addProject id title => (.ok none, w.addProject id title)
  | .addSubproject parent child => (.ok none, w.addSubproject parent child)
  | .addProjectRepository project source repository =>
    (.ok none, w.addProjectRepository project source repository)
  | .nameRepository name uri => numbered (w.nameRepository name uri)
  | .insertCommit rev repository author committer date =>
    numbers (w.insertCommit rev repository author committer date)
  | .nameTracker url => numbered (w.nameTracker url)
  | .insertIssue tracker issue actor on => numbers (w.insertIssue tracker issue actor on)
  | .insertChange issue field value actor on => numbers (w.insertChange issue field value actor on)
  | .storeSetting key value => (.ok none, w.storeSetting key value)
where
  /-- The result of an operation that always finds a number. -/
  numbered : Int × Warehouse → Warehouse.Loaded (Option Int)
    | (id, w) => (.ok (some id), w)
  /-- The result of an operation that may give out a number. -/
  numbers : Warehouse.Loaded Int → Warehouse.Loaded (Option Int)
    | (.ok id, w) => (.ok (some id), w)
    | (.error e, w) => (.error e, w)

/-- The warehouse after some operations, failed ones included. -/
def Warehouse.load (w : Warehouse) (steps : List LoadStep) : Warehouse :=
  steps.foldl (fun w step => (step.perform w).2) w

/-- A warehouse that load operations lead to. -/
def Warehouse.Reachable (w : Warehouse) : Prop :=
  ∃ steps, w = Warehouse.empty.load steps

end ActivityMetrics
