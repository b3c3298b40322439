import ActivityMetrics.Proofs.Distinct
import ActivityMetrics.Proofs.Warehouse.Directories

/-!
# Titles of projects, places of repositories, values of settings

A project may be given a title, and a repository the place where it is found. To name one of them
again without saying so keeps what was given before. So after any sequence of operations a project
has the last title that was given for it, a repository the last place, and a setting the last value
(`Warehouse.titleOf_load`, `Warehouse.uriOf_load`, `Warehouse.setting?_load`).

A project is named by many operations, and only one of them can give a title. To add a part or a
repository to a project, or to name it again without a title, is not to take its title away. In the
other direction, a title that is given a second time replaces the first. A record can be updated in
such a way that one of the two goes wrong and the other does not, so the theorems speak of all
operations that were performed, and say of which of them the title is.

The three readings follow one scheme. A single operation either gives a value, which is then read,
or it leaves what was read before. From this alone, what is read at the end is the last that was
given (`read_foldl`).
-/

namespace ActivityMetrics

/-! ## Operations and what they give

What an operation names and what it gives are functions of the operation alone, as the theorems are
about what was asked for and not about what was found. -/

namespace LoadStep

/-- The projects that an operation names, with the title for each. Two are named when one becomes
part of the other, and neither is given a title then. -/
def projectsNamed : LoadStep → List (String × Option String)
  | .addProject id title => [(id, title)]
  | .addSubproject parent child => [(parent, none), (child, none)]
  | .addProjectRepository project _ _ => [(project, none)]
  | _ => []

/-- The repository that an operation names, with the place where it is found. -/
def repositoryNamed? : LoadStep → Option (String × Option String)
  | .nameRepository name uri => some (name, uri)
  | _ => none

/-- The setting that an operation stores, with its value. -/
def settingStored? : LoadStep → Option (String × String)
  | .storeSetting key value => some (key, value)
  | _ => none

/-- The title that an operation gives a project. -/
def titleGiven (project : String) : LoadStep → Option String
  | .addProject id title => if id = project then title else none
  | _ => none

/-- The place that an operation gives a repository. -/
def uriGiven (repository : String) : LoadStep → Option String
  | .nameRepository name uri => if name = repository then uri else none
  | _ => none

/-- The value that an operation gives a setting. -/
def valueGiven (setting : String) : LoadStep → Option String
  | .storeSetting key value => if key = setting then some value else none
  | _ => none

end LoadStep

/-- What is read at the end is the last that was given, if what is read after one act is what the
act gave, or else what was read before. -/
theorem read_foldl {σ ι β : Type} {act : σ → ι → σ} (read : σ → Option β) (given : ι → Option β)
    (step : ∀ s i, read (act s i) = (given i).or (read s)) (s : σ) (is : List ι) :
    read (is.foldl act s) = (is.filterMap given).getLast?.or (read s) := by
  induction is generalizing s with
  | nil => rfl
  | cons i is ih =>
    rw [List.foldl_cons, ih, step, List.filterMap_cons]
    cases given i with
    | none => rfl
    | some b =>
      rw [List.getLast?_cons, Option.some_or]
      cases (is.filterMap given).getLast? <;> rfl

namespace Warehouse

variable {w : Warehouse}

/-- An operation puts the projects, the repository and the setting that it names, and no others.
This is the only lemma here that goes through the operations. It also holds of those that fail, and
these name none of the three. -/
theorem named_perform (w : Warehouse) (step : LoadStep) :
    (step.perform w).2.projects
        = step.projectsNamed.foldl (fun ps p => putProject p.1 p.2 ps) w.projects ∧
      ((step.perform w).2.repositories = step.repositoryNamed?.elim w.repositories fun r =>
        (w.nameRepository r.1 r.2).2.repositories) ∧
      (step.perform w).2.settings
        = step.settingStored?.elim w.settings fun e => putSetting e.1 e.2 w.settings := by
  cases step with
  | addProject | setBot | nameTracker | storeSetting => exact ⟨rfl, rfl, rfl⟩
  | nameGroup kind name => cases kind <;> exact ⟨rfl, rfl, rfl⟩
  | addIdentity id source uuid name =>
    rw [LoadStep.perform, addIdentity, addPerson]
    dsimp only
    split <;> exact ⟨rfl, rfl, rfl⟩
  | addEnrollment uuid kind name start stop =>
    rw [LoadStep.perform, snd_numbers, addEnrollment]
    dsimp only
    cases kind <;> split <;> exact ⟨rfl, rfl, rfl⟩
  | addSubproject parent child =>
    rw [LoadStep.perform, addSubproject]
    dsimp only
    split <;> exact ⟨rfl, rfl, rfl⟩
  | addProjectRepository project source repository =>
    rw [LoadStep.perform, addProjectRepository]
    dsimp only
    split <;> exact ⟨rfl, rfl, rfl⟩
  | nameRepository name uri =>
    refine ⟨?_, rfl, ?_⟩ <;> rw [LoadStep.perform, nameRepository] <;> split <;> rfl
  | insertCommit rev repository author committer date =>
    rw [LoadStep.perform, snd_numbers, insertCommit]
    split <;> exact ⟨rfl, rfl, rfl⟩
  | insertIssue tracker issue actor on =>
    rw [LoadStep.perform, snd_numbers, insertIssue]
    split <;> exact ⟨rfl, rfl, rfl⟩
  | insertChange issue field value actor on =>
    rw [LoadStep.perform, snd_numbers, insertChange]
    split <;> exact ⟨rfl, rfl, rfl⟩

/-! ## Titles

In a list of projects, the title is that of the first project of the name. A reachable warehouse has
no second one, but the lemmas do not depend on it. -/

/-- The title of a project in a list. A project that is not there and one that has no title are
alike. -/
def titleIn (ps : List Project) (id : String) : Option String :=
  (ps.find? (·.id == id)).bind (·.title)

/-- The title of a project. -/
def titleOf (w : Warehouse) (id : String) : Option String :=
  titleIn w.projects id

/-- To put a project gives it the title, if there is one, and leaves the titles of other
projects. -/
theorem titleIn_putProject (ps : List Project) (id : String) (title : Option String)
    (project : String) :
    titleIn (putProject id title ps) project
      = (if id = project then title else none).or (titleIn ps project) := by
  induction ps with
  | nil =>
    show titleIn [⟨id, title⟩] project = _
    by_cases same : id = project <;> simp [titleIn, same]
  | cons p ps ih =>
    unfold putProject
    by_cases put : p.id = id
    · rw [if_pos put]
      by_cases same : id = project <;> simp [titleIn, put, same]
    · rw [if_neg put]
      by_cases here : p.id = project
      · have other : id ≠ project := fun same => put (here.trans same.symm)
        simp [titleIn, here, other]
      · simpa [titleIn, here] using ih

/-- An operation gives the title that it says, or none. -/
theorem titleOf_perform (w : Warehouse) (step : LoadStep) (project : String) :
    (step.perform w).2.titleOf project = (step.titleGiven project).or (w.titleOf project) := by
  rw [titleOf, (w.named_perform step).1]
  cases step with
  | addProject id title => exact titleIn_putProject _ id title project
  | addSubproject parent child =>
    show titleIn (putProject child none (putProject parent none w.projects)) project = _
    rw [titleIn_putProject, titleIn_putProject, ite_self, ite_self]
    rfl
  | addProjectRepository p source repository =>
    show titleIn (putProject p none w.projects) project = _
    rw [titleIn_putProject, ite_self]
    rfl
  | _ => rfl

/-- **A project has the last title that was given for it.** -/
theorem titleOf_load (steps : List LoadStep) (project : String) :
    (empty.load steps).titleOf project
      = (steps.filterMap (·.titleGiven project)).getLast? :=
  (read_foldl (titleOf · project) _ (titleOf_perform · · project) _ _).trans Option.or_none

/-! ## Places

Repositories are found and then rewritten wherever their name stands, while a project is rewritten
where it is found first. For the place that is read afterwards this makes no difference. -/

/-- The place of a repository in a list, as the first record of the name has it. -/
def uriIn (rs : List Repository) (name : String) : Option String :=
  (rs.find? (·.name == name)).bind (·.uri)

/-- The place where a repository is found. -/
def uriOf (w : Warehouse) (name : String) : Option String :=
  uriIn w.repositories name

/-- A place is given to the repositories of one name, and those of other names keep theirs. -/
theorem uriIn_map (rs : List Repository) (name : String) (uri : Option String)
    (repository : String) :
    uriIn (rs.map fun q => if q.name = name then { q with uri := uri.or q.uri } else q) repository
      = if name = repository then (rs.find? (·.name == repository)).bind (uri.or ·.uri)
        else uriIn rs repository := by
  have found : ((rs.map fun q => if q.name = name then { q with uri := uri.or q.uri } else q).find?
      (·.name == repository)) = (rs.find? (·.name == repository)).map fun q =>
        if q.name = name then { q with uri := uri.or q.uri } else q := by
    rw [List.find?_map]
    refine congrArg (Option.map _ <| rs.find? ·) (funext fun q => ?_)
    rw [Function.comp_apply]
    split <;> rfl
  rw [uriIn, found, uriIn]
  cases first : rs.find? (·.name == repository) with
  | none => split <;> rfl
  | some q =>
    have named : q.name = repository := beq_iff_eq.1 (List.find?_some first :)
    subst named
    show (if q.name = name then _ else q).uri = _
    by_cases same : name = q.name
    · rw [if_pos same, if_pos same.symm]
      rfl
    · rw [if_neg same, if_neg (Ne.symm same)]
      rfl

/-- To name a repository gives it the place, if there is one, whether it is known or new. -/
theorem uriIn_nameRepository (w : Warehouse) (name : String) (uri : Option String)
    (repository : String) :
    uriIn (w.nameRepository name uri).2.repositories repository
      = (if name = repository then uri else none).or (uriIn w.repositories repository) := by
  unfold nameRepository
  split
  · rename_i r found
    show uriIn (w.repositories.map _) repository = _
    rw [uriIn_map]
    split
    · rename_i same
      rw [← same, uriIn, found]
      rfl
    · rfl
  · rename_i unknown
    show uriIn (w.repositories ++ _) repository = _
    rw [uriIn, List.find?_append]
    by_cases same : name = repository
    · subst same
      simp [uriIn, unknown]
    · simp [uriIn, same]

/-- An operation gives the place that it says, or none. -/
theorem uriOf_perform (w : Warehouse) (step : LoadStep) (repository : String) :
    (step.perform w).2.uriOf repository = (step.uriGiven repository).or (w.uriOf repository) := by
  rw [uriOf, (w.named_perform step).2.1]
  cases step with
  | nameRepository name uri => exact w.uriIn_nameRepository name uri repository
  | _ => rfl

/-- **A repository has the last place that was given for it.** -/
theorem uriOf_load (steps : List LoadStep) (repository : String) :
    (empty.load steps).uriOf repository
      = (steps.filterMap (·.uriGiven repository)).getLast? :=
  (read_foldl (uriOf · repository) _ (uriOf_perform · · repository) _ _).trans Option.or_none

/-! ## Settings

A setting always has a value, so whatever is stored replaces what was there. -/

/-- The setting that is put has the value, and the others keep theirs. -/
theorem lookup_putSetting (key value : String) (es : List (String × String)) (setting : String) :
    (putSetting key value es).lookup setting
      = (if key = setting then some value else none).or (es.lookup setting) := by
  have put : (if key = setting then some value else none)
      = match setting == key with
        | true => some value
        | false => none := by
    by_cases same : key = setting
    · rw [if_pos same, beq_iff_eq.2 same.symm]
    · rw [if_neg same, beq_eq_false_iff_ne.2 (Ne.symm same)]
  rw [put]
  induction es with
  | nil =>
    rw [putSetting, List.lookup_cons]
    cases setting == key <;> rfl
  | cons e es ih =>
    obtain ⟨k, v⟩ := e
    unfold putSetting
    by_cases here : k = key
    · rw [if_pos here, here, List.lookup_cons, List.lookup_cons]
      cases setting == key <;> rfl
    · rw [if_neg here, List.lookup_cons, List.lookup_cons, ih]
      by_cases there : setting = k
      · rw [there, beq_self_eq_true, beq_eq_false_iff_ne.2 here]
        rfl
      · rw [beq_eq_false_iff_ne.2 there]

/-- The setting that is stored has the value, and the others keep theirs. -/
theorem setting?_storeSetting (w : Warehouse) (key value setting : String) :
    (w.storeSetting key value).setting? setting
      = (if key = setting then some value else none).or (w.setting? setting) :=
  lookup_putSetting key value w.settings setting

/-- An operation gives a setting the value that it says, or none. -/
theorem setting?_perform (w : Warehouse) (step : LoadStep) (setting : String) :
    (step.perform w).2.setting? setting = (step.valueGiven setting).or (w.setting? setting) := by
  rw [setting?, (w.named_perform step).2.2]
  cases step with
  | storeSetting key value => exact w.setting?_storeSetting key value setting
  | _ => rfl

/-- **A setting has the last value that was stored for it.** -/
theorem setting?_load (steps : List LoadStep) (setting : String) :
    (empty.load steps).setting? setting
      = (steps.filterMap (·.valueGiven setting)).getLast? :=
  (read_foldl (setting? · setting) _ (setting?_perform · · setting) _ _).trans Option.or_none

end Warehouse

end ActivityMetrics
