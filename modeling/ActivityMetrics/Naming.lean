import ActivityMetrics.Failure
import ActivityMetrics.Text.Blank
import ActivityMetrics.Text.Lowercase

/-!
# Names of dimensions and sources

People write the names of dimensions and sources in several ways: in any case, in the plural, in
short, with white space around. All of them are one name in normal form.
-/

namespace ActivityMetrics

/-- A name in normal form: without white space around it, in lower case. -/
def normalName (s : String) : String :=
  Text.lowercase (Text.trim s)

/-- The dimension of a name in normal form. -/
def Dimension.ofNormalName? : String → Option Dimension
  | "repository" | "repositories" | "repo" => some .repository
  | "company" | "companies" | "organization" | "org" => some .company
  | "country" | "countries" => some .country
  | "domain" | "domains" => some .domain
  | "project" | "projects" => some .project
  | "person" | "people" | "identity" => some .person
  | _ => none

/-- The dimension that a name stands for. -/
def Dimension.ofName (s : String) : Outcome Dimension :=
  match Dimension.ofNormalName? (normalName s) with
  | some d => .ok d
  | none => .error (.unsupportedDimension (normalName s) "any")

/-- The source of a name in normal form. -/
def Source.ofNormalName? : String → Option Source
  | "scm" | "git" => some .scm
  | "its" | "issues" => some .its
  | _ => none

/-- The source that a name stands for. -/
def Source.ofName (s : String) : Outcome Source :=
  match Source.ofNormalName? (normalName s) with
  | some source => .ok source
  | none => .error (.setting (.source (normalName s)))

end ActivityMetrics
