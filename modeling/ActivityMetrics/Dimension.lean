/-!
# Dimensions, data sources and affiliations

The axes along which activity is broken down, the two sources that activity comes from, and the
kinds of group that a person can belong to for a time. Three of the dimensions – company, country
and domain – are such affiliations.
-/

namespace ActivityMetrics

/-- An axis along which activity is broken down. -/
inductive Dimension where
  /-- The repository, or the tracker of an issue. -/
  | repository
  /-- The organization that a person belongs to. -/
  | company
  /-- The country that a person works from. -/
  | country
  /-- The domain of a person's address. -/
  | domain
  /-- A tree of projects. -/
  | project
  /-- The person who acted. -/
  | person
deriving DecidableEq, Repr

/-- The name of a dimension. -/
def Dimension.name : Dimension → String
  | .repository => "repository"
  | .company => "company"
  | .country => "country"
  | .domain => "domain"
  | .project => "project"
  | .person => "person"

/-- Where activity comes from. -/
inductive Source where
  /-- Source code management: commits. -/
  | scm
  /-- Issue tracking: issues and their changes. -/
  | its
deriving DecidableEq, Repr

/-- The name of a source. -/
def Source.name : Source → String
  | .scm => "scm"
  | .its => "its"

/-- What an enrollment makes a person part of. -/
inductive Affiliation where
  /-- An organization. -/
  | organization
  /-- A country. -/
  | country
  /-- A domain. -/
  | domain
deriving DecidableEq, Repr

/-- The name of a kind of affiliation. -/
def Affiliation.name : Affiliation → String
  | .organization => "organization"
  | .country => "country"
  | .domain => "domain"

/-- The kind of affiliation behind a dimension. -/
def Dimension.affiliation? : Dimension → Option Affiliation
  | .company => some .organization
  | .country => some .country
  | .domain => some .domain
  | .repository | .project | .person => none

end ActivityMetrics
