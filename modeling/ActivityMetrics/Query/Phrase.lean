import ActivityMetrics.Dimension
import ActivityMetrics.Query.Fragments

/-!
# Phrases

A phrase is a piece of a statement whose parts are kept apart: words of the language, columns of
named tables, and marks with their parameters. Its text, its parameters and the tables that it
refers to are read off the same parts. A value from a user can only be a parameter, so the text of a
phrase does not depend on one.
-/

namespace ActivityMetrics

/-- The names under which a statement refers to tables. -/
inductive Alias where
  /-- Commits. -/
  | commit
  /-- Issues. -/
  | issue
  /-- Changes of issues. -/
  | change
  /-- Repositories. -/
  | repository
  /-- Trackers. -/
  | tracker
  /-- Links from raw actors to people. -/
  | identity
  /-- Enrollments of a kind. -/
  | enrollment (kind : Affiliation)
  /-- Groups of a kind. -/
  | group (kind : Affiliation)
  /-- Links from raw actors to people, in a subquery. -/
  | innerIdentity
  /-- Enrollments, in a subquery. -/
  | innerEnrollment
  /-- Organizations, in a subquery. -/
  | innerGroup
  /-- Repositories of projects, in a subquery. -/
  | innerProject
deriving DecidableEq

/-- The short name of a kind of group. -/
def Affiliation.short : Affiliation → String
  | .organization => "org"
  | .country => "cou"
  | .domain => "dom"

/-- The text of an alias. -/
def Alias.text : Alias → String
  | .commit => "s"
  | .issue => "i"
  | .change => "ch"
  | .repository => "r"
  | .tracker => "t"
  | .identity => "pid"
  | .enrollment kind => "enr_" ++ kind.short
  | .group kind => kind.short
  | .innerIdentity => "xi"
  | .innerEnrollment => "xe"
  | .innerGroup => "xo"
  | .innerProject => "pr"

/-- A column of a named table. -/
structure Column where
  /-- The table. -/
  table : Alias
  /-- The name of the column. -/
  name : String
deriving DecidableEq

/-- The text of a column. -/
def Column.text (c : Column) : String :=
  c.table.text ++ "." ++ c.name

/-- The smallest part of a phrase. -/
inductive Token where
  /-- Words and punctuation. -/
  | words (text : String)
  /-- A column. -/
  | column (c : Column)
  /-- A mark and its parameter. -/
  | mark (value : Parameter)

/-- A part of a phrase. -/
inductive Piece where
  /-- A token outside subqueries. -/
  | token (t : Token)
  /-- A subquery, with its brackets. -/
  | subquery (ts : List Token)

/-- A piece of a statement. -/
abbrev Phrase := List Piece

namespace Token

/-- The text of a token. -/
def text : Token → String
  | .words s => s
  | .column c => c.text
  | .mark _ => "?"

/-- The parameter of a token that is a mark. -/
def param? : Token → Option Parameter
  | .mark v => some v
  | .words _ | .column _ => none

/-- The table that a token refers to. -/
def table? : Token → Option Alias
  | .column c => some c.table
  | .words _ | .mark _ => none

/-- So many marks, separated by commas. -/
def marks : List Parameter → List Token
  | [] => []
  | [v] => [.mark v]
  | v :: vs => .mark v :: .words ", " :: marks vs

end Token

namespace Piece

/-- The tokens of a piece. -/
def tokens : Piece → List Token
  | .token t => [t]
  | .subquery ts => ts

/-- The table that a piece refers to outside subqueries. -/
def table? : Piece → Option Alias
  | .token t => t.table?
  | .subquery _ => none

end Piece

namespace Phrase

/-- All tokens, from left to right. -/
def tokens (p : Phrase) : List Token :=
  p.flatMap Piece.tokens

/-- The text. -/
def text (p : Phrase) : String :=
  String.join (p.tokens.map Token.text)

/-- The parameters of the marks, from left to right. -/
def params (p : Phrase) : List Parameter :=
  p.tokens.filterMap Token.param?

/-- The tables that the phrase refers to outside subqueries. -/
def aliases (p : Phrase) : List Alias :=
  p.filterMap Piece.table?

/-- The phrase of words. -/
def words (s : String) : Phrase :=
  [.token (.words s)]

/-- The phrase of a column. -/
def column (c : Column) : Phrase :=
  [.token (.column c)]

/-- The phrase of marks, separated by commas. -/
def marks (vs : List Parameter) : Phrase :=
  (Token.marks vs).map .token

end Phrase

end ActivityMetrics
