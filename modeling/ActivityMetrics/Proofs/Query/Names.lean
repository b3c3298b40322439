import ActivityMetrics.Query.Clause

/-!
# Names of tables in a text

A text refers to a column by the name of its table, a dot and the name of the column. This module
reads the names of tables off a text, without those in subqueries (`namesIn`). The texts of links
and conditions refer to the tables of their columns and to no others (`Link.namesIn_phrase`,
`Condition.namesIn_phrase`), whatever the number of their marks.

Phrases know the tables of their columns, but a database does not see phrases. A name that was
written into the words of a phrase, and not as a column, would go unnoticed there. So the names are
read from the characters, with nothing but brackets and words to go by, and only then compared with
what the phrases say.

The number of marks is the one thing about the text of a condition that is not fixed. Marks hold no
letters and no dots, so a list of them in brackets leaves no trace (`namesOf_marks`), and what
remains is a finite number of texts, each of which is read through.
-/

namespace ActivityMetrics

/-- A character of a word of the language. -/
def isWordChar (c : Char) : Bool :=
  c.isAlphanum || c == '_'

/-- What has been read of a text: enough to know, at a dot, which word is in front of it and whether
a subquery is around it. -/
structure NameScan where
  /-- The word at the end, from its last character on. -/
  word : List Char := []
  /-- The brackets that are open, the innermost first, and whether they hold a subquery. -/
  brackets : List Bool := []
  /-- The names of tables outside subqueries, the last one first. -/
  names : List String := []
deriving DecidableEq

namespace NameScan

/-- The word that makes its bracket a subquery. -/
def selecting (word : List Char) : Bool :=
  word.reverse == ['S', 'E', 'L', 'E', 'C', 'T']

/-- Reads a character. Any character that does not belong to a word ends one; after a dot, the word
is the name of a table. A bracket is known to hold a subquery only when its first word has ended. -/
def step (s : NameScan) (c : Char) : NameScan :=
  if isWordChar c then { s with word := c :: s.word }
  else
    let brackets := match s.brackets with
      | [] => []
      | inner :: outer => (inner || selecting s.word) :: outer
    { word := []
      brackets :=
        if c == '(' then false :: brackets
        else if c == ')' then brackets.tail
        else brackets
      names :=
        if c == '.' && !brackets.any id then String.ofList s.word.reverse :: s.names
        else s.names }

end NameScan

/-- The names of the tables that characters refer to outside subqueries, from left to right. -/
def namesOf (cs : List Char) : List String :=
  (cs.foldl NameScan.step {}).names.reverse

/-- The names of the tables that a text refers to outside subqueries, from left to right. -/
def namesIn (text : String) : List String :=
  namesOf text.toList

example : namesIn "a.x = b.y AND a.z IN (SELECT c.x FROM t c WHERE (c.y = ?)) AND (d.x > 0)"
    = ["a", "b", "a", "d"] := by
  decide +kernel

/-! ## The characters of phrases

The text of a phrase is the concatenation of its pieces, so its characters can be computed piece by
piece. Each of these equations takes one piece off the front. -/

/-- The characters of tokens. -/
def Token.chars (ts : List Token) : List Char :=
  ts.flatMap fun t => t.text.toList

namespace Token

variable {ts us : List Token}

@[simp]
theorem chars_nil : chars [] = [] :=
  rfl

@[simp]
theorem chars_words (s : String) : chars (.words s :: ts) = s.toList ++ chars ts :=
  rfl

@[simp]
theorem chars_column (c : Column) :
    chars (.column c :: ts) = c.table.text.toList ++ '.' :: (c.name.toList ++ chars ts) := by
  simp [chars, text, Column.text]

@[simp]
theorem chars_mark (v : Parameter) : chars (.mark v :: ts) = '?' :: chars ts := by
  simp [chars, text]

@[simp]
theorem chars_append : chars (ts ++ us) = chars ts ++ chars us :=
  List.flatMap_append

end Token

namespace Phrase

variable {p q : Phrase}

/-- The characters of a phrase. -/
def chars (p : Phrase) : List Char :=
  Token.chars p.tokens

theorem toList_text (p : Phrase) : p.text.toList = p.chars := by
  rw [text, String.toList_join, List.flatMap_map]
  rfl

@[simp]
theorem chars_append : chars (p ++ q) = p.chars ++ q.chars := by
  rw [chars, tokens, List.flatMap_append, Token.chars_append]
  rfl

@[simp]
theorem chars_nil : chars [] = [] :=
  rfl

@[simp]
theorem chars_tokens (ts : List Token) : chars (ts.map .token) = Token.chars ts := by
  rw [chars, tokens, List.flatMap_map]
  exact congrArg Token.chars (List.flatMap_singleton' ts)

@[simp]
theorem chars_subquery (ts : List Token) : chars (.subquery ts :: p) = Token.chars ts ++ p.chars :=
  Token.chars_append

@[simp]
theorem chars_words (s : String) : (words s).chars = s.toList :=
  List.append_nil _

@[simp]
theorem chars_column (c : Column) :
    (column c).chars = c.table.text.toList ++ '.' :: c.name.toList :=
  (Token.chars_column c).trans (by simp)

@[simp]
theorem chars_marks (vs : List Parameter) : (marks vs).chars = Token.chars (Token.marks vs) :=
  chars_tokens _

end Phrase

/-! ## Marks leave no trace

A list of marks consists of question marks, commas and spaces. None of these belongs to a word, ends
a name or opens a bracket. -/

namespace NameScan

variable {s : NameScan}

/-- Between words, a character changes nothing unless it is a bracket or a dot. -/
theorem step_of_word_eq_nil (h : s.word = []) {c : Char} (blank : isWordChar c = false)
    (flat : c ≠ '(' ∧ c ≠ ')' ∧ c ≠ '.') : s.step c = s := by
  obtain ⟨word, brackets, names⟩ := s
  cases h
  simp only [step, blank, beq_false_of_ne flat.1, beq_false_of_ne flat.2.1,
    beq_false_of_ne flat.2.2]
  cases brackets <;> simp [selecting]

/-- After a character that belongs to no word, no word has begun. -/
theorem word_foldl {cs : List Char} (blank : ∀ c ∈ cs.getLast?, isWordChar c = false) :
    (cs.foldl step {}).word = [] := by
  rcases List.eq_nil_or_concat cs with rfl | ⟨cs, c, rfl⟩
  · rfl
  · have blank := blank c (by simp)
    simp [step, blank]

/-- Marks that come between words change nothing. -/
theorem foldl_marks (h : s.word = []) (vs : List Parameter) :
    (Token.chars (Token.marks vs)).foldl step s = s := by
  -- no word is open behind the bracket, so none is ended by what separates the marks
  have mark : s.step '?' = s := step_of_word_eq_nil h (by decide) (by decide)
  have comma : s.step ',' = s := step_of_word_eq_nil h (by decide) (by decide)
  have space : s.step ' ' = s := step_of_word_eq_nil h (by decide) (by decide)
  induction vs with
  | nil => rfl
  | cons v vs ih =>
    cases vs with
    | nil => simp [Token.marks, mark]
    | cons u us =>
      simp only [Token.marks, Token.chars_mark, Token.chars_words, String.reduceToList,
        List.cons_append, List.nil_append, List.foldl_cons, mark, comma, space]
      exact ih

end NameScan

/-- **Marks in brackets hold no name**, so they are read as if the brackets were empty. This takes
the number of values out of the question. -/
theorem namesOf_marks {before : List Char} (opened : before.getLast? = some '(')
    (vs : List Parameter) (after : List Char) :
    namesOf (before ++ Token.chars (Token.marks vs) ++ after) = namesOf (before ++ after) := by
  have blank : (before.foldl NameScan.step {}).word = [] :=
    NameScan.word_foldl fun c last => by
      cases opened.symm.trans last
      rfl
  unfold namesOf
  simp only [List.foldl_append, NameScan.foldl_marks blank vs]

/-- Tokens that end by opening a list end in a bracket. -/
theorem Token.getLast?_chars {ts : List Token} (opened : ts.getLast? = some (.words " IN (")) :
    (chars ts).getLast? = some '(' := by
  obtain ⟨us, rfl⟩ := List.getLast?_eq_some_iff.1 opened
  rw [chars_append, List.getLast?_append]
  rfl

/-- A subquery that ends in a list of marks is read as if the list were empty. -/
theorem Phrase.namesOf_subquery {ts : List Token} (opened : ts.getLast? = some (.words " IN ("))
    (p : Phrase) (vs : List Parameter) (us : List Token) (q : Phrase) :
    namesOf (chars (p ++ .subquery (ts ++ Token.marks vs ++ us) :: q))
      = namesOf (chars (p ++ .subquery (ts ++ us) :: q)) := by
  have inner : (p.chars ++ Token.chars ts).getLast? = some '(' := by
    rw [List.getLast?_append, Token.getLast?_chars opened]
    rfl
  have marks := namesOf_marks inner vs (Token.chars us ++ q.chars)
  simpa only [chars_append, chars_subquery, Token.chars_append, List.append_assoc] using marks

/-! ## Tables of phrases

What the phrases themselves say about their tables. A subquery is opaque here, as it is for the
names in a text. -/

namespace Phrase

variable {p q : Phrase}

@[simp]
theorem aliases_append : aliases (p ++ q) = p.aliases ++ q.aliases :=
  List.filterMap_append

@[simp]
theorem aliases_words (s : String) : (words s).aliases = [] :=
  rfl

@[simp]
theorem aliases_column (c : Column) : (column c).aliases = [c.table] :=
  rfl

@[simp]
theorem aliases_subquery (ts : List Token) : aliases (.subquery ts :: p) = p.aliases :=
  rfl

@[simp]
theorem aliases_nil : aliases [] = [] :=
  rfl

theorem aliases_tokens (ts : List Token) : aliases (ts.map .token) = ts.filterMap Token.table? :=
  List.filterMap_map

@[simp]
theorem aliases_marks (vs : List Parameter) : (marks vs).aliases = [] := by
  rw [marks, aliases_tokens]
  induction vs with
  | nil => rfl
  | cons v vs ih =>
    cases vs with
    | nil => rfl
    | cons u us => exact ih

end Phrase

/-! ## Links and conditions

Each kind of link and condition has a text of its own, and it is read through. With the marks out of
the way, all of this is finite computation. -/

/-- **The names in the text of a link** are those of the tables of its columns. -/
theorem Link.namesIn_phrase (e : Event) (l : Link) :
    namesIn (l.phrase e).text = (l.phrase e).aliases.map Alias.text := by
  rw [namesIn, Phrase.toList_text]
  cases l with
  | issue =>
    simp [phrase, Alias.text]
    decide +kernel
  | repository source =>
    cases source <;> cases e <;>
      simp [phrase, Source.repositoryAlias, Event.repository, Alias.text] <;> decide +kernel
  | identity => cases e <;> simp [phrase, Event.actor, Alias.text] <;> decide +kernel
  | enrollment kind =>
    cases kind <;> cases e <;>
      simp [phrase, duringPhrase, Affiliation.name, Affiliation.short, Event.date, uuidColumn,
        Alias.text] <;> decide +kernel
  | group kind => cases kind <;> simp [phrase, Affiliation.short, Alias.text] <;> decide +kernel

/-- **The names in the text of a condition** are those of the tables of its columns outside
subqueries. A subquery has tables of its own, which nothing outside can refer to. -/
theorem Condition.namesIn_phrase (e : Event) (p : Condition) :
    namesIn (p.phrase e).text = (p.phrase e).aliases.map Alias.text := by
  rw [namesIn, Phrase.toList_text]
  cases p with
  | repositoryIs source name =>
    cases source <;> simp [phrase, Source.repositoryName, Token.marks, Alias.text] <;>
      decide +kernel
  | personIs uuid =>
    simp [phrase, uuidColumn, Token.marks, Alias.text]
    decide +kernel
  | memberOf kind name =>
    cases kind <;>
      simp [phrase, Affiliation.nameColumn, Token.marks, Affiliation.short, Alias.text] <;>
      decide +kernel
  | inProjects source projects =>
    rw [phrase, projectTokens, Phrase.namesOf_subquery rfl]
    cases e <;> simp [Event.repository, Alias.text] <;> decide +kernel
  | notBy uuids =>
    rw [phrase, actorTokens, List.append_assoc _ [_], List.singleton_append,
      Phrase.namesOf_subquery rfl]
    cases e <;> simp [Event.actor, Alias.text] <;> decide +kernel
  | notFrom names =>
    rw [phrase, membershipTokens, Phrase.namesOf_subquery rfl]
    cases e <;> simp [duringPhrase, Event.actor, Event.date, Alias.text] <;> decide +kernel
  | closes condition =>
    have opened : ∀ p : Phrase, (p ++ Phrase.words " IN (").chars.getLast? = some '(' := by
      intro p
      rw [Phrase.chars_append, List.getLast?_append]
      rfl
    rw [phrase, Phrase.chars_append, Phrase.chars_append, Phrase.chars_marks,
      namesOf_marks (opened _)]
    simp [Token.marks, Alias.text]
    decide +kernel

end ActivityMetrics
