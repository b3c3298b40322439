import ActivityMetrics.Text.Blank
import Mathlib.Data.List.Basic

/-!
# Texts between white space, and pieces between commas

What trimming leaves is read off from the way a text is put together: it is the part between white
space that neither begins nor ends with white space (`trimChars_eq_iff`). So nobody has to follow
how the ends are taken off, first in front and then behind, and a text of white space alone is no
special case for those who use it.

Pieces without commas that are put together by commas are the pieces of the result
(`splitCommas_intercalate`). The other way round a text always is its pieces with commas between,
but pieces that hold commas would be taken for more of them.
-/

namespace ActivityMetrics.Text

variable {cs before behind vs : List Char}

/-! ## White space at the ends -/

/-- The printed characters of ASCII are no white space. -/
theorem isBlank_eq_false {c : Char} (low : 0x20 < c.toNat) (high : c.toNat < 0x7F) :
    isBlank c = false := by
  simp only [isBlank, blankRanges, Ranges.contains, List.any_cons, List.any_nil, Bool.or_false,
    Bool.or_eq_false_iff, Bool.and_eq_false_iff, decide_eq_false_iff_not]
  omega

theorem not_isBlank_of_isDigit {c : Char} (h : c.isDigit) : isBlank c = false := by
  have bounds : 48 ≤ c.toNat ∧ c.toNat ≤ 57 := Char.isDigit_iff_toNat.1 h
  exact isBlank_eq_false (by omega) (by omega)

/-- The characters are white space, of any script. -/
def AllBlank (cs : List Char) : Prop :=
  ∀ c ∈ cs, isBlank c

/-- The characters neither begin nor end with white space. White space between other characters is
not spoken of, since trimming leaves it alone. -/
structure Trimmed (cs : List Char) : Prop where
  /-- They do not begin with it. -/
  front : ∀ c ∈ cs.head?, isBlank c = false
  /-- They do not end with it. -/
  back : ∀ c ∈ cs.getLast?, isBlank c = false

theorem dropBlank_append (blank : AllBlank before) (cs : List Char) :
    dropBlank (before ++ cs) = dropBlank cs :=
  List.dropWhile_append_of_pos blank

theorem dropBlankEnd_append (cs : List Char) (blank : AllBlank behind) :
    dropBlankEnd (cs ++ behind) = dropBlankEnd cs := by
  rw [dropBlankEnd, List.reverse_append,
    List.dropWhile_append_of_pos fun c hc => blank c (List.mem_reverse.1 hc)]
  rfl

theorem dropBlank_eq_self (h : ∀ c ∈ cs.head?, isBlank c = false) : dropBlank cs = cs := by
  cases cs with
  | nil => rfl
  | cons c cs =>
    have first : isBlank c = false := h c rfl
    exact List.dropWhile_cons_of_neg (by rw [first]; exact Bool.false_ne_true)

theorem dropBlankEnd_eq_self (h : ∀ c ∈ cs.getLast?, isBlank c = false) :
    dropBlankEnd cs = cs := by
  have reversed : dropBlank cs.reverse = cs.reverse :=
    dropBlank_eq_self (by rwa [List.head?_reverse])
  rw [dropBlankEnd, show cs.reverse.dropWhile isBlank = cs.reverse from reversed,
    List.reverse_reverse]

/-- White space is taken off the front until another character comes. -/
theorem exists_dropBlank (cs : List Char) :
    ∃ before, AllBlank before ∧ cs = before ++ dropBlank cs ∧
      ∀ c ∈ (dropBlank cs).head?, isBlank c = false := by
  refine ⟨cs.takeWhile isBlank, List.all_eq_true.1 List.all_takeWhile,
    List.takeWhile_append_dropWhile.symm, fun c hc => ?_⟩
  have first := List.head?_dropWhile_not isBlank cs
  rw [show (cs.dropWhile isBlank).head? = some c from hc] at first
  exact first

/-- White space is taken off the end until another character comes. -/
theorem exists_dropBlankEnd (cs : List Char) :
    ∃ behind, AllBlank behind ∧ cs = dropBlankEnd cs ++ behind ∧
      ∀ c ∈ (dropBlankEnd cs).getLast?, isBlank c = false := by
  obtain ⟨before, blank, parts, other⟩ := exists_dropBlank cs.reverse
  refine ⟨before.reverse, fun c hc => blank c (List.mem_reverse.1 hc), ?_, fun c hc => ?_⟩
  · have whole := congrArg List.reverse parts
    rwa [List.reverse_reverse, List.reverse_append] at whole
  · rw [dropBlankEnd, List.getLast?_reverse] at hc
    exact other c hc

/-- **What trimming leaves** is the part between white space that neither begins nor ends with white
space. That there is only one such part is what the backward direction says. -/
theorem trimChars_eq_iff :
    trimChars cs = vs ↔ Trimmed vs ∧
      ∃ before behind, AllBlank before ∧ AllBlank behind ∧ cs = before ++ vs ++ behind := by
  constructor
  · rintro rfl
    obtain ⟨before, blank, parts, first⟩ := exists_dropBlank cs
    obtain ⟨behind, blank', parts', last⟩ := exists_dropBlankEnd (dropBlank cs)
    refine ⟨⟨fun c hc => first c ?_, last⟩, before, behind, blank, blank', ?_⟩
    · rw [parts']
      exact List.mem_head?_append_of_mem_head? hc
    · rw [List.append_assoc]
      exact parts.trans (congrArg (before ++ ·) parts')
  · rintro ⟨trimmed, before, behind, blank, blank', rfl⟩
    rw [trimChars, List.append_assoc, dropBlank_append blank]
    cases vs with
    | nil =>
      -- all of it is white space, which is taken off the front
      rw [List.nil_append, ← List.append_nil behind, dropBlank_append blank']
      rfl
    | cons v vs =>
      have begins : ∀ c ∈ (v :: vs ++ behind).head?, isBlank c = false := trimmed.front
      rw [dropBlank_eq_self begins, dropBlankEnd_append _ blank',
        dropBlankEnd_eq_self trimmed.back]

theorem trimmed_trimChars (cs : List Char) : Trimmed (trimChars cs) :=
  (trimChars_eq_iff.1 rfl).1

theorem trimChars_eq_self (h : Trimmed cs) : trimChars cs = cs :=
  trimChars_eq_iff.2 ⟨h, [], [], nofun, nofun, (List.append_nil cs).symm⟩

theorem trim_trim (s : String) : trim (trim s) = trim s := by
  refine String.toList_injective ?_
  rw [toList_trim, toList_trim]
  exact trimChars_eq_self (trimmed_trimChars _)

/-! ## Pieces between commas -/

theorem splitChars_eq_splitOn (sep : Char) (cs : List Char) :
    splitChars sep cs = cs.splitOn sep := by
  induction cs with
  | nil => rfl
  | cons c cs ih =>
    rw [List.splitOn_cons_eq_if_modifyHead, splitChars, ih]
    cases pieces : cs.splitOn sep with
    | nil => exact absurd pieces (List.splitOn_ne_nil sep cs)
    | cons piece pieces =>
      by_cases here : c = sep
      · rw [if_pos (beq_iff_eq.2 here)]
        exact if_pos here
      · rw [if_neg (mt beq_iff_eq.1 here)]
        exact if_neg here

/-- **Pieces without commas are not lost between commas.** There has to be one piece at least,
because no pieces and one empty piece are put together alike. -/
theorem splitCommas_intercalate {pieces : List String} (ne : pieces ≠ [])
    (plain : ∀ piece ∈ pieces, ',' ∉ piece.toList) :
    splitCommas (String.intercalate "," pieces) = pieces := by
  have comma : ",".toList = [','] := rfl
  have chars : ∀ cs ∈ pieces.map String.toList, ',' ∉ cs := List.forall_mem_map.2 plain
  rw [splitCommas, splitChars_eq_splitOn, String.toList_intercalate, comma,
    List.splitOn_intercalate ',' chars (mt List.map_eq_nil_iff.1 ne), List.map_map]
  exact (List.map_congr_left fun piece _ => String.ofList_toList).trans (List.map_id pieces)

/-- The entries of a list are trimmed, and none of them is blank. -/
theorem of_mem_listEntries {s v : String} (h : v ∈ listEntries s) : trim v = v ∧ v ≠ "" := by
  obtain ⟨piece, full⟩ := List.mem_filter.1 h
  obtain ⟨raw, _, rfl⟩ := List.mem_map.1 piece
  refine ⟨trim_trim raw, fun empty => ?_⟩
  rw [empty] at full
  cases full

end ActivityMetrics.Text
