import ActivityMetrics.Decimal.Layout

/-!
# Documents

Answers are written as JSON documents. `Document.pretty` is the indented form of the command line:
two spaces a level, one entry a line, and nothing between the brackets of an empty collection.
`Document.compact` is the same document on one line.
-/

namespace ActivityMetrics

/-- A JSON document. The fields of an object keep their order. -/
inductive Document where
  /-- The absent value. -/
  | null
  /-- A truth value. -/
  | bool (b : Bool)
  /-- An integer. -/
  | integer (i : Int)
  /-- A floating-point number. -/
  | number (x : Float)
  /-- A text. -/
  | text (s : String)
  /-- A list of documents. -/
  | list (items : List Document)
  /-- Named documents. -/
  | object (fields : List (String × Document))

namespace Document

/-- The sixteen digits of a hexadecimal number. -/
def hexDigit (n : Nat) : Char :=
  (Nat.toDigits 16 (n % 16)).headD '0'

/-- The characters that stand for `c` inside quotes. Control characters have an escape of their own
or are written by their code. -/
def escapeChar (c : Char) : List Char :=
  if c = '"' then ['\\', '"']
  else if c = '\\' then ['\\', '\\']
  else if c = '\x08' then ['\\', 'b']
  else if c = '\x0c' then ['\\', 'f']
  else if c = '\n' then ['\\', 'n']
  else if c = '\r' then ['\\', 'r']
  else if c = '\t' then ['\\', 't']
  else if c.toNat < 0x20 then
    ['\\', 'u', '0', '0', hexDigit (c.toNat / 16), hexDigit c.toNat]
  else [c]

/-- A text between quotes. -/
def quoted (s : String) : String :=
  String.ofList ('"' :: s.toList.flatMap escapeChar ++ ['"'])

/-- A number of a document. Values that are not finite have no number and are absent. -/
def numberText (x : Float) : String :=
  if x.isNaN || x.isInf then "null" else Decimal.Layout.document.render x

/-- A new line, indented to a level. -/
def newline (level : Nat) : String :=
  String.ofList ('\n' :: List.replicate (2 * level) ' ')

/-- Pieces with a separator between them. -/
def separated (sep : String) : List String → String
  | [] => ""
  | [piece] => piece
  | piece :: pieces => piece ++ sep ++ separated sep pieces

mutual

/-- The indented text of a document whose first line starts at a level. -/
def prettyAt (level : Nat) : Document → String
  | .null => "null"
  | .bool b => if b then "true" else "false"
  | .integer i => toString i
  | .number x => numberText x
  | .text s => quoted s
  | .list [] => "[]"
  | .list items =>
    "[" ++ newline (level + 1)
      ++ separated ("," ++ newline (level + 1)) (prettyItems (level + 1) items)
      ++ newline level ++ "]"
  | .object [] => "\x7b\x7d"
  | .object fields =>
    "\x7b" ++ newline (level + 1)
      ++ separated ("," ++ newline (level + 1)) (prettyFields (level + 1) fields)
      ++ newline level ++ "\x7d"

/-- The indented texts of the items of a list. -/
def prettyItems (level : Nat) : List Document → List String
  | [] => []
  | item :: items => prettyAt level item :: prettyItems level items

/-- The indented texts of the fields of an object. -/
def prettyFields (level : Nat) : List (String × Document) → List String
  | [] => []
  | (name, value) :: fields =>
    (quoted name ++ ": " ++ prettyAt level value) :: prettyFields level fields

end

/-- The indented text of a document. -/
def pretty (d : Document) : String :=
  prettyAt 0 d

mutual

/-- The text of a document on one line. -/
def compact : Document → String
  | .null => "null"
  | .bool b => if b then "true" else "false"
  | .integer i => toString i
  | .number x => numberText x
  | .text s => quoted s
  | .list items => "[" ++ separated "," (compactItems items) ++ "]"
  | .object fields => "\x7b" ++ separated "," (compactFields fields) ++ "\x7d"

/-- The one-line texts of the items of a list. -/
def compactItems : List Document → List String
  | [] => []
  | item :: items => compact item :: compactItems items

/-- The one-line texts of the fields of an object. -/
def compactFields : List (String × Document) → List String
  | [] => []
  | (name, value) :: fields => (quoted name ++ ":" ++ compact value) :: compactFields fields

end

/-- The absent value, or the document of a present one. -/
def ofOption {α : Type} (f : α → Document) : Option α → Document
  | some a => f a
  | none => .null

/-- A list of texts. -/
def texts (ss : List String) : Document :=
  .list (ss.map .text)

end Document

end ActivityMetrics
