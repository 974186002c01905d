import Mathlib.Data.List.Basic

/-!
# How statements are spelled

Statements that write a table, with all that can be written between their tokens.

* `Seam`, `Name`, `Word`     whitespace and comments, names in all styles, keywords in any case;
* `Body`, `Parens`           balanced text between parentheses;
* `CommonTable`, `With`      a leading `WITH` clause;
* `Verb`, `Mutation`         INSERT, REPLACE, UPDATE and DELETE with their target;
* `Mutation.print`           the text of a statement.
-/

namespace Sqlite.Grammar

abbrev Text := List Char

/-! ## characters -/

def isBlank (c : Char) : Bool := c == ' ' || c == '\t' || c == '\n' || c == '\x0c' || c == '\r'

def isAsciiLetter (c : Char) : Bool := ('a' ≤ c && c ≤ 'z') || ('A' ≤ c && c ≤ 'Z')

def isAsciiDigit (c : Char) : Bool := '0' ≤ c && c ≤ '9'

/-- a character of a bare name -/
def isIdChar (c : Char) : Bool :=
  isAsciiLetter c || isAsciiDigit c || c == '_' || c == '$' || 128 ≤ c.toNat

def isIdStart (c : Char) : Bool := isAsciiLetter c || c == '_' || 128 ≤ c.toNat

/-- names and keywords are compared without the case of ASCII letters -/
def lowerAscii (c : Char) : Char := if 'A' ≤ c ∧ c ≤ 'Z' then Char.ofNat (c.toNat + 32) else c

def lowerText (s : Text) : Text := s.map lowerAscii

/-! ## seams -/

/-- the end of a block comment does not occur -/
def noBlockEnd : Text → Bool
  | '*' :: '/' :: _ => false
  | _ :: s => noBlockEnd s
  | [] => true

inductive Blank where
  | space (c : Char) (blank : isBlank c)
  | line (text : Text) (oneLine : '\n' ∉ text)
  | block (text : Text) (open_ : noBlockEnd text)

def Blank.text : Blank → Text
  | .space c _ => [c]
  | .line s _ => '-' :: '-' :: (s ++ ['\n'])
  | .block s _ => '/' :: '*' :: (s ++ ['*', '/'])

/-- what may stand between two tokens -/
abbrev Seam := List Blank

def Seam.text (s : Seam) : Text := s.flatMap Blank.text

/-! ## words and names -/

/-- a keyword in any case -/
structure Word (keyword : String) where
  text : Text
  spelled : lowerText text = keyword.toList

inductive Quote where
  | single
  | double
  | backtick
  deriving DecidableEq

def Quote.char : Quote → Char
  | .single => '\''
  | .double => '"'
  | .backtick => '\x60'

/-- a quote in a quoted text is written twice -/
def Quote.escape (q : Quote) (s : Text) : Text :=
  s.flatMap fun c => if c = q.char then [c, c] else [c]

def Quote.span (q : Quote) (s : Text) : Text := q.char :: (q.escape s ++ [q.char])

def bracketSpan (s : Text) : Text := '[' :: (s ++ [']'])

inductive Name where
  | bare (text : Text) (start : ∃ c s, text = c :: s ∧ isIdStart c) (chars : ∀ c ∈ text, isIdChar c)
  | quoted (quote : Quote) (value : Text)
  | bracketed (value : Text) (noClose : ']' ∉ value)

def Name.text : Name → Text
  | .bare s _ _ => s
  | .quoted q s => q.span s
  | .bracketed s _ => bracketSpan s

def Name.value : Name → Text
  | .bare s _ _ => s
  | .quoted _ s => s
  | .bracketed s _ => s

def Name.isBare : Name → Bool
  | .bare .. => true
  | _ => false

/-- a name that is written like a string -/
def Name.isString : Name → Bool
  | .quoted .single _ => true
  | _ => false

/-! ## text between parentheses -/

def isQuoteOpen (c : Char) : Bool := c == '\'' || c == '"' || c == '\x60' || c == '['

/-- `c` starts no span, no parenthesis and no comment -/
def isPlain (c : Char) (rest : Text) : Bool :=
  !isQuoteOpen c && c != '(' && c != ')' && !(c == '-' && rest.head? == some '-')
    && !(c == '/' && rest.head? == some '*')

/-- balanced text; with `wild` it may have variables like `$a(...)`, whose suffix is any text without
blanks and `)` -/
inductive Body (wild : Prop) : Text → Prop
  | nil : Body wild []
  | char {c : Char} {rest : Text} (plain : isPlain c rest) (tail : Body wild rest) :
      Body wild (c :: rest)
  | span (q : Quote) (value : Text) {rest : Text} (apart : rest.head? ≠ some q.char)
      (tail : Body wild rest) : Body wild (q.span value ++ rest)
  | bracket {value rest : Text} (noClose : ']' ∉ value) (tail : Body wild rest) :
      Body wild (bracketSpan value ++ rest)
  | blank (b : Blank) {rest : Text} (tail : Body wild rest) : Body wild (b.text ++ rest)
  | parens {inner rest : Text} (body : Body wild inner) (tail : Body wild rest) :
      Body wild ('(' :: (inner ++ ')' :: rest))
  | wildVariable {sigil : Char} {name suffix rest : Text} (isWild : wild)
      (isVariable : sigil = '$' ∨ sigil = '@' ∨ sigil = ':' ∨ sigil = '#')
      (chars : name ≠ [] ∧ ∀ c ∈ name, isIdChar c ∨ c = ':')
      (noClose : ∀ c ∈ suffix, ¬ isBlank c ∧ c ≠ ')') (tail : Body wild rest) :
      Body wild (sigil :: (name ++ '(' :: (suffix ++ ')' :: rest)))

structure Parens where
  inner : Text
  body : Body True inner

def Parens.text (p : Parens) : Text := '(' :: (p.inner ++ [')'])

/-- there is no variable with a suffix in it, or none that breaks the balance -/
def Parens.Balanced (p : Parens) : Prop := Body False p.inner

/-! ## statements -/

/-- a seam between two words -/
structure Gap where
  seam : Seam
  nonempty : seam ≠ []

/-- `[NOT] MATERIALIZED` -/
structure Hint where
  not : Option (Word "not" × Gap)
  materialized : Word "materialized"
  after : Seam

/-- `name [(columns)] AS [[NOT] MATERIALIZED] (body)` -/
structure CommonTable where
  name : Name
  afterName : Seam
  columns : Option (Parens × Seam)
  asWord : Word "as"
  afterAs : Seam
  hint : Option Hint
  body : Parens
  afterBody : Seam
  nameApart : columns = none → name.isBare → afterName ≠ []
  hintApart : hint ≠ none → afterAs ≠ []

/-- `WITH [RECURSIVE] table, ...` -/
structure With where
  word : Word "with"
  afterWord : Seam
  recursive : Option (Word "recursive" × Seam)
  first : CommonTable
  others : List (Seam × CommonTable)
  wordApart : recursive ≠ none → afterWord ≠ []
  nameApart : first.name.isBare → (recursive.elim afterWord (·.2)) ≠ []

def conflictClauses : List String := ["rollback", "abort", "replace", "fail", "ignore"]

/-- `OR resolution` -/
structure Conflict where
  before : Gap
  orWord : Word "or"
  afterOr : Gap
  resolution : Text
  known : ∃ clause ∈ conflictClauses, lowerText resolution = clause.toList

inductive Verb where
  | insert (word : Word "insert") (conflict : Option Conflict) (gap : Gap) (into : Word "into")
  | replace (word : Word "replace") (gap : Gap) (into : Word "into")
  | update (word : Word "update") (conflict : Option Conflict)
  | delete (word : Word "delete") (gap : Gap) (fromWord : Word "from")

/-- what follows the target: nothing, a word, a parenthesis or a semicolon -/
def isTail (s : Text) : Bool := s.head?.all fun c => isAsciiLetter c || c == '(' || c == ';'

/-- a statement that writes a table; of what follows the target nothing is said -/
structure Mutation where
  before : Seam
  withClause : Option With
  verb : Verb
  afterVerb : Seam
  /-- the name of the schema, and the seams around the dot -/
  schema : Option (Name × Seam × Seam)
  table : Name
  afterTable : Seam
  tail : Text
  verbApart : (schema.elim table (·.1)).isBare → afterVerb ≠ []
  tailStart : isTail tail
  tailApart : table.isBare → afterTable = [] → tail.head?.all fun c => !isAsciiLetter c

/-! ## texts -/

section
variable (seam : Seam → Text) (parens : Parens → Text)

def Hint.print (h : Hint) : Text :=
  (h.not.elim [] fun n => n.1.text ++ seam n.2.seam) ++ h.materialized.text ++ seam h.after

def CommonTable.print (t : CommonTable) : Text :=
  t.name.text ++ seam t.afterName ++ (t.columns.elim [] fun c => parens c.1 ++ seam c.2)
    ++ t.asWord.text ++ seam t.afterAs ++ (t.hint.elim [] (Hint.print seam))
    ++ parens t.body ++ seam t.afterBody

def With.print (w : With) : Text :=
  w.word.text ++ seam w.afterWord ++ (w.recursive.elim [] fun r => r.1.text ++ seam r.2)
    ++ w.first.print seam parens
    ++ w.others.flatMap fun t => ',' :: (seam t.1 ++ t.2.print seam parens)

def Conflict.print (c : Conflict) : Text :=
  seam c.before.seam ++ c.orWord.text ++ seam c.afterOr.seam ++ c.resolution

def Verb.print : Verb → Text
  | .insert word conflict gap into =>
    word.text ++ conflict.elim [] (Conflict.print seam) ++ seam gap.seam ++ into.text
  | .replace word gap into => word.text ++ seam gap.seam ++ into.text
  | .update word conflict => word.text ++ conflict.elim [] (Conflict.print seam)
  | .delete word gap fromWord => word.text ++ seam gap.seam ++ fromWord.text

/-- the statement up to its target -/
def Mutation.print (m : Mutation) (tail : Text) : Text :=
  seam m.before ++ (m.withClause.elim [] (With.print seam parens)) ++ m.verb.print seam
    ++ seam m.afterVerb
    ++ (m.schema.elim [] fun s => s.1.text ++ seam s.2.1 ++ '.' :: seam s.2.2)
    ++ m.table.text ++ seam m.afterTable ++ tail

end

def Mutation.text (m : Mutation) : Text := m.print Seam.text Parens.text m.tail

/-- the statement writes the table of the main schema with this name -/
def Mutation.Writes (m : Mutation) (table : String) : Prop :=
  lowerText m.table.value = table.toList ∧
    ∀ s ∈ m.schema, lowerText s.1.value = "main".toList

end Sqlite.Grammar
