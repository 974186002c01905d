import Mathlib.Data.Nat.Init
import CloudflareShard.Sqlite.Grammar

/-!
# The scanners of statements

What `sql-safety.ts` reads off a statement's text. A scanner takes the text from its position on and
returns the text behind what it has read.

* `skipQuoteSpan`, `skipBalancedParens`                   spans and parentheses;
* `stripLeadingComments`, `stripCommentsPreservingStrings`   comments;
* `readIdentifierToken`, `skipLeadingCte`                 names and a leading `WITH` clause;
* `isMutation`, `isDeleteStatement`                       what a statement is;
* `mutationWriteTarget`, `mutationTargetIsInternal`       what it writes.
-/

namespace SqlSafety
open Sqlite.Grammar

/-! ## regular expressions -/

/-- `\s` -/
def isJsSpace (c : Char) : Bool :=
  (9 ≤ c.toNat && c.toNat ≤ 13) || c.toNat == 0x20 || c.toNat == 0xa0 || c.toNat == 0x1680
    || (0x2000 ≤ c.toNat && c.toNat ≤ 0x200a) || c.toNat == 0x2028 || c.toNat == 0x2029
    || c.toNat == 0x202f || c.toNat == 0x205f || c.toNat == 0x3000 || c.toNat == 0xfeff

/-- `\w` -/
def isWordChar (c : Char) : Bool := isAsciiLetter c || isAsciiDigit c || c == '_'

/-- `/^\s*/` -/
def skipSpaces (s : Text) : Text := s.dropWhile isJsSpace

/-- `/^\s+/` -/
def skipSpaces1 : Text → Option Text
  | c :: s => if isJsSpace c then some (skipSpaces s) else none
  | [] => none

/-- `/^keyword/i` for a keyword of ASCII letters -/
def skipKeyword : Text → Text → Option Text
  | [], s => some s
  | k :: keyword, c :: s => if lowerAscii c = k then skipKeyword keyword s else none
  | _ :: _, [] => none

def keyword (word : String) (s : Text) : Option Text := skipKeyword word.toList s

/-! ## spans, parentheses and comments -/

structure QuoteSpan where
  span : Text
  rest : Text
  terminated : Bool

def QuoteSpan.cons (c : Char) (q : QuoteSpan) : QuoteSpan := { q with span := c :: q.span }

/-- the loop of `skipQuoteSpan` -/
def walkSpan (close : Char) (escapable : Bool) : Text → QuoteSpan
  | [] => { span := [], rest := [], terminated := false }
  | [c] => { span := [c], rest := [], terminated := c == close }
  | c :: d :: s =>
    if c = close then
      if escapable && d == close then ((walkSpan close escapable s).cons d).cons c
      else { span := [c], rest := d :: s, terminated := true }
    else (walkSpan close escapable (d :: s)).cons c

def skipQuoteSpan : Text → QuoteSpan
  | c :: s =>
    if c = '\'' ∨ c = '"' ∨ c = '\x60' then (walkSpan c true s).cons c
    else if c = '[' then (walkSpan ']' false s).cons c
    else { span := [], rest := c :: s, terminated := false }
  | [] => { span := [], rest := [], terminated := false }

theorem walkSpan_length (close : Char) (escapable : Bool) (s : Text) :
    (walkSpan close escapable s).rest.length ≤ s.length := by
  fun_induction walkSpan close escapable s with
  | case1 => exact Nat.le_refl _
  | case2 c => exact Nat.zero_le _
  | case3 d s ih =>
    simp only [QuoteSpan.cons, List.length_cons] at ih ⊢
    omega
  | case4 => simp
  | case5 c d s hc ih =>
    simp only [QuoteSpan.cons, List.length_cons] at ih ⊢
    omega

theorem skipQuoteSpan_length {c : Char} {s : Text} (h : isQuoteOpen c) :
    (skipQuoteSpan (c :: s)).rest.length < (c :: s).length := by
  have h₁ := walkSpan_length c true s
  have h₂ := walkSpan_length ']' false s
  simp only [isQuoteOpen, Bool.or_eq_true, beq_iff_eq] at h
  simp only [skipQuoteSpan]
  split_ifs with hc hb
  · exact Nat.lt_succ_of_le h₁
  · exact Nat.lt_succ_of_le h₂
  · tauto

/-- `depth` is the number of open parentheses -/
def skipBalancedParens (depth : Int) : Text → Text
  | [] => []
  | c :: s =>
    if _h : isQuoteOpen c then skipBalancedParens depth (skipQuoteSpan (c :: s)).rest
    else if c = '(' then skipBalancedParens (depth + 1) s
    else if c = ')' then if depth - 1 = 0 then s else skipBalancedParens (depth - 1) s
    else skipBalancedParens depth s
termination_by s => s.length
decreasing_by
  · exact skipQuoteSpan_length ‹_›
  all_goals simp

/-- the text behind the first end of a block comment -/
def afterBlockEnd : Text → Text
  | '*' :: '/' :: s => s
  | _ :: s => afterBlockEnd s
  | [] => []

theorem afterBlockEnd_length (s : Text) : (afterBlockEnd s).length ≤ s.length := by
  fun_induction afterBlockEnd s with
  | case1 s =>
    simp only [List.length_cons]
    omega
  | case2 c s _ ih =>
    simp only [List.length_cons]
    omega
  | case3 => exact Nat.le_refl _

/-- the text from the first newline on -/
def fromNewline (s : Text) : Text := s.dropWhile (· ≠ '\n')

theorem fromNewline_length (s : Text) : (fromNewline s).length ≤ s.length :=
  (List.dropWhile_suffix _).length_le

/-- each comment becomes a space -/
def stripCommentsPreservingStrings : Text → Text
  | [] => []
  | c :: s =>
    if _h : isQuoteOpen c then
      (skipQuoteSpan (c :: s)).span ++ stripCommentsPreservingStrings (skipQuoteSpan (c :: s)).rest
    else
      match c, s with
      | '-', '-' :: rest => ' ' :: stripCommentsPreservingStrings (fromNewline rest)
      | '/', '*' :: rest => ' ' :: stripCommentsPreservingStrings (afterBlockEnd rest)
      | c, s => c :: stripCommentsPreservingStrings s
termination_by s => s.length
decreasing_by
  · exact skipQuoteSpan_length ‹_›
  · have := fromNewline_length rest
    simp only [List.length_cons]
    omega
  · have := afterBlockEnd_length rest
    simp only [List.length_cons]
    omega
  · simp

/-- here the end of a block comment may share its star with the start -/
def stripLeadingComments (s : Text) : Text :=
  match _h : skipSpaces s with
  | '-' :: '-' :: rest => stripLeadingComments ((fromNewline rest).drop 1)
  | '/' :: '*' :: rest => stripLeadingComments (afterBlockEnd ('*' :: rest))
  | t => t
termination_by s.length
decreasing_by
  all_goals
    have hle : (skipSpaces s).length ≤ s.length := (List.dropWhile_suffix _).length_le
    have := fromNewline_length rest
    have := afterBlockEnd_length ('*' :: rest)
    simp only [_h, List.length_cons, List.length_drop] at *
    omega

/-! ## names -/

/-- the token as it is written, and the text behind it -/
def readIdentifierToken (s : Text) : Option (Text × Text) :=
  match skipSpaces s with
  | [] => none
  | c :: t =>
    if c = '"' ∨ c = '\x60' ∨ c = '[' then
      let q := skipQuoteSpan (c :: t)
      if q.terminated then some (q.span, q.rest) else none
    else if isIdStart c then some (c :: t.takeWhile isIdChar, t.dropWhile isIdChar)
    else none

/-- `"` twice becomes `"` -/
def undouble (c : Char) : Text → Text
  | a :: b :: s => if a = c ∧ b = c then c :: undouble c s else a :: undouble c (b :: s)
  | s => s

def unquoteIdentifier (tok : Text) : Text :=
  if 2 ≤ tok.length then
    let inner := (tok.drop 1).dropLast
    if tok.head? = some '"' ∧ tok.getLast? = some '"' then undouble '"' inner
    else if tok.head? = some '\x60' ∧ tok.getLast? = some '\x60' then undouble '\x60' inner
    else if tok.head? = some '[' ∧ tok.getLast? = some ']' then inner
    else tok
  else tok

def trim (s : Text) : Text := ((skipSpaces s).reverse.dropWhile isJsSpace).reverse

section
/- what `toLowerCase` makes of a text that is not ASCII -/
variable (unicodeLower : Text → Text)

def toLowerCase (s : Text) : Text :=
  if s.all fun c => c.toNat < 128 then lowerText s else unicodeLower s

def normalizeTableName (name : Text) : Text := toLowerCase unicodeLower (unquoteIdentifier (trim name))

end

def internalTableNames : List String :=
  ["applied_requests", "sqlite_sequence", "pending_intents", "row_locks", "__cf_indexes",
    "index_pending_jobs", "__cf_row_owners", "__cf_mirror_pending", "__cf_fenced_vbuckets",
    "__cf_fenced_index_rings"]

def isInternalTableName (name : Text) : Bool :=
  internalTableNames.any (fun table => table.toList == name) || "__cf_".toList.isPrefixOf name
    || "sqlite_".toList.isPrefixOf name

/-! ## the leading `WITH` clause -/

/-- `/^\s*as\s*/i` -/
def skipAs (s : Text) : Option Text := (keyword "as" (skipSpaces s)).map skipSpaces

/-- `/^\s*(not\s+)?materialized\s*/i`, or nothing -/
def skipMaterialized (s : Text) : Text :=
  let t := skipSpaces s
  match ((keyword "not" t).bind skipSpaces1).bind (keyword "materialized") with
  | some rest => skipSpaces rest
  | none =>
    match keyword "materialized" t with
    | some rest => skipSpaces rest
    | none => s

/-- a column list, or nothing -/
def skipColumns (s : Text) : Text :=
  match skipSpaces s with
  | '(' :: t => skipBalancedParens 0 ('(' :: t)
  | _ => s

/-- one table of the clause, up to the end of its body -/
def skipCommonTable (s : Text) : Option Text := do
  let (_, s) ← readIdentifierToken s
  let s ← skipAs (skipColumns s)
  match skipSpaces (skipMaterialized s) with
  | '(' :: t => some (skipBalancedParens 0 ('(' :: t))
  | _ => none

/-- `/^\s*,\s*/` -/
def skipComma (s : Text) : Option Text :=
  match skipSpaces s with
  | ',' :: t => some (skipSpaces t)
  | _ => none

/-- `/^\s*with\b/i` -/
def startsWith (s : Text) : Bool :=
  (keyword "with" (skipSpaces s)).any fun rest => rest.head?.all fun c => !isWordChar c

/-- `/^\s*with\s+(recursive\s+)?/i`, or nothing -/
def skipWith (s : Text) : Text :=
  match (keyword "with" (skipSpaces s)).bind skipSpaces1 with
  | some rest => ((keyword "recursive" rest).bind skipSpaces1).getD rest
  | none => s

theorem skipSpaces_length (s : Text) : (skipSpaces s).length ≤ s.length :=
  (List.dropWhile_suffix _).length_le

theorem skipKeyword_length : ∀ {k s rest : Text}, skipKeyword k s = some rest →
    rest.length + k.length = s.length
  | [], s, rest, h => by
    cases h
    rfl
  | k :: ks, [], _, h => by cases h
  | k :: ks, c :: s, rest, h => by
    simp only [skipKeyword] at h
    split at h
    · have := skipKeyword_length h
      simp only [List.length_cons]
      omega
    · cases h

theorem readIdentifierToken_length {s raw rest : Text} (h : readIdentifierToken s = some (raw, rest)) :
    rest.length ≤ s.length := by
  have hs := skipSpaces_length s
  unfold readIdentifierToken at h
  split at h
  · cases h
  · rename_i c t heq
    rw [heq] at hs
    split_ifs at h with hc
    · have hlt := skipQuoteSpan_length (c := c) (s := t) (by
        simp only [isQuoteOpen, Bool.or_eq_true, beq_iff_eq]
        tauto)
      dsimp only at h
      split_ifs at h
      cases h
      omega
    · cases h
      have := (List.dropWhile_suffix isIdChar (l := t)).length_le
      simp only [List.length_cons] at hs
      omega

theorem skipBalancedParens_length (depth : Int) (s : Text) :
    (skipBalancedParens depth s).length ≤ s.length := by
  fun_induction skipBalancedParens depth s with
  | case1 => exact Nat.le_refl _
  | case2 depth c s h ih => exact Nat.le_trans ih (Nat.le_of_lt (skipQuoteSpan_length h))
  | case3 depth s _ ih => exact Nat.le_succ_of_le ih
  | case4 => exact Nat.le_succ _
  | case5 depth s _ _ _ ih => exact Nat.le_succ_of_le ih
  | case6 depth c s _ _ _ ih => exact Nat.le_succ_of_le ih

theorem skipColumns_length (s : Text) : (skipColumns s).length ≤ s.length := by
  have hs := skipSpaces_length s
  unfold skipColumns
  split
  · rename_i t heq
    rw [← heq]
    exact Nat.le_trans (skipBalancedParens_length 0 _) hs
  · exact Nat.le_refl _

theorem skipAs_length {s rest : Text} (h : skipAs s = some rest) : rest.length < s.length := by
  obtain ⟨t, ht, rfl⟩ := Option.map_eq_some_iff.mp h
  have hk := skipKeyword_length ht
  have h₁ := skipSpaces_length s
  have h₂ := skipSpaces_length t
  have hlen : "as".toList.length = 2 := rfl
  omega

theorem skipSpaces1_length {s rest : Text} (h : skipSpaces1 s = some rest) :
    rest.length ≤ s.length := by
  cases s with
  | nil => cases h
  | cons c s =>
    simp only [skipSpaces1] at h
    split at h
    · cases h
      exact Nat.le_succ_of_le (skipSpaces_length s)
    · cases h

theorem skipMaterialized_length (s : Text) : (skipMaterialized s).length ≤ s.length := by
  have hs := skipSpaces_length s
  unfold skipMaterialized
  dsimp only
  split
  · rename_i rest h
    obtain ⟨u, hu, hk⟩ := Option.bind_eq_some_iff.mp h
    obtain ⟨v, hv, hu⟩ := Option.bind_eq_some_iff.mp hu
    have h₁ := skipKeyword_length hk
    have h₂ := skipKeyword_length hv
    have h₃ := skipSpaces1_length hu
    have h₄ := skipSpaces_length rest
    omega
  · split
    · rename_i rest h
      have h₁ := skipKeyword_length h
      have h₂ := skipSpaces_length rest
      omega
    · exact Nat.le_refl _

theorem skipCommonTable_length {s rest : Text} (h : skipCommonTable s = some rest) :
    rest.length < s.length := by
  obtain ⟨⟨raw, t⟩, ht, h⟩ := Option.bind_eq_some_iff.mp h
  obtain ⟨u, hu, h⟩ := Option.bind_eq_some_iff.mp h
  have h₁ := readIdentifierToken_length ht
  have h₂ := skipColumns_length t
  have h₃ := skipAs_length hu
  have h₄ := skipMaterialized_length u
  have h₅ := skipSpaces_length (skipMaterialized u)
  split at h
  · rename_i v heq
    cases h
    have h₆ := skipBalancedParens_length 0 ('(' :: v)
    rw [heq] at h₅
    omega
  · cases h

theorem skipComma_length {s rest : Text} (h : skipComma s = some rest) : rest.length ≤ s.length := by
  have hs := skipSpaces_length s
  unfold skipComma at h
  split at h
  · rename_i t heq
    cases h
    have := skipSpaces_length t
    rw [heq, List.length_cons] at hs
    omega
  · cases h

/-- the loop of `skipLeadingCte` -/
def skipCommonTables (s : Text) : Option Text :=
  match _h : skipCommonTable s with
  | none => none
  | some t =>
    match _h' : skipComma t with
    | some u => skipCommonTables u
    | none => some t
termination_by s.length
decreasing_by exact Nat.lt_of_le_of_lt (skipComma_length _h') (skipCommonTable_length _h)

/-- where the text is not as expected, it is returned as it is -/
def skipLeadingCte (sql : Text) : Text :=
  if startsWith sql then (skipCommonTables (skipWith sql)).getD sql else sql

/-! ## what a statement is and writes -/

def afterCte (sql : Text) : Text :=
  stripLeadingComments (skipLeadingCte (stripCommentsPreservingStrings sql))

def mutationKeywords : List String :=
  ["insert", "update", "delete", "replace", "create", "drop", "alter"]

def isMutation (sql : Text) : Bool :=
  mutationKeywords.any fun word => (keyword word (afterCte sql)).isSome

def isDeleteStatement (sql : Text) : Bool := (keyword "delete" (afterCte sql)).isSome

/-- `\s+or\s+\w+` -/
def skipOr (s : Text) : Option Text := do
  let s ← (skipSpaces1 s).bind (keyword "or")
  let s ← skipSpaces1 s
  if (s.takeWhile isWordChar).isEmpty then none else some (s.dropWhile isWordChar)

/-- `\s+word` -/
def skipNext (word : String) (s : Text) : Option Text := (skipSpaces1 s).bind (keyword word)

/-- ``(?=\s|["`[])`` -/
def beforeTarget (s : Text) : Bool :=
  s.head?.any fun c => isJsSpace c || c == '"' || c == '\x60' || c == '['

/-- the words before the target: the first way to read them that goes on as a target does -/
def skipVerb (s : Text) : Option Text :=
  let t := skipSpaces s
  [((keyword "insert" t).bind skipOr).bind (skipNext "into"),
    (keyword "insert" t).bind (skipNext "into"),
    (keyword "replace" t).bind (skipNext "into"),
    (keyword "update" t).bind skipOr,
    keyword "update" t,
    (keyword "delete" t).bind (skipNext "from")].findSome? (Option.filter beforeTarget)

section
variable (unicodeLower : Text → Text)

def mutationWriteTarget (sql : Text) : Option Text := do
  let s ← skipVerb (afterCte sql)
  let (first, s) ← readIdentifierToken s
  match skipSpaces s with
  | '.' :: s =>
    let (second, s) ← readIdentifierToken s
    -- a third component
    if (skipSpaces s).head? = some '.' then none else some (normalizeTableName unicodeLower second)
  | _ => some (normalizeTableName unicodeLower first)

def mutationTargetIsInternal (sql : Text) : Bool :=
  isMutation sql && (mutationWriteTarget unicodeLower sql).any isInternalTableName

end

end SqlSafety
