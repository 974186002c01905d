import CloudflareShard.SqlSafety.Clause

/-!
# The guard of the internal tables

* `ensureSchemaTables`                   the tables of a shard's own;
* `Mutation.Writes`                      a statement that writes one of them;
* `skipVerb_print`, `normalize_name`     the words before a target, and its name;
* `mutationTargetIsInternal_iff`         **when the guard sees the write**.
-/

namespace SqlSafety
open Sqlite.Grammar

/-- the tables that `ShardDO.ensureSchema` creates -/
def ensureSchemaTables : List String :=
  ["applied_requests", "pending_intents", "row_locks", "participant_decision_tombstones",
    "__cf_row_owners", "__cf_indexes", "index_pending_jobs", "__cf_mirror_pending",
    "__cf_fenced_vbuckets", "__cf_fenced_index_rings", "__cf_direct_write_loss_journal",
    "__cf_direct_write_loss_coverage", "__cf_restore_state", "__cf_restore_checkpoints",
    "__cf_restore_checkpoint_meta", "__cf_prepare_bookmark_markers"]

/-! ## names -/

/-- a name of letters and underscores -/
def isOrdinary (k : String) : Bool := k.toList.all fun c => isAsciiLetter c || c == '_'

theorem ordinary_char {c : Char} (h : isAsciiLetter (lowerAscii c) ∨ lowerAscii c = '_') :
    isAsciiLetter c ∨ c = '_' := by
  rcases h with h | h
  · exact .inl (isAsciiLetter_of_lower h)
  · unfold lowerAscii at h
    split at h
    · rename_i hc
      left
      simp [isAsciiLetter, hc.1, hc.2]
    · exact .inr h

theorem ordinary_chars {k : String} (hk : isOrdinary k) {s : Text} (h : lowerText s = k.toList) :
    ∀ c ∈ s, isAsciiLetter c ∨ c = '_' := by
  intro c hc
  have hall := List.all_eq_true.mp hk
  rw [← h] at hall
  have := hall (lowerAscii c) (List.mem_map.mpr ⟨c, hc, rfl⟩)
  exact ordinary_char (by simpa using this)

theorem ordinary_space {c : Char} (h : isAsciiLetter c ∨ c = '_') : isJsSpace c = false := by
  rcases h with h | rfl
  · exact isJsSpace_letter h
  · decide

theorem ordinary_ascii {c : Char} (h : isAsciiLetter c ∨ c = '_') : c.toNat < 128 := by
  rcases h with h | rfl
  · have := letter_range h
    omega
  · decide

theorem ordinary_plain {c : Char} (h : isAsciiLetter c ∨ c = '_') :
    c ≠ '"' ∧ c ≠ '\x60' ∧ c ≠ '[' := by
  have hid : isIdChar c := by
    rcases h with h | rfl
    · exact isIdChar_of_letter h
    · decide
  exact ⟨isIdChar_ne hid (by decide), isIdChar_ne hid (by decide), isIdChar_ne hid (by decide)⟩

/-- a name of a table is read as it is written -/
theorem readIdentifierToken_name {n : Name} {k : String} (hk : isOrdinary k)
    (h : lowerText n.value = k.toList) (hstr : n.isString = false) {R : Text} (hends : n.isBare → Ends R)
    (hR : Apart R) : readIdentifierToken (n.text ++ R) = some (n.text, R) := by
  cases n with
  | bare s start chars =>
    have hstart := start
    obtain ⟨c, t, hs, hc⟩ := hstart
    have hspace := ordinary_space (ordinary_chars hk h c (by
      show c ∈ s
      rw [hs]
      exact List.mem_cons_self ..))
    show readIdentifierToken (s ++ R) = some (s, R)
    rw [hs]
    refine readIdentifierToken_bare hc hspace (fun d hd => chars d ?_) (hends rfl)
    rw [hs]
    exact List.mem_cons_of_mem _ hd
  | quoted q s =>
    cases q with
    | single => cases hstr
    | double => exact readIdentifierToken_quoted (by decide) hR s
    | backtick => exact readIdentifierToken_quoted (by decide) hR s
  | bracketed s hs => exact readIdentifierToken_bracketed hs R

theorem readIdentifierToken_isString {n : Name} (hs : n.isString) (R : Text) :
    readIdentifierToken (n.text ++ R) = none := by
  cases n with
  | bare => cases hs
  | quoted q s =>
    cases q with
    | single => exact readIdentifierToken_string s R
    | double => cases hs
    | backtick => cases hs
  | bracketed => cases hs

theorem trim_eq {s : Text} (h : ∀ c ∈ s.head?, isJsSpace c = false)
    (h' : ∀ c ∈ s.getLast?, isJsSpace c = false) : trim s = s := by
  have hkeep : ∀ t : Text, (∀ c ∈ t.head?, isJsSpace c = false) → t.dropWhile isJsSpace = t := by
    intro t ht
    cases t with
    | nil => rfl
    | cons c t => exact skipSpaces_cons (ht c rfl) t
  unfold trim skipSpaces
  rw [hkeep s h, hkeep s.reverse (by rwa [List.head?_reverse]), List.reverse_reverse]

/-- a text between two characters -/
structure Delimited (o c : Char) (inner s : Text) : Prop where
  trimmed : trim s = s
  long : 2 ≤ s.length
  first : s.head? = some o
  last : s.getLast? = some c
  inside : (s.drop 1).dropLast = inner

theorem delimited {o c : Char} (ho : isJsSpace o = false) (hc : isJsSpace c = false) (inner : Text) :
    Delimited o c inner (o :: (inner ++ [c])) := by
  have hlast : (o :: (inner ++ [c])).getLast? = some c := List.getLast?_concat (l := o :: inner)
  refine { trimmed := trim_eq (fun d hd => ?_) fun d hd => ?_
           long := by simp
           first := rfl
           last := hlast
           inside := by simp }
  · cases hd
    exact ho
  · rw [hlast] at hd
    cases hd
    exact hc

theorem undouble_escape (q : Quote) (s : Text) : undouble q.char (q.escape s) = s := by
  induction s with
  | nil => rfl
  | cons c s ih =>
    by_cases hc : c = q.char
    · have hesc : q.escape (c :: s) = q.char :: q.char :: q.escape s := by
        simp [Quote.escape, hc]
      rw [hesc, undouble, if_pos ⟨rfl, rfl⟩, ih, hc]
    · have hesc : q.escape (c :: s) = c :: q.escape s := by
        simp [Quote.escape, hc]
      rw [hesc]
      cases he : q.escape s with
      | nil =>
        rw [he] at ih
        rw [← ih]
        rfl
      | cons d t =>
        rw [he] at ih
        rw [undouble, if_neg (fun h => hc h.1), ih]

section
variable (unicodeLower : Text → Text)

theorem toLowerCase_ordinary {s : Text} (h : ∀ c ∈ s, isAsciiLetter c ∨ c = '_') :
    toLowerCase unicodeLower s = lowerText s := by
  unfold toLowerCase
  rw [if_pos]
  exact List.all_eq_true.mpr fun c hc => by simpa using ordinary_ascii (h c hc)

/-- **a name of a table**, in every style that is read -/
theorem normalize_name {n : Name} {k : String} (hk : isOrdinary k) (h : lowerText n.value = k.toList)
    (hs : n.isString = false) : normalizeTableName unicodeLower n.text = k.toList := by
  have hchars := ordinary_chars hk h
  unfold normalizeTableName
  cases n with
  | bare s start chars =>
    have hstart := start
    obtain ⟨c, t, hct, -⟩ := hstart
    have hchars : ∀ c ∈ s, isAsciiLetter c ∨ c = '_' := hchars
    have htrim : trim s = s := trim_eq (fun d hd => ordinary_space (hchars d (List.mem_of_head? hd)))
      fun d hd => ordinary_space (hchars d (List.mem_of_getLast? hd))
    have hplain := ordinary_plain (hchars c (by rw [hct]; exact List.mem_cons_self ..))
    have hunquote : unquoteIdentifier s = s := by
      unfold unquoteIdentifier
      rw [hct]
      simp [hplain]
    show toLowerCase unicodeLower (unquoteIdentifier (trim s)) = _
    rw [htrim, hunquote, toLowerCase_ordinary unicodeLower hchars]
    exact h
  | quoted q s =>
    have hquote : isJsSpace q.char = false := by cases q <;> decide
    have hchars : ∀ c ∈ s, isAsciiLetter c ∨ c = '_' := hchars
    have hd : Delimited q.char q.char (q.escape s) (q.span s) := delimited hquote hquote _
    have hunquote : unquoteIdentifier (q.span s) = s := by
      unfold unquoteIdentifier
      rw [if_pos hd.long, hd.inside, hd.first, hd.last]
      cases q with
      | single => cases hs
      | double => exact undouble_escape .double s
      | backtick => exact undouble_escape .backtick s
    show toLowerCase unicodeLower (unquoteIdentifier (trim (q.span s))) = _
    rw [hd.trimmed, hunquote, toLowerCase_ordinary unicodeLower hchars]
    exact h
  | bracketed s hb =>
    have hchars : ∀ c ∈ s, isAsciiLetter c ∨ c = '_' := hchars
    have hd : Delimited '[' ']' s (bracketSpan s) := delimited (by decide) (by decide) _
    have hunquote : unquoteIdentifier (bracketSpan s) = s := by
      unfold unquoteIdentifier
      rw [if_pos hd.long, hd.inside, hd.first, hd.last]
      rfl
    show toLowerCase unicodeLower (unquoteIdentifier (trim (bracketSpan s))) = _
    rw [hd.trimmed, hunquote, toLowerCase_ordinary unicodeLower hchars]
    exact h

end

/-! ## the words before the target -/

theorem isWordChar_id {c : Char} (h : isWordChar c) : isIdChar c := by
  simp only [isWordChar, Bool.or_eq_true] at h
  simp only [isIdChar, Bool.or_eq_true]
  tauto

/-- a seam ends a word -/
theorem word_seam {s : Seam} (hs : s ≠ []) (R : Text) :
    ∀ d ∈ (cleanSeam s ++ R).head?, isWordChar d = false := by
  intro d hd
  obtain ⟨b, t, hb, hblank⟩ := clean_cons hs
  rw [hb] at hd
  cases hd
  cases hword : isWordChar d with
  | false => rfl
  | true =>
    have hid := isWordChar_id hword
    rw [isIdChar_blank hblank] at hid
    cases hid

theorem skipNext_word {k : String} {s : Seam} (hs : s ≠ []) (w : Word k)
    (hl : k.toList.all isAsciiLetter) (hk : initial k ≠ none) (R : Text) :
    skipNext k (cleanSeam s ++ (w.text ++ R)) = some R := by
  rw [skipNext, skipSpaces1_seam hs, skipSpaces_word w hl hk, Option.bind_some, keyword_word]

theorem skipNext_other {k k' : String} {s : Seam} (hs : s ≠ []) (w : Word k')
    (hl : k'.toList.all isAsciiLetter) (hk : initial k ≠ none) (hk' : initial k' ≠ none)
    (h : initial k ≠ initial k') (R : Text) : skipNext k (cleanSeam s ++ (w.text ++ R)) = none := by
  rw [skipNext, skipSpaces1_seam hs, skipSpaces_word w hl hk', Option.bind_some,
    keyword_other w hk hk' h]

theorem conflict_print (c : Conflict) (R : Text) : c.print cleanSeam ++ R =
    cleanSeam c.before.seam ++ (c.orWord.text ++ (cleanSeam c.afterOr.seam ++ (c.resolution ++ R))) := by
  simp only [Conflict.print, List.append_assoc]

theorem resolution_cons (c : Conflict) : ∃ d s, c.resolution = d :: s := by
  obtain ⟨clause, hclause, h⟩ := c.known
  have hall : ∀ clause ∈ conflictClauses, clause.toList ≠ [] := by decide
  cases hr : c.resolution with
  | nil =>
    rw [hr] at h
    exact absurd h.symm (hall clause hclause)
  | cons d s => exact ⟨d, s, rfl⟩

theorem skipOr_conflict (c : Conflict) {R : Text} (hR : ∀ d ∈ R.head?, isWordChar d = false) :
    skipOr (c.print cleanSeam ++ R) = some R := by
  have hletters := conflict_letters c
  have hwords : ∀ d ∈ c.resolution, isWordChar d := fun d hd => by
    simp [isWordChar, hletters d hd]
  obtain ⟨d, s, hres⟩ := resolution_cons c
  have hspaces : skipSpaces (c.resolution ++ R) = c.resolution ++ R := by
    rw [hres]
    exact skipSpaces_cons (isJsSpace_letter (hletters d (by rw [hres]; exact List.mem_cons_self ..))) _
  have hsplit : ∀ t : Text, (∀ d ∈ t, isWordChar d) →
      (t ++ R).takeWhile isWordChar = t ∧ (t ++ R).dropWhile isWordChar = R := by
    intro t
    induction t with
    | nil =>
      intro _
      cases R with
      | nil => exact ⟨rfl, rfl⟩
      | cons e R => simp [hR e rfl]
    | cons e t ih =>
      intro ht
      obtain ⟨h₁, h₂⟩ := ih fun d hd => ht d (List.mem_cons_of_mem _ hd)
      simp [ht e (List.mem_cons_self ..), h₁, h₂]
  obtain ⟨htake, hdrop⟩ := hsplit _ hwords
  rw [conflict_print]
  unfold skipOr
  rw [skipSpaces1_seam c.before.nonempty, skipSpaces_word _ (by decide) (by decide), Option.bind_some,
    keyword_word]
  simp only [Option.bind_eq_bind, Option.bind_some]
  rw [skipSpaces1_seam c.afterOr.nonempty, hspaces]
  simp only [Option.bind_some]
  rw [htake, hdrop, hres]
  rfl

/-- what may stand before a target is not part of a word -/
theorem beforeTarget_word {Z : Text} (h : beforeTarget Z) : ∀ d ∈ Z.head?, isWordChar d = false := by
  intro d hd
  unfold beforeTarget at h
  rw [Option.mem_def.mp hd] at h
  simp only [Option.any_some, Bool.or_eq_true, beq_iff_eq] at h
  obtain ((h | rfl) | rfl) | rfl := h
  · simp only [isJsSpace, Bool.or_eq_true, Bool.and_eq_true, decide_eq_true_eq, beq_iff_eq] at h
    cases hw : isWordChar d with
    | false => rfl
    | true =>
      have hrange : (48 ≤ d.toNat ∧ d.toNat ≤ 57) ∨ d.toNat = 95 ∨
          (97 ≤ d.toNat ∧ d.toNat ≤ 122) ∨ (65 ≤ d.toNat ∧ d.toNat ≤ 90) := by
        simp only [isWordChar, Bool.or_eq_true, beq_iff_eq] at hw
        obtain (hw | hw) | rfl := hw
        · exact .inr (.inr (letter_range hw))
        · left
          simpa [isAsciiDigit, Char.le_def, UInt32.le_iff_toNat_le] using hw
        · exact .inr (.inl rfl)
      omega
  · decide
  · decide
  · decide

theorem skipOr_none {Z : Text} (h : keyword "or" (skipSpaces Z) = none) : skipOr Z = none := by
  unfold skipOr
  cases Z with
  | nil => rfl
  | cons c s =>
    by_cases hc : isJsSpace c
    · have hs : skipSpaces (c :: s) = skipSpaces s := by
        rw [skipSpaces, List.dropWhile_cons, if_pos hc]
        rfl
      rw [hs] at h
      rw [skipSpaces1, if_pos hc, Option.bind_some, h]
      rfl
    · rw [skipSpaces1, if_neg hc]
      rfl

theorem filter_pos {Z : Text} (h : beforeTarget Z) : (some Z).filter beforeTarget = some Z := by
  simp [h]

/-- **the words before a target** are skipped where the text goes on as a target does -/
theorem skipVerb_print (v : Verb) {Z : Text} (hZ : beforeTarget Z)
    (hor : keyword "or" (skipSpaces Z) = none) : skipVerb (v.print cleanSeam ++ Z) = some Z := by
  have hword := beforeTarget_word hZ
  unfold skipVerb
  cases v with
  | insert word conflict gap into =>
    simp only [Verb.print, List.append_assoc]
    rw [skipSpaces_word _ (by decide) (by decide), keyword_word]
    simp only [Option.bind_some]
    cases conflict with
    | some c =>
      simp only [Option.elim_some]
      rw [skipOr_conflict c (word_seam gap.nonempty _), Option.bind_some, skipNext_word gap.nonempty _ (by decide) (by decide)]
      simp only [List.findSome?_cons, filter_pos hZ]
    | none =>
      simp only [Option.elim_none, List.nil_append]
      have hno : skipOr (cleanSeam gap.seam ++ (into.text ++ Z)) = none := by
        refine skipOr_none ?_
        rw [skipSpaces_seam, skipSpaces_word _ (by decide) (by decide)]
        exact keyword_other into (by decide) (by decide) (by decide) _
      rw [hno, Option.bind_none, skipNext_word gap.nonempty _ (by decide) (by decide)]
      simp only [List.findSome?_cons, Option.filter_none, filter_pos hZ]
  | replace word gap into =>
    simp only [Verb.print, List.append_assoc]
    rw [skipSpaces_word _ (by decide) (by decide), keyword_word,
      keyword_other (k := "insert") _ (by decide) (by decide) (by decide)]
    simp only [Option.bind_some, Option.bind_none]
    rw [skipNext_word gap.nonempty _ (by decide) (by decide)]
    simp only [List.findSome?_cons, Option.filter_none, filter_pos hZ]
  | update word conflict =>
    simp only [Verb.print, List.append_assoc]
    rw [skipSpaces_word _ (by decide) (by decide), keyword_word,
      keyword_other (k := "insert") _ (by decide) (by decide) (by decide),
      keyword_other (k := "replace") _ (by decide) (by decide) (by decide)]
    simp only [Option.bind_some, Option.bind_none]
    cases conflict with
    | some c =>
      simp only [Option.elim_some]
      rw [skipOr_conflict c hword]
      simp only [List.findSome?_cons, Option.filter_none, filter_pos hZ]
    | none =>
      simp only [Option.elim_none, List.nil_append]
      rw [skipOr_none hor]
      simp only [List.findSome?_cons, Option.filter_none, filter_pos hZ]
  | delete word gap fromWord =>
    simp only [Verb.print, List.append_assoc]
    rw [skipSpaces_word _ (by decide) (by decide), keyword_word,
      keyword_other (k := "insert") _ (by decide) (by decide) (by decide),
      keyword_other (k := "replace") _ (by decide) (by decide) (by decide),
      keyword_other (k := "update") _ (by decide) (by decide) (by decide)]
    simp only [Option.bind_some, Option.bind_none]
    rw [skipNext_word gap.nonempty _ (by decide) (by decide)]
    simp only [List.findSome?_cons, Option.filter_none, filter_pos hZ]

theorem filter_neg {Z : Text} (h : beforeTarget Z = false) : (some Z).filter beforeTarget = none := by
  simp [h]

/-- before a string at once, at most `update` is taken for the words -/
theorem skipVerb_string (v : Verb) {Z : Text} (hZ : ∃ t, Z = '\'' :: t) :
    skipVerb (v.print cleanSeam ++ Z) = none ∨
      ∃ c : Conflict, skipVerb (v.print cleanSeam ++ Z) = some (c.print cleanSeam ++ Z) := by
  obtain ⟨t, rfl⟩ := hZ
  have hno : beforeTarget ('\'' :: t) = false := rfl
  have hor : skipOr ('\'' :: t) = none := rfl
  have hword : ∀ d ∈ ('\'' :: t).head?, isWordChar d = false := by
    intro d hd
    cases hd
    decide
  unfold skipVerb
  cases v with
  | insert word conflict gap into =>
    left
    simp only [Verb.print, List.append_assoc]
    rw [skipSpaces_word _ (by decide) (by decide), keyword_word,
      keyword_other (k := "replace") _ (by decide) (by decide) (by decide),
      keyword_other (k := "update") _ (by decide) (by decide) (by decide),
      keyword_other (k := "delete") _ (by decide) (by decide) (by decide)]
    simp only [Option.bind_some, Option.bind_none]
    cases conflict with
    | some c =>
      simp only [Option.elim_some]
      have hsecond : skipNext "into" (c.print cleanSeam ++ (cleanSeam gap.seam ++
          (into.text ++ '\'' :: t))) = none := by
        rw [conflict_print]
        exact skipNext_other c.before.nonempty _ (by decide) (by decide) (by decide) (by decide) _
      have hfirst : ((skipOr (c.print cleanSeam ++ (cleanSeam gap.seam ++
          (into.text ++ '\'' :: t)))).bind (skipNext "into")) = some ('\'' :: t) := by
        rw [skipOr_conflict c (word_seam gap.nonempty _), Option.bind_some, skipNext_word gap.nonempty _ (by decide) (by decide)]
      rw [hfirst, hsecond]
      simp only [List.findSome?_cons, List.findSome?_nil, Option.filter_none, filter_neg hno]
    | none =>
      simp only [Option.elim_none, List.nil_append]
      have hfirst : skipOr (cleanSeam gap.seam ++ (into.text ++ '\'' :: t)) = none := by
        refine skipOr_none ?_
        rw [skipSpaces_seam, skipSpaces_word _ (by decide) (by decide)]
        exact keyword_other into (by decide) (by decide) (by decide) _
      rw [hfirst, Option.bind_none, skipNext_word gap.nonempty _ (by decide) (by decide)]
      simp only [List.findSome?_cons, List.findSome?_nil, Option.filter_none, filter_neg hno]
  | replace word gap into =>
    left
    simp only [Verb.print, List.append_assoc]
    rw [skipSpaces_word _ (by decide) (by decide), keyword_word,
      keyword_other (k := "insert") _ (by decide) (by decide) (by decide),
      keyword_other (k := "update") _ (by decide) (by decide) (by decide),
      keyword_other (k := "delete") _ (by decide) (by decide) (by decide)]
    simp only [Option.bind_some, Option.bind_none]
    rw [skipNext_word gap.nonempty _ (by decide) (by decide)]
    simp only [List.findSome?_cons, List.findSome?_nil, Option.filter_none, filter_neg hno]
  | update word conflict =>
    simp only [Verb.print, List.append_assoc]
    rw [skipSpaces_word _ (by decide) (by decide), keyword_word,
      keyword_other (k := "insert") _ (by decide) (by decide) (by decide),
      keyword_other (k := "replace") _ (by decide) (by decide) (by decide),
      keyword_other (k := "delete") _ (by decide) (by decide) (by decide)]
    simp only [Option.bind_some, Option.bind_none]
    cases conflict with
    | some c =>
      right
      refine ⟨c, ?_⟩
      have hbefore : beforeTarget (c.print cleanSeam ++ '\'' :: t) := by
        obtain ⟨b, u, hb, hblank⟩ := clean_cons c.before.nonempty
        rw [conflict_print, hb]
        simp [beforeTarget, isJsSpace_blank hblank]
      simp only [Option.elim_some]
      rw [skipOr_conflict c hword]
      simp only [List.findSome?_cons, Option.filter_none, filter_neg hno, filter_pos hbefore]
    | none =>
      left
      simp only [Option.elim_none, List.nil_append]
      rw [hor]
      simp only [List.findSome?_cons, List.findSome?_nil, Option.filter_none, filter_neg hno]
  | delete word gap fromWord =>
    left
    simp only [Verb.print, List.append_assoc]
    rw [skipSpaces_word _ (by decide) (by decide), keyword_word,
      keyword_other (k := "insert") _ (by decide) (by decide) (by decide),
      keyword_other (k := "replace") _ (by decide) (by decide) (by decide),
      keyword_other (k := "update") _ (by decide) (by decide) (by decide)]
    simp only [Option.bind_some, Option.bind_none]
    rw [skipNext_word gap.nonempty _ (by decide) (by decide)]
    simp only [List.findSome?_cons, List.findSome?_nil, Option.filter_none, filter_neg hno]

/-! ## the target -/

section
variable {m : Mutation} {tail : Text}

/-- the target as it is written, and all behind it -/
def fromTable (m : Mutation) (tail : Text) : Text :=
  m.table.text ++ (cleanSeam m.afterTable ++ tail)

def fromTarget (m : Mutation) (tail : Text) : Text :=
  (m.schema.elim [] fun s => s.1.text ++ (cleanSeam s.2.1 ++ '.' :: cleanSeam s.2.2))
    ++ fromTable m tail

def fromVerb (m : Mutation) (tail : Text) : Text :=
  m.verb.print cleanSeam ++ (cleanSeam m.afterVerb ++ fromTarget m tail)

theorem print_mutation (m : Mutation) (tail : Text) : m.print cleanSeam cleanParens tail =
    cleanSeam m.before ++ (m.withClause.elim [] (With.print cleanSeam cleanParens)
      ++ fromVerb m tail) := by
  simp only [Mutation.print, fromVerb, fromTarget, fromTable, List.append_assoc]

/-- what is left of the text behind the target -/
def TailOf (m : Mutation) (tail : Text) : Prop := tail.head? = m.tail.head?

theorem tail_solid (ht : TailOf m tail) : skipSpaces tail = tail ∧ tail.head? ≠ some '.' ∧ Apart tail := by
  have htail := m.tailStart
  unfold TailOf at ht
  unfold isTail at htail
  rw [← ht] at htail
  cases tail with
  | nil => exact ⟨rfl, by simp, fun c hc => by cases hc⟩
  | cons c t =>
    simp only [List.head?_cons, Option.all_some, Bool.or_eq_true, beq_iff_eq] at htail
    have hc : isJsSpace c = false ∧ c ≠ '.' ∧ isQuoteOpen c = false := by
      obtain (h | rfl) | rfl := htail
      · exact ⟨isJsSpace_letter h, isIdChar_ne (isIdChar_of_letter h) (by decide), isQuoteOpen_letter h⟩
      · decide
      · decide
    exact ⟨skipSpaces_cons hc.1 t, by simpa using hc.2.1, apart_cons hc.2.2 t⟩

theorem apart_table (ht : TailOf m tail) : Apart (cleanSeam m.afterTable ++ tail) :=
  apart_clean _ (tail_solid ht).2.2

theorem ends_table (ht : TailOf m tail) (hbare : m.table.isBare) :
    Ends (cleanSeam m.afterTable ++ tail) := by
  by_cases hs : m.afterTable = []
  · have hletter := m.tailApart hbare hs
    have hstart := m.tailStart
    unfold TailOf at ht
    unfold isTail at hstart
    rw [← ht] at hletter hstart
    rw [hs]
    intro c hc
    have hc : tail.head? = some c := hc
    rw [hc] at hletter hstart
    simp only [Option.all_some, Bool.not_eq_true', Bool.or_eq_true, beq_iff_eq] at hletter hstart
    obtain (h | rfl) | rfl := hstart
    · rw [hletter] at h
      cases h
    · decide
    · decide
  · exact ends_seam hs _

/-- behind the table no further component is found -/
theorem afterTable_noDot (ht : TailOf m tail) :
    skipSpaces (cleanSeam m.afterTable ++ tail) = tail := by
  rw [skipSpaces_seam, (tail_solid ht).1]

end

/-- no name of a table, and not `main`, starts like `or` -/
theorem or_name {n : Name} {k : String} (hk : isOrdinary k) (h : lowerText n.value = k.toList)
    (ho : initial k ≠ some 'o') (R : Text) : keyword "or" (skipSpaces (n.text ++ R)) = none := by
  have hopen : ∀ {q : Char}, isQuoteOpen q → isJsSpace q = false ∧ lowerAscii q ≠ 'o' := by
    intro q hq
    simp only [isQuoteOpen, Bool.or_eq_true, beq_iff_eq] at hq
    obtain ((rfl | rfl) | rfl) | rfl := hq <;> decide
  cases hb : n.isBare with
  | false =>
    obtain ⟨q, t, hq, hquote⟩ := name_open hb R
    rw [hq, skipSpaces_cons (hopen hquote).1]
    exact keyword_none (by decide) fun he => (hopen hquote).2 (Option.some.inj he).symm
  | true =>
    cases n with
    | quoted => cases hb
    | bracketed => cases hb
    | bare s start chars =>
      have hstart := start
      obtain ⟨c, t, hs, -⟩ := hstart
      have hc := ordinary_chars hk h c (by
        show c ∈ s
        rw [hs]
        exact List.mem_cons_self ..)
      have hinitial : initial k = some (lowerAscii c) := by
        have h : lowerText s = k.toList := h
        rw [initial, ← h, hs]
        rfl
      show keyword "or" (skipSpaces (s ++ R)) = none
      rw [hs, List.cons_append, skipSpaces_cons (ordinary_space hc)]
      refine keyword_none (by decide) fun he => ho ?_
      rw [hinitial, ← he]
      rfl

theorem tables_ordinary : ∀ table ∈ ensureSchemaTables,
    isOrdinary table ∧ initial table ≠ some 'o' := by decide

theorem beforeTarget_seam {s : Seam} (hs : s ≠ []) (R : Text) : beforeTarget (cleanSeam s ++ R) := by
  obtain ⟨b, t, hb, hblank⟩ := clean_cons hs
  rw [hb]
  simp [beforeTarget, isJsSpace_blank hblank]

theorem beforeTarget_name {n : Name} (hb : n.isBare = false) (hs : n.isString = false) (R : Text) :
    beforeTarget (n.text ++ R) := by
  cases n with
  | bare => cases hb
  | quoted q s =>
    cases q with
    | single => cases hs
    | double => rfl
    | backtick => rfl
  | bracketed s hn => rfl

theorem string_cons {n : Name} (hs : n.isString) (R : Text) : ∃ t, n.text ++ R = '\'' :: t := by
  cases n with
  | bare => cases hs
  | quoted q s =>
    cases q with
    | single => exact ⟨_, rfl⟩
    | double => cases hs
    | backtick => cases hs
  | bracketed => cases hs

/-- neither the table nor the schema is written like a string -/
def targetReadable (m : Mutation) : Bool :=
  !m.table.isString && m.schema.all fun s => !s.1.isString

section
variable (unicodeLower : Text → Text) {m : Mutation} {tail : Text} {table : String}

/-- the part of `mutationWriteTarget` behind the words -/
def readTarget (s : Text) : Option Text := do
  let (first, s) ← readIdentifierToken s
  match skipSpaces s with
  | '.' :: s =>
    let (second, s) ← readIdentifierToken s
    if (skipSpaces s).head? = some '.' then none else some (normalizeTableName unicodeLower second)
  | _ => some (normalizeTableName unicodeLower first)

theorem mutationWriteTarget_eq (sql : Text) : mutationWriteTarget unicodeLower sql =
    (skipVerb (afterCte sql)).bind (readTarget unicodeLower) := rfl

theorem readTarget_seam (s : Seam) (R : Text) :
    readTarget unicodeLower (cleanSeam s ++ R) = readTarget unicodeLower R := by
  unfold readTarget
  rw [readIdentifierToken_seam]

theorem readTarget_none {R : Text} (h : readIdentifierToken R = none) :
    readTarget unicodeLower R = none := by
  unfold readTarget
  rw [h]
  rfl

/-- **the target** is read in every style but that of a string -/
theorem readTarget_print (ht : TailOf m tail) (htable : table ∈ ensureSchemaTables)
    (hm : m.Writes table) : readTarget unicodeLower (fromTarget m tail) =
      if targetReadable m then some table.toList else none := by
  have hordinary := (tables_ordinary table htable).1
  have hends := fun hb => ends_table (m := m) ht hb
  have hread : m.table.isString = false → readIdentifierToken (fromTable m tail) =
      some (m.table.text, cleanSeam m.afterTable ++ tail) := fun hs =>
    readIdentifierToken_name hordinary hm.1 hs hends (apart_table ht)
  have hdot := (tail_solid ht).2.1
  unfold targetReadable fromTarget
  cases hsch : m.schema with
  | none =>
    cases hs : m.table.isString with
    | true => exact readTarget_none unicodeLower (readIdentifierToken_isString hs _)
    | false =>
      have hname := normalize_name unicodeLower hordinary hm.1 hs
      unfold readTarget
      simp only [Option.elim_none, List.nil_append]
      rw [hread hs]
      simp only [Option.bind_eq_bind, Option.bind_some]
      rw [afterTable_noDot ht]
      split
      · rename_i u
        exact absurd rfl hdot
      · rw [hname]
        rfl
  | some s =>
    have hmain := hm.2 s hsch
    simp only [Option.elim_some, List.append_assoc, List.cons_append]
    cases hss : s.1.isString with
    | true =>
      rw [readTarget_none unicodeLower (readIdentifierToken_isString hss _)]
      simp [hss]
    | false =>
      have hdotted : ∀ R : Text, (s.1.isBare → Ends (cleanSeam s.2.1 ++ '.' :: R)) := by
        intro R _
        by_cases hs : s.2.1 = []
        · rw [hs]
          exact ends_cons (by decide) _
        · exact ends_seam hs _
      unfold readTarget
      rw [readIdentifierToken_name (k := "main") (by decide) hmain hss (hdotted _)
        (apart_clean _ (apart_cons (by decide) _))]
      simp only [Option.bind_eq_bind, Option.bind_some]
      rw [skipSpaces_seam, skipSpaces_cons (by decide)]
      show ((readIdentifierToken (cleanSeam s.2.2 ++ fromTable m tail)).bind _) = _
      rw [readIdentifierToken_seam]
      cases hs : m.table.isString with
      | true =>
        have hnone : readIdentifierToken (fromTable m tail) = none := readIdentifierToken_isString hs _
        rw [hnone]
        rfl
      | false =>
        have hname := normalize_name unicodeLower hordinary hm.1 hs
        rw [hread hs]
        simp only [Option.bind_some]
        rw [afterTable_noDot ht, if_neg hdot, hname]
        simp [hss]

/-- a conflict clause is no internal table -/
theorem readTarget_conflict (c : Conflict) (Z : Text) :
    (readTarget unicodeLower (c.print cleanSeam ++ Z)).any isInternalTableName = false := by
  obtain ⟨d, w, hw, -⟩ := word_cons c.orWord (by decide)
  have hletters := word_letters c.orWord (by decide)
  have hd := hletters d (by rw [hw]; exact List.mem_cons_self ..)
  have hread : readIdentifierToken (c.print cleanSeam ++ Z) =
      some (c.orWord.text, cleanSeam c.afterOr.seam ++ (c.resolution ++ Z)) := by
    rw [conflict_print, readIdentifierToken_seam, hw]
    refine readIdentifierToken_bare ?_ (isJsSpace_letter hd) ?_ (ends_seam c.afterOr.nonempty _)
    · simp [isIdStart, hd]
    · intro e he
      exact isIdChar_of_letter (hletters e (by rw [hw]; exact List.mem_cons_of_mem _ he))
  obtain ⟨e, r, hr⟩ := resolution_cons c
  have he := conflict_letters c e (by rw [hr]; exact List.mem_cons_self ..)
  have hne : e ≠ '.' := isIdChar_ne (isIdChar_of_letter he) (by decide)
  have hname : normalizeTableName unicodeLower c.orWord.text = "or".toList := by
    have hstart : ∃ d w, c.orWord.text = d :: w ∧ isIdStart d :=
      ⟨d, w, hw, by simp [isIdStart, hd]⟩
    exact normalize_name unicodeLower (n := .bare c.orWord.text hstart fun e he =>
      isIdChar_of_letter (hletters e he)) (k := "or") (by decide) c.orWord.spelled rfl
  unfold readTarget
  rw [hread]
  simp only [Option.bind_eq_bind, Option.bind_some]
  rw [skipSpaces_seam, hr, List.cons_append, skipSpaces_cons (isJsSpace_letter he)]
  split
  · rename_i u heq
    exact absurd (List.cons.inj heq).1 hne
  · rw [hname]
    decide

/-- **the target of a statement** whose leading clause is skipped -/
theorem mutationWriteTarget_print (ht : TailOf m tail) (htable : table ∈ ensureSchemaTables)
    (hm : m.Writes table) {sql : Text} (hsql : afterCte sql = fromVerb m tail) :
    (mutationWriteTarget unicodeLower sql).any isInternalTableName =
      (targetReadable m && isInternalTableName table.toList) := by
  have hread := readTarget_print unicodeLower ht htable hm
  have hany : (readTarget unicodeLower (fromTarget m tail)).any isInternalTableName =
      (targetReadable m && isInternalTableName table.toList) := by
    rw [hread]
    cases targetReadable m <;> rfl
  obtain ⟨hordinary, ho⟩ := tables_ordinary table htable
  have hor : keyword "or" (skipSpaces (cleanSeam m.afterVerb ++ fromTarget m tail)) = none := by
    rw [skipSpaces_seam]
    unfold fromTarget
    cases hsch : m.schema with
    | none => exact or_name hordinary hm.1 ho _
    | some s =>
      simp only [Option.elim_some, List.append_assoc]
      exact or_name (k := "main") (by decide) (hm.2 s hsch) (by decide) _
  rw [mutationWriteTarget_eq, hsql]
  unfold fromVerb
  by_cases hs : m.afterVerb = []
  · have hfirst : (m.schema.elim m.table (·.1)).isBare = false := by
      by_contra h
      exact m.verbApart (by simpa using h) hs
    have hcons : ∃ R, fromTarget m tail = (m.schema.elim m.table (·.1)).text ++ R := by
      unfold fromTarget fromTable
      cases m.schema with
      | none => exact ⟨_, rfl⟩
      | some s => exact ⟨_, List.append_assoc ..⟩
    obtain ⟨R, hR⟩ := hcons
    have hnil : cleanSeam m.afterVerb ++ fromTarget m tail = fromTarget m tail := by
      rw [hs]
      rfl
    rw [hnil] at hor ⊢
    cases hstr : (m.schema.elim m.table (·.1)).isString with
    | false =>
      have hbefore : beforeTarget (fromTarget m tail) := by
        rw [hR]
        exact beforeTarget_name hfirst hstr R
      rw [skipVerb_print m.verb hbefore hor, Option.bind_some, hany]
    | true =>
      have hunreadable : targetReadable m = false := by
        unfold targetReadable
        cases hsch : m.schema with
        | none =>
          rw [hsch] at hstr
          have hstr : m.table.isString = true := hstr
          simp [hstr]
        | some s =>
          rw [hsch] at hstr
          have hstr : s.1.isString = true := hstr
          simp [hstr]
      rw [hunreadable, Bool.false_and]
      obtain ⟨t, hquote⟩ := string_cons hstr R
      rw [hR, hquote]
      rcases skipVerb_string m.verb ⟨t, rfl⟩ with hv | ⟨c, hv⟩
      · rw [hv]
        rfl
      · rw [hv, Option.bind_some]
        exact readTarget_conflict unicodeLower c _
  · rw [skipVerb_print m.verb (beforeTarget_seam hs _) hor, Option.bind_some,
      readTarget_seam, hany]

end

/-! ## the guard -/

theorem verb_word (v : Verb) : ∃ k, (k = "insert" ∨ k = "replace" ∨ k = "update" ∨ k = "delete") ∧
    ∃ w : Word k, ∃ R, v.print cleanSeam = w.text ++ R := by
  cases v with
  | insert word conflict gap into =>
    refine ⟨_, .inl rfl, word, conflict.elim [] (Conflict.print cleanSeam) ++
      (cleanSeam gap.seam ++ into.text), ?_⟩
    simp only [Verb.print, List.append_assoc]
  | replace word gap into =>
    exact ⟨_, .inr (.inl rfl), word, _, List.append_assoc ..⟩
  | update word conflict => exact ⟨_, .inr (.inr (.inl rfl)), word, _, rfl⟩
  | delete word gap fromWord =>
    exact ⟨_, .inr (.inr (.inr rfl)), word, _, List.append_assoc ..⟩

theorem terminal_fromVerb (m : Mutation) (tail : Text) : Terminal (fromVerb m tail) := by
  obtain ⟨k, hk, w, R, hv⟩ := verb_word m.verb
  have hkey : k.toList.all isAsciiLetter ∧ initial k ≠ none ∧ initial k ≠ some 'a' := by
    obtain rfl | rfl | rfl | rfl := hk <;> decide
  obtain ⟨c, t, hc, hi⟩ := word_cons w hkey.2.1
  refine ⟨c, t ++ (R ++ (cleanSeam m.afterVerb ++ fromTarget m tail)), ?_, ?_, ?_⟩
  · rw [fromVerb, hv, hc]
    simp
  · exact word_letters w hkey.1 c (by rw [hc]; exact List.mem_cons_self ..)
  · intro h
    exact hkey.2.2 (by rw [hi, h])

/-- a text that starts with a letter behind its seam -/
theorem stripLeadingComments_letter (s : Seam) {c : Char} (hc : isAsciiLetter c) (t : Text) :
    stripLeadingComments (cleanSeam s ++ c :: t) = c :: t := by
  have hspaces : skipSpaces (cleanSeam s ++ c :: t) = c :: t := by
    rw [skipSpaces_seam, skipSpaces_cons (isJsSpace_letter hc)]
  have hid := isIdChar_of_letter hc
  have h₁ : c ≠ '-' := isIdChar_ne hid (by decide)
  have h₂ : c ≠ '/' := isIdChar_ne hid (by decide)
  rw [stripLeadingComments]
  split
  · rename_i heq
    rw [hspaces] at heq
    exact absurd (List.cons.inj heq).1 h₁
  · rename_i heq
    rw [hspaces] at heq
    exact absurd (List.cons.inj heq).1 h₂
  · exact hspaces

theorem stripLeadingComments_terminal (s : Seam) {R : Text} (hR : Terminal R) :
    stripLeadingComments (cleanSeam s ++ R) = R := by
  obtain ⟨c, t, rfl, hc, -⟩ := hR
  exact stripLeadingComments_letter s hc t

theorem isMutation_fromVerb {m : Mutation} {tail sql : Text} (h : afterCte sql = fromVerb m tail) :
    isMutation sql = true := by
  obtain ⟨k, hk, w, R, hv⟩ := verb_word m.verb
  have hmem : k ∈ mutationKeywords := by
    obtain rfl | rfl | rfl | rfl := hk <;> decide
  refine List.any_eq_true.mpr ⟨k, hmem, ?_⟩
  rw [h, fromVerb, hv, List.append_assoc, keyword_word]
  rfl

theorem isMutation_with {w : With} {R sql : Text}
    (h : afterCte sql = w.print cleanSeam cleanParens ++ R) : isMutation sql = false := by
  have hnone : ∀ k ∈ mutationKeywords, initial k ≠ none ∧ initial k ≠ initial "with" := by decide
  refine List.any_eq_false.mpr fun k hk => ?_
  rw [h, print_with, keyword_other w.word (hnone k hk).1 (by decide) (hnone k hk).2]
  decide

/-- what the scanners make of a whole statement -/
theorem afterCte_text {m : Mutation} (hb : Balanced m) :
    if m.withClause.all clauseReadable then afterCte m.text = fromVerb m (strip m.tail)
    else ∃ w, m.withClause = some w ∧
      afterCte m.text = w.print cleanSeam cleanParens ++ fromVerb m (strip m.tail) := by
  have hterminal := terminal_fromVerb m (strip m.tail)
  unfold afterCte
  rw [show stripCommentsPreservingStrings m.text = _ from strip_mutation hb, print_mutation]
  cases hw : m.withClause with
  | none =>
    have hstart : startsWith (cleanSeam m.before ++ fromVerb m (strip m.tail)) = false := by
      obtain ⟨k, hk, w, R, hv⟩ := verb_word m.verb
      have hkey : k.toList.all isAsciiLetter ∧ initial k ≠ none ∧ initial "with" ≠ initial k := by
        obtain rfl | rfl | rfl | rfl := hk <;> decide
      rw [startsWith, skipSpaces_seam, fromVerb, hv, List.append_assoc,
        skipSpaces_word w hkey.1 hkey.2.1, keyword_other w (by decide) hkey.2.1 hkey.2.2]
      rfl
    show stripLeadingComments (skipLeadingCte (cleanSeam m.before ++ fromVerb m (strip m.tail))) = _
    rw [skipLeadingCte, hstart, if_neg (by decide), stripLeadingComments_terminal _ hterminal]
  | some w =>
    have hclause := skipLeadingCte_with (hb w hw) hterminal m.before
    simp only [Option.elim_some, Option.all_some]
    split
    · rename_i h
      rw [if_pos h] at hclause
      obtain ⟨s, hs⟩ := hclause
      rw [hs, stripLeadingComments_terminal s hterminal]
    · rename_i h
      rw [if_neg h] at hclause
      refine ⟨w, rfl, ?_⟩
      obtain ⟨c, t, hc, -⟩ := word_cons w.word (by decide)
      have hletter := word_letters w.word (by decide) c (by rw [hc]; exact List.mem_cons_self ..)
      rw [hclause, print_with, hc, List.cons_append]
      exact stripLeadingComments_letter _ hletter _

/-- what the guard makes of a statement -/
theorem mutationTargetIsInternal_eq (unicodeLower : Text → Text) {m : Mutation} (hb : Balanced m)
    {table : String} (htable : table ∈ ensureSchemaTables) (hm : m.Writes table) :
    mutationTargetIsInternal unicodeLower m.text =
      (m.withClause.all clauseReadable && (targetReadable m && isInternalTableName table.toList)) := by
  have hafter := afterCte_text hb
  have ht : TailOf m (strip m.tail) := strip_tail m.tailStart
  unfold mutationTargetIsInternal
  cases hc : m.withClause.all clauseReadable with
  | true =>
    rw [hc, if_pos rfl] at hafter
    rw [isMutation_fromVerb hafter, mutationWriteTarget_print unicodeLower ht htable hm hafter]
  | false =>
    rw [hc, if_neg (by decide)] at hafter
    obtain ⟨w, -, hw⟩ := hafter
    rw [isMutation_with hw]
    rfl

/-- the one table that the guard does not know -/
theorem isInternalTableName_table : ∀ table ∈ ensureSchemaTables,
    isInternalTableName table.toList = true ↔ table ≠ "participant_decision_tombstones" := by
  decide +kernel

/-- **the guard sees a write** of a table of the shard's own if, and only if, the table is one that it
knows, neither table nor schema is written like a string, and it can follow a leading clause -/
theorem mutationTargetIsInternal_iff (unicodeLower : Text → Text) {m : Mutation} (hb : Balanced m)
    {table : String} (htable : table ∈ ensureSchemaTables) (hm : m.Writes table) :
    mutationTargetIsInternal unicodeLower m.text = true ↔
      table ≠ "participant_decision_tombstones" ∧
      (m.table.isString = false ∧ ∀ s ∈ m.schema, s.1.isString = false) ∧
      ∀ w ∈ m.withClause, clauseReadable w = true := by
  rw [mutationTargetIsInternal_eq unicodeLower hb htable hm, Bool.and_eq_true, Bool.and_eq_true,
    isInternalTableName_table table htable, targetReadable, Bool.and_eq_true, Bool.not_eq_true',
    Option.all_eq_true, Option.all_eq_true]
  simp only [Bool.not_eq_true']
  exact ⟨fun h => ⟨h.2.2, h.2.1, h.1⟩, fun h => ⟨h.2.2, h.2.1, h.1⟩⟩

/-! ## two statements -/

def oneSpace : Gap := { seam := [.space ' ' rfl], nonempty := by simp }

/-- `DELETE FROM name` -/
def deleteFrom (table : Name) : Mutation where
  before := []
  withClause := none
  verb := .delete { text := "DELETE".toList, spelled := by decide } oneSpace
    { text := "FROM".toList, spelled := by decide }
  afterVerb := oneSpace.seam
  schema := none
  table := table
  afterTable := []
  tail := []
  verbApart := fun _ => oneSpace.nonempty
  tailStart := rfl
  tailApart := fun _ _ => rfl

/-- `WITH x AS (SELECT 1)` -/
def selectOne : With where
  word := { text := "WITH".toList, spelled := by decide }
  afterWord := oneSpace.seam
  recursive := none
  first :=
    { name := .bare ['x'] ⟨'x', [], rfl, rfl⟩ (List.all_eq_true.mp (by decide))
      afterName := oneSpace.seam
      columns := none
      asWord := { text := "AS".toList, spelled := by decide }
      afterAs := oneSpace.seam
      hint := none
      body :=
        { inner := "SELECT 1".toList
          body := .char rfl (.char rfl (.char rfl (.char rfl (.char rfl (.char rfl (.char rfl
            (.char rfl .nil))))))) }
      afterBody := oneSpace.seam
      nameApart := fun _ _ => oneSpace.nonempty
      hintApart := fun _ => oneSpace.nonempty }
  others := []
  wordApart := fun h => absurd rfl h
  nameApart := fun _ => oneSpace.nonempty

def rowLocks : Name := .bare "row_locks".toList ⟨'r', "ow_locks".toList, by decide, rfl⟩
  (List.all_eq_true.mp (by decide))

def tombstones : Name :=
  .bare "participant_decision_tombstones".toList
    ⟨'p', "articipant_decision_tombstones".toList, by decide, rfl⟩ (List.all_eq_true.mp (by decide))

theorem selectOne_balanced : WithBalanced selectOne :=
  ⟨⟨.char rfl (.char rfl (.char rfl (.char rfl (.char rfl (.char rfl (.char rfl
    (.char rfl .nil))))))), by simp [selectOne]⟩, by simp [selectOne]⟩

theorem mutationTargetIsInternal_locks :
    mutationTargetIsInternal id { deleteFrom rowLocks with withClause := some selectOne }.text = true :=
  (mutationTargetIsInternal_iff id
    (fun w hw => by cases hw; exact selectOne_balanced)
    (show "row_locks" ∈ ensureSchemaTables by decide) ⟨by decide, fun s hs => by cases hs⟩).mpr
    ⟨by decide, ⟨rfl, fun s hs => by cases hs⟩, fun w hw => by cases hw; decide⟩

/-- the decisions of the participants are not guarded -/
theorem mutationTargetIsInternal_tombstones : ¬ ∀ (m : Mutation) (table : String), Balanced m →
    table ∈ ensureSchemaTables → m.Writes table → mutationTargetIsInternal id m.text = true := by
  intro h
  have hwrites : (deleteFrom tombstones).Writes "participant_decision_tombstones" :=
    ⟨by decide, fun s hs => by cases hs⟩
  have hbalanced : Balanced (deleteFrom tombstones) := fun w hw => by cases hw
  have htrue := h _ _ hbalanced (by decide) hwrites
  rw [mutationTargetIsInternal_eq id hbalanced (by decide) hwrites] at htrue
  revert htrue
  decide +kernel

end SqlSafety
