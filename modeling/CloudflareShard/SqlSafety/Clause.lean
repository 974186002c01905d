import CloudflareShard.SqlSafety.Read

/-!
# A leading `WITH` clause

* `clauseReadable`        the scanner follows the clause to its end;
* `skipLeadingCte_with`   **it skips the clause if, and only if, it does**.
-/

namespace SqlSafety
open Sqlite.Grammar

/-- the name of the first table as `/^\s*with\s+(recursive\s+)?/i` leaves it: a name that is this word
before a character of `\s` is lost -/
def afterRecursive (name : Text) (afterName : Seam) : Text :=
  match keyword "recursive" (skipSpaces name) with
  | some rest =>
    if rest.head?.any isJsSpace || (rest.isEmpty && !afterName.isEmpty) then rest else name
  | none => name

/-- the words are apart from the first name, and that is read -/
def headReadable (w : With) : Bool :=
  match w.recursive with
  | some r => !r.2.isEmpty && readable w.first.name
  | none => !w.afterWord.isEmpty &&
    match w.first.name with
    | .bare name .. => startsIdentifier (afterRecursive name w.first.afterName)
    | name => readable name

def clauseReadable (w : With) : Bool :=
  headReadable w && w.others.all fun t => readable t.2.name

/-! ## words before the first name -/

section
variable {k : String} (w : Word k)

/-- the scanner takes a word for the name, and misses `AS` -/
theorem skipCommonTable_word (hl : k.toList.all isAsciiLetter) (hk : initial k ≠ none) (s : Seam)
    {Y : Text} (hY : ∃ q t, Y = q :: t ∧ isQuoteOpen q) :
    skipCommonTable (cleanSeam s ++ (w.text ++ Y)) = none := by
  obtain ⟨q, t, rfl, hq⟩ := hY
  have hplain : isIdChar q = false ∧ isJsSpace q = false ∧ q ≠ '(' ∧ lowerAscii q ≠ 'a' := by
    simp only [isQuoteOpen, Bool.or_eq_true, beq_iff_eq] at hq
    obtain ((rfl | rfl) | rfl) | rfl := hq <;> decide
  obtain ⟨c, u, hc, -⟩ := word_cons w hk
  have hletter := word_letters w hl c (hc ▸ List.mem_cons_self ..)
  have hread : readIdentifierToken (cleanSeam s ++ (w.text ++ q :: t)) = some (w.text, q :: t) := by
    rw [readIdentifierToken_seam, hc]
    refine readIdentifierToken_bare ?_ (isJsSpace_letter hletter) ?_ (ends_cons hplain.1 t)
    · simp [isIdStart, hletter]
    · intro d hd
      exact isIdChar_of_letter (word_letters w hl d (hc ▸ List.mem_cons_of_mem _ hd))
  have hcolumns : skipColumns (q :: t) = q :: t := by
    unfold skipColumns
    rw [skipSpaces_cons hplain.2.1]
    split
    · rename_i v heq
      exact absurd (List.cons.inj heq).1 hplain.2.2.1
    · rfl
  refine skipCommonTable_noAs hread ?_
  rw [hcolumns, NoAs, skipSpaces_cons hplain.2.1]
  exact keyword_none (by decide) fun h => hplain.2.2.2 (Option.some.inj h).symm

end

theorem name_open {n : Name} (h : n.isBare = false) (R : Text) :
    ∃ q t, n.text ++ R = q :: t ∧ isQuoteOpen q := by
  cases n with
  | bare => cases h
  | quoted q s => exact ⟨q.char, _, rfl, isQuoteOpen_quote q⟩
  | bracketed s hs => exact ⟨'[', _, rfl, rfl⟩

theorem open_plain {q : Char} (h : isQuoteOpen q) : isJsSpace q = false ∧ isWordChar q = false ∧
    lowerAscii q ≠ 'r' := by
  simp only [isQuoteOpen, Bool.or_eq_true, beq_iff_eq] at h
  obtain ((rfl | rfl) | rfl) | rfl := h <;> decide

/-- a keyword is not found across the end of a name -/
theorem skipKeyword_ends {F : Text} (hF : Ends F) : ∀ {k n : Text}, (∀ c ∈ k, isAsciiLetter c) →
    skipKeyword k n = none → skipKeyword k (n ++ F) = none
  | [], n, _, h => by cases n <;> cases h
  | k :: ks, [], hk, _ => by
    cases F with
    | nil => rfl
    | cons d F =>
      have hd := hF d rfl
      have hne : lowerAscii d ≠ k := fun h => by
        have := isAsciiLetter_of_lower (c := d) (h ▸ hk k (List.mem_cons_self ..))
        rw [isIdChar_of_letter this] at hd
        cases hd
      rw [List.nil_append, skipKeyword, if_neg hne]
  | k :: ks, c :: n, hk, h => by
    rw [List.cons_append]
    simp only [skipKeyword] at h ⊢
    by_cases hc : lowerAscii c = k
    · rw [if_pos hc] at h ⊢
      exact skipKeyword_ends hF (fun d hd => hk d (List.mem_cons_of_mem _ hd)) h
    · rw [if_neg hc]

theorem skipKeyword_append {F : Text} : ∀ {k n rest : Text}, skipKeyword k n = some rest →
    skipKeyword k (n ++ F) = some (rest ++ F)
  | [], n, rest, h => by
    cases h
    rfl
  | k :: ks, [], _, h => by cases h
  | k :: ks, c :: n, rest, h => by
    rw [List.cons_append]
    simp only [skipKeyword] at h ⊢
    by_cases hc : lowerAscii c = k
    · rw [if_pos hc] at h ⊢
      exact skipKeyword_append h
    · rw [if_neg hc] at h
      cases h

theorem skipKeyword_suffix : ∀ {k n rest : Text}, skipKeyword k n = some rest → rest <:+ n
  | [], n, rest, h => by
    cases h
    exact List.suffix_refl _
  | k :: ks, [], _, h => by cases h
  | k :: ks, c :: n, rest, h => by
    simp only [skipKeyword] at h
    split at h
    · exact (skipKeyword_suffix h).trans (List.suffix_cons ..)
    · cases h

/-! ## the clause -/

section
variable {w : With} {R : Text}

/-- the tables of a clause -/
def tables (w : With) (R : Text) : Text :=
  w.first.print cleanSeam cleanParens ++ (printOthers w.others ++ R)

theorem tables_eq (w : With) (R : Text) :
    tables w R = w.first.name.text ++ fromName w.first (printOthers w.others ++ R) :=
  print_commonTable _ _

theorem print_with (w : With) (R : Text) : w.print cleanSeam cleanParens ++ R =
    w.word.text ++ (cleanSeam w.afterWord
      ++ ((w.recursive.elim [] fun r => r.1.text ++ cleanSeam r.2) ++ tables w R)) := by
  simp only [With.print, tables, printOthers, List.append_assoc]

/-- what is skipped, where the scanner starts at `X` and reads the first table if `b` holds -/
theorem skipCommonTables_of (hb : WithBalanced w) (hR : Terminal R) {X : Text} {b : Bool}
    (h : skipCommonTable X =
      if b then some (cleanSeam w.first.afterBody ++ (printOthers w.others ++ R)) else none) :
    if b && w.others.all fun t => readable t.2.name then
      ∃ s, skipCommonTables X = some (cleanSeam s ++ R)
    else skipCommonTables X = none := by
  have hothers := skipCommonTables_others hR w.others hb.2 w.first.afterBody
  rw [skipCommonTables_eq, h]
  cases b with
  | false => simp
  | true =>
    simp only [Bool.true_and]
    exact hothers

theorem skipCommonTable_bareFirst (hb : WithBalanced w) (hR : Terminal R) {n : Text}
    (hn : ∀ c ∈ n, isIdChar c) (hname : w.first.name.isBare) :
    skipCommonTable (n ++ fromName w.first (printOthers w.others ++ R)) =
      if startsIdentifier n then some (cleanSeam w.first.afterBody ++ (printOthers w.others ++ R))
      else none :=
  skipCommonTable_bare hb.1 hn (fun _ => ends_fromName (fun hc => w.first.nameApart hc hname) _)
    (noAs_others _ hR)

theorem ends_first (hname : w.first.name.isBare) (R : Text) : Ends (fromName w.first R) :=
  ends_fromName (fun hc => w.first.nameApart hc hname) R

/-- the word behind the first name is `AS`, or a list of columns stands there -/
theorem fromName_head (t : CommonTable) (R : Text) :
    ∃ c s, skipSpaces (fromName t R) = c :: s ∧ lowerAscii c ≠ 'r' := by
  unfold fromName
  rw [skipSpaces_seam]
  cases t.columns with
  | some c => exact ⟨'(', _, skipSpaces_cons (by decide) _, by decide⟩
  | none =>
    obtain ⟨c, s, hc, hi⟩ := word_cons t.asWord (by decide)
    simp only [Option.elim_none, List.nil_append]
    rw [skipSpaces_word _ (by decide) (by decide), hc]
    refine ⟨c, _, rfl, fun h => ?_⟩
    rw [h] at hi
    revert hi
    decide

theorem skipSpaces_name {n : Text} (F : Text) : skipSpaces (n ++ F) =
    if skipSpaces n = [] then skipSpaces F else skipSpaces n ++ F := by
  obtain ⟨w, hw, hspaces⟩ := skipSpaces_split n
  cases hs : skipSpaces n with
  | nil =>
    rw [if_pos rfl, hw, hs, List.append_nil]
    exact skipSpaces_append hspaces F
  | cons c s =>
    rw [if_neg (by simp)]
    conv_lhs => rw [hw]
    rw [List.append_assoc, skipSpaces_append hspaces, hs]
    exact skipSpaces_cons (skipSpaces_head hs) _

/-- what `(recursive\s+)?` takes of a first name without quotes -/
theorem skipCommonTable_afterRecursive (hb : WithBalanced w) (hR : Terminal R) {name : Text}
    (hchars : ∀ c ∈ name, isIdChar c) (hname : w.first.name.isBare) {rest : Text}
    (hrest : rest = skipSpaces (name ++ fromName w.first (printOthers w.others ++ R))) :
    skipCommonTable (((keyword "recursive" rest).bind skipSpaces1).getD rest) =
      if startsIdentifier (afterRecursive name w.first.afterName) then
        some (cleanSeam w.first.afterBody ++ (printOthers w.others ++ R))
      else none := by
  set F := fromName w.first (printOthers w.others ++ R) with hF
  have hends : Ends F := ends_first hname _
  have hskipped : ∀ X, skipCommonTable (skipSpaces X) = skipCommonTable X :=
    fun X => skipCommonTable_congr (readIdentifierToken_skipSpaces X)
  have hwhole : skipCommonTable rest = if startsIdentifier name then
      some (cleanSeam w.first.afterBody ++ (printOthers w.others ++ R)) else none := by
    rw [hrest, hskipped]
    exact skipCommonTable_bareFirst hb hR hchars hname
  rw [skipSpaces_name] at hrest
  unfold afterRecursive
  cases hk : keyword "recursive" (skipSpaces name) with
  | none =>
    have hnone : keyword "recursive" rest = none := by
      rw [hrest]
      split
      · obtain ⟨c, s, hc, hr⟩ := fromName_head w.first (printOthers w.others ++ R)
        rw [hc]
        exact keyword_none (by decide) fun h => hr (Option.some.inj h).symm
      · exact skipKeyword_ends hends (List.all_eq_true.mp (by decide)) hk
    rw [hnone]
    exact hwhole
  | some lost =>
    have hnil : skipSpaces name ≠ [] := by
      intro h
      rw [h] at hk
      cases hk
    have hsome : keyword "recursive" rest = some (lost ++ F) := by
      rw [hrest, if_neg hnil]
      exact skipKeyword_append hk
    rw [hsome, Option.bind_some]
    cases lost with
    | nil =>
      by_cases hs : w.first.afterName = []
      · -- a list of columns follows at once
        have hnone : skipSpaces1 ([] ++ F) = none := by
          cases hc : w.first.columns with
          | none => exact absurd hs (w.first.nameApart hc hname)
          | some c =>
            rw [hF, fromName, hs, hc]
            rfl
        rw [hnone]
        simpa [hs] using hwhole
      · have hlost := skipCommonTable_bareFirst hb hR (n := []) (by simp) hname
        rw [List.nil_append] at hlost
        have hsome1 : skipSpaces1 ([] ++ F) = some (skipSpaces F) := by
          rw [List.nil_append, hF, fromName, skipSpaces1_seam hs, skipSpaces_seam]
        rw [hsome1, Option.getD_some, hskipped, hlost]
        simp [hs]
    | cons c lost =>
      have hmem : ∀ d ∈ c :: lost, isIdChar d := by
        intro d hd
        have hsuffix : c :: lost <:+ skipSpaces name := skipKeyword_suffix hk
        exact hchars d ((List.dropWhile_suffix isJsSpace).subset (hsuffix.subset hd))
      by_cases hc : isJsSpace c
      · have hlost := skipCommonTable_bareFirst hb hR hmem hname
        have hsome1 : skipSpaces1 (c :: lost ++ F) = some (skipSpaces (lost ++ F)) := by
          rw [List.cons_append, skipSpaces1, if_pos hc]
        have hsame : skipSpaces (lost ++ F) = skipSpaces (c :: lost ++ F) := by
          rw [List.cons_append, skipSpaces, skipSpaces, List.dropWhile_cons, if_pos hc]
        rw [hsome1, Option.getD_some, hsame, hskipped, hlost]
        simp [hc]
      · have hnone : skipSpaces1 (c :: lost ++ F) = none := by
          rw [List.cons_append, skipSpaces1, if_neg hc]
        rw [hnone]
        simpa [hc] using hwhole

/-- **the header of the clause**: behind it the scanner reads the first table, or nothing at all -/
theorem skipWith_print (hb : WithBalanced w) (hR : Terminal R) (before : Seam) :
    skipCommonTable (skipWith (cleanSeam before ++ (w.print cleanSeam cleanParens ++ R))) =
      if headReadable w then some (cleanSeam w.first.afterBody ++ (printOthers w.others ++ R))
      else none := by
  have hstandard : skipCommonTable (tables w R) =
      if readable w.first.name then some (cleanSeam w.first.afterBody ++ (printOthers w.others ++ R))
      else none := skipCommonTable_print hb.1 (noAs_others w.others hR)
  have hskipped : ∀ X, skipCommonTable (skipSpaces X) = skipCommonTable X :=
    fun X => skipCommonTable_congr (readIdentifierToken_skipSpaces X)
  have hwith : ∀ Y, keyword "with" (skipSpaces (cleanSeam before ++ (w.word.text ++ Y))) = some Y := by
    intro Y
    rw [skipSpaces_seam, skipSpaces_word _ (by decide) (by decide), keyword_word]
  have hopen : w.first.name.isBare = false → ∃ q t, tables w R = q :: t ∧ isQuoteOpen q := by
    intro h
    rw [tables_eq]
    exact name_open h _
  have hquoted : w.first.name.isBare = false → skipCommonTable
      (((keyword "recursive" (skipSpaces (tables w R))).bind skipSpaces1).getD
        (skipSpaces (tables w R))) =
      if readable w.first.name then some (cleanSeam w.first.afterBody ++ (printOthers w.others ++ R))
      else none := by
    intro h
    obtain ⟨q, t, hY, hq⟩ := hopen h
    have hspaces : skipSpaces (tables w R) = tables w R := by
      rw [hY, skipSpaces_cons (open_plain hq).1]
    have hnone : keyword "recursive" (tables w R) = none := by
      rw [hY]
      exact keyword_none (by decide) fun h => (open_plain hq).2.2 (Option.some.inj h).symm
    rw [hspaces, hnone]
    exact hstandard
  rw [print_with]
  unfold skipWith
  rw [hwith, Option.bind_some]
  cases hr : w.recursive with
  | some r =>
    have hafter : w.afterWord ≠ [] := w.wordApart (by rw [hr]; simp)
    simp only [Option.elim_some, List.append_assoc, headReadable, hr]
    rw [skipSpaces1_seam hafter, skipSpaces_word _ (by decide) (by decide)]
    dsimp only
    rw [keyword_word, Option.bind_some]
    by_cases hs : r.2 = []
    · have hbare : w.first.name.isBare = false := by
        by_contra h
        exact w.nameApart (by simpa using h) (by rw [hr]; exact hs)
      obtain ⟨q, t, hY, hq⟩ := hopen hbare
      have hword := skipCommonTable_word r.1 (by decide) (by decide) [] ⟨q, t, hY, hq⟩
      have hnone : skipSpaces1 (tables w R) = none := by
        rw [hY, skipSpaces1, if_neg (by rw [(open_plain hq).1]; decide)]
      have hnil : cleanSeam r.2 ++ tables w R = tables w R := by
        rw [hs]
        rfl
      rw [hnil, hnone, Option.getD_none]
      simpa [hs, cleanSeam] using hword
    · rw [skipSpaces1_seam hs, Option.getD_some, hskipped, hstandard]
      simp [hs]
  | none =>
    simp only [Option.elim_none, List.nil_append, headReadable, hr]
    by_cases hs : w.afterWord = []
    · have hbare : w.first.name.isBare = false := by
        by_contra h
        exact w.nameApart (by simpa using h) (by rw [hr]; exact hs)
      obtain ⟨q, t, hY, hq⟩ := hopen hbare
      have hword := skipCommonTable_word w.word (by decide) (by decide) before ⟨q, t, hY, hq⟩
      have hnone : skipSpaces1 (tables w R) = none := by
        rw [hY, skipSpaces1, if_neg (by rw [(open_plain hq).1]; decide)]
      have hnil : cleanSeam w.afterWord ++ tables w R = tables w R := by
        rw [hs]
        rfl
      rw [hnil, hnone]
      simpa [hs] using hword
    · rw [skipSpaces1_seam hs]
      dsimp only
      cases hn : w.first.name with
      | bare name start chars =>
        have hname : w.first.name.isBare := by rw [hn]; rfl
        have hrest : skipSpaces (tables w R) =
            skipSpaces (name ++ fromName w.first (printOthers w.others ++ R)) := by
          rw [tables_eq, hn]
          rfl
        rw [skipCommonTable_afterRecursive hb hR chars hname hrest]
        simp [hs]
      | quoted q s =>
        rw [hquoted (by rw [hn]; rfl), hn]
        simp [hs]
      | bracketed s hb =>
        rw [hquoted (by rw [hn]; rfl), hn]
        simp [hs]

theorem startsWith_print (w : With) (before : Seam) (R : Text) :
    startsWith (cleanSeam before ++ (w.print cleanSeam cleanParens ++ R)) = true := by
  rw [print_with, startsWith, skipSpaces_seam, skipSpaces_word _ (by decide) (by decide), keyword_word,
    Option.any_some]
  by_cases hs : w.afterWord = []
  · cases hr : w.recursive with
    | some r => exact absurd hs (w.wordApart (by rw [hr]; simp))
    | none =>
      have hbare : w.first.name.isBare = false := by
        by_contra h
        exact w.nameApart (by simpa using h) (by rw [hr]; exact hs)
      obtain ⟨q, t, hY, hq⟩ := name_open hbare (fromName w.first (printOthers w.others ++ R))
      rw [hs, tables_eq, hY]
      simp [cleanSeam, (open_plain hq).2.1]
  · obtain ⟨c, t, hc, hb⟩ := clean_cons hs
    have hword : isWordChar c = false := by
      have := isIdChar_blank hb
      simp only [isIdChar, Bool.or_eq_false_iff] at this
      simp only [isWordChar, Bool.or_eq_false_iff]
      exact ⟨this.1.1.1, this.1.1.2⟩
    rw [hc]
    simp [hword]

/-- **the clause** is skipped whole, or the text is left as it is -/
theorem skipLeadingCte_with (hb : WithBalanced w) (hR : Terminal R) (before : Seam) :
    if clauseReadable w then
      ∃ s, skipLeadingCte (cleanSeam before ++ (w.print cleanSeam cleanParens ++ R)) = cleanSeam s ++ R
    else skipLeadingCte (cleanSeam before ++ (w.print cleanSeam cleanParens ++ R)) =
      cleanSeam before ++ (w.print cleanSeam cleanParens ++ R) := by
  have htables := skipCommonTables_of hb hR (skipWith_print hb hR before)
  unfold skipLeadingCte clauseReadable
  rw [startsWith_print, if_pos rfl]
  split
  · rename_i h
    rw [if_pos h] at htables
    obtain ⟨s, hs⟩ := htables
    exact ⟨s, by rw [hs]; rfl⟩
  · rename_i h
    rw [if_neg h] at htables
    rw [htables]
    rfl

end

end SqlSafety
