import Mathlib.Data.List.TakeWhile
import CloudflareShard.SqlSafety.Strip

/-!
# Reading a stripped statement

* `skipSpaces_seam`, `keyword_word`                 seams and keywords;
* `readIdentifierToken_name`, `readIdentifierToken_bare`   names;
* `startsIdentifier`                                **what is left of a name behind `\s*` starts a name**;
* `skipCommonTable_print`                           **one table of a `WITH` clause**;
* `skipCommonTables_print`                          **all of them**.
-/

namespace SqlSafety
open Sqlite.Grammar

/-! ## spaces -/

theorem isJsSpace_blank {c : Char} (h : isBlank c) : isJsSpace c := by
  simp only [isBlank, Bool.or_eq_true, beq_iff_eq] at h
  obtain (((rfl | rfl) | rfl) | rfl) | rfl := h <;> decide

theorem clean_blank {s : Seam} : ∀ c ∈ cleanSeam s, isBlank c := by
  intro c hc
  obtain ⟨b, -, hb⟩ := List.mem_flatMap.mp hc
  cases b with
  | space d h =>
    rw [cleanBlank, List.mem_singleton] at hb
    exact hb ▸ h
  | line =>
    simp only [cleanBlank, List.mem_cons, List.not_mem_nil, or_false] at hb
    rcases hb with rfl | rfl <;> decide
  | block =>
    rw [cleanBlank, List.mem_singleton] at hb
    subst hb
    decide

theorem clean_nil {s : Seam} : cleanSeam s = [] ↔ s = [] := by
  cases s with
  | nil => exact ⟨fun _ => rfl, fun _ => rfl⟩
  | cons b s =>
    have hb : cleanBlank b ≠ [] := by cases b <;> simp [cleanBlank]
    simp [cleanSeam, hb]

/-- a seam is a blank and more -/
theorem clean_cons {s : Seam} (h : s ≠ []) : ∃ c t, cleanSeam s = c :: t ∧ isBlank c := by
  cases hc : cleanSeam s with
  | nil => exact absurd (clean_nil.mp hc) h
  | cons c t => exact ⟨c, t, rfl, clean_blank c (hc ▸ List.mem_cons_self ..)⟩

theorem skipSpaces_append {s : Text} (h : ∀ c ∈ s, isJsSpace c) (R : Text) :
    skipSpaces (s ++ R) = skipSpaces R := by
  induction s with
  | nil => rfl
  | cons c s ih =>
    rw [List.cons_append, skipSpaces, List.dropWhile_cons, if_pos (h c (List.mem_cons_self ..))]
    exact ih fun d hd => h d (List.mem_cons_of_mem _ hd)

theorem skipSpaces_seam (s : Seam) (R : Text) : skipSpaces (cleanSeam s ++ R) = skipSpaces R :=
  skipSpaces_append (fun c hc => isJsSpace_blank (clean_blank c hc)) R

theorem skipSpaces_cons {c : Char} (h : isJsSpace c = false) (s : Text) :
    skipSpaces (c :: s) = c :: s := by
  rw [skipSpaces, List.dropWhile_cons, if_neg (by rw [h]; decide)]

theorem skipSpaces_idem (s : Text) : skipSpaces (skipSpaces s) = skipSpaces s := by
  induction s with
  | nil => rfl
  | cons c s ih =>
    cases h : isJsSpace c with
    | true =>
      have hcons : skipSpaces (c :: s) = skipSpaces s := by
        rw [skipSpaces, List.dropWhile_cons, if_pos h]
        rfl
      rw [hcons, ih]
    | false => rw [skipSpaces_cons h, skipSpaces_cons h]

theorem skipSpaces1_seam {s : Seam} (h : s ≠ []) (R : Text) :
    skipSpaces1 (cleanSeam s ++ R) = some (skipSpaces R) := by
  obtain ⟨c, t, hc, hb⟩ := clean_cons h
  have hs := skipSpaces_seam s R
  rw [hc, List.cons_append, skipSpaces, List.dropWhile_cons, if_pos (isJsSpace_blank hb)] at hs
  rw [hc, List.cons_append, skipSpaces1, if_pos (isJsSpace_blank hb)]
  exact congrArg some hs

theorem letter_range {c : Char} (h : isAsciiLetter c) :
    (97 ≤ c.toNat ∧ c.toNat ≤ 122) ∨ (65 ≤ c.toNat ∧ c.toNat ≤ 90) := by
  simpa [isAsciiLetter, Char.le_def, UInt32.le_iff_toNat_le] using h

theorem isJsSpace_letter {c : Char} (h : isAsciiLetter c) : isJsSpace c = false := by
  have := letter_range h
  simp only [isJsSpace, Bool.or_eq_false_iff, Bool.and_eq_false_iff, decide_eq_false_iff_not,
    beq_eq_false_iff_ne, ne_eq]
  omega

/-! ## keywords -/

theorem skipKeyword_spelled {k w : Text} (h : lowerText w = k) (R : Text) :
    skipKeyword k (w ++ R) = some R := by
  subst h
  induction w with
  | nil => rfl
  | cons c w ih =>
    show skipKeyword (lowerAscii c :: lowerText w) (c :: (w ++ R)) = _
    rw [skipKeyword, if_pos rfl, ih]

theorem keyword_word {k : String} (w : Word k) (R : Text) : keyword k (w.text ++ R) = some R :=
  skipKeyword_spelled w.spelled R

/-- the first letter of the keyword -/
def initial (k : String) : Option Char := k.toList.head?

theorem keyword_none {k : String} {c : Char} {s : Text} (hk : initial k ≠ none)
    (h : initial k ≠ some (lowerAscii c)) : keyword k (c :: s) = none := by
  unfold keyword
  unfold initial at hk h
  cases hl : k.toList with
  | nil =>
    rw [hl] at hk
    exact absurd rfl hk
  | cons d ks =>
    rw [hl] at h
    rw [skipKeyword, if_neg fun hc => h (by rw [hc]; rfl)]

theorem word_cons {k : String} (w : Word k) (hk : initial k ≠ none) :
    ∃ c t, w.text = c :: t ∧ initial k = some (lowerAscii c) := by
  have hs := w.spelled
  unfold initial at hk ⊢
  cases hw : w.text with
  | nil =>
    rw [hw] at hs
    rw [← hs] at hk
    exact absurd rfl hk
  | cons c t =>
    rw [hw] at hs
    exact ⟨c, t, rfl, by rw [← hs]; rfl⟩

/-- a word is no other word that starts with another letter -/
theorem keyword_other {k k' : String} (w : Word k') (hk : initial k ≠ none) (hk' : initial k' ≠ none)
    (h : initial k ≠ initial k') (R : Text) : keyword k (w.text ++ R) = none := by
  obtain ⟨c, t, hc, hi⟩ := word_cons w hk'
  rw [hc, List.cons_append]
  exact keyword_none hk (hi ▸ h)

theorem skipSpaces_word {k : String} (w : Word k) (hl : k.toList.all isAsciiLetter)
    (hk : initial k ≠ none) (R : Text) : skipSpaces (w.text ++ R) = w.text ++ R := by
  obtain ⟨c, t, hc, -⟩ := word_cons w hk
  have := isJsSpace_letter (word_letters w hl c (hc ▸ List.mem_cons_self ..))
  rw [hc, List.cons_append, skipSpaces_cons this]

/-! ## names -/

theorem readIdentifierToken_spaces {s : Text} (h : ∀ c ∈ s, isJsSpace c) (R : Text) :
    readIdentifierToken (s ++ R) = readIdentifierToken R := by
  unfold readIdentifierToken
  rw [skipSpaces_append h]

theorem readIdentifierToken_seam (s : Seam) (R : Text) :
    readIdentifierToken (cleanSeam s ++ R) = readIdentifierToken R :=
  readIdentifierToken_spaces (fun c hc => isJsSpace_blank (clean_blank c hc)) R

theorem readIdentifierToken_skipSpaces (R : Text) :
    readIdentifierToken (skipSpaces R) = readIdentifierToken R := by
  unfold readIdentifierToken
  rw [skipSpaces_idem]

/-- a name does not go on in the text -/
def Ends (s : Text) : Prop := ∀ c ∈ s.head?, isIdChar c = false

theorem ends_cons {c : Char} (h : isIdChar c = false) (s : Text) : Ends (c :: s) := by
  intro d hd
  cases hd
  exact h

theorem isIdChar_blank {c : Char} (h : isBlank c) : isIdChar c = false := by
  simp only [isBlank, Bool.or_eq_true, beq_iff_eq] at h
  obtain (((rfl | rfl) | rfl) | rfl) | rfl := h <;> decide

theorem ends_seam {s : Seam} (h : s ≠ []) (R : Text) : Ends (cleanSeam s ++ R) := by
  obtain ⟨c, t, hc, hb⟩ := clean_cons h
  rw [hc]
  exact ends_cons (isIdChar_blank hb) _

theorem takeWhile_ends {s R : Text} (hs : ∀ c ∈ s, isIdChar c) (hR : Ends R) :
    (s ++ R).takeWhile isIdChar = s ∧ (s ++ R).dropWhile isIdChar = R := by
  induction s with
  | nil =>
    cases R with
    | nil => exact ⟨rfl, rfl⟩
    | cons c R =>
      have := hR c rfl
      simp [this]
  | cons c s ih =>
    obtain ⟨h₁, h₂⟩ := ih fun d hd => hs d (List.mem_cons_of_mem _ hd)
    have := hs c (List.mem_cons_self ..)
    simp [this, h₁, h₂]

theorem isIdStart_plain {c : Char} (h : isIdStart c) :
    ¬ (c = '"' ∨ c = '\x60' ∨ c = '[') := by
  rintro (rfl | rfl | rfl) <;> revert h <;> decide

/-- a bare name -/
theorem readIdentifierToken_bare {c : Char} {s R : Text} (hc : isIdStart c)
    (hspace : isJsSpace c = false) (hs : ∀ d ∈ s, isIdChar d) (hR : Ends R) :
    readIdentifierToken (c :: s ++ R) = some (c :: s, R) := by
  obtain ⟨h₁, h₂⟩ := takeWhile_ends hs hR
  have hskip : skipSpaces (c :: s ++ R) = c :: (s ++ R) := skipSpaces_cons hspace _
  unfold readIdentifierToken
  rw [hskip]
  dsimp only
  rw [if_neg (isIdStart_plain hc), if_pos hc, h₁, h₂]

/-- nothing that a name starts with -/
theorem readIdentifierToken_none {c : Char} {R : Text} (hspace : isJsSpace c = false)
    (hq : ¬ (c = '"' ∨ c = '\x60' ∨ c = '[')) (hc : isIdStart c = false) :
    readIdentifierToken (c :: R) = none := by
  unfold readIdentifierToken
  rw [skipSpaces_cons hspace]
  dsimp only
  rw [if_neg hq, if_neg (by rw [hc]; decide)]

theorem readIdentifierToken_quoted {q : Quote} (hq : q ≠ .single) {R : Text} (hR : Apart R) (s : Text) :
    readIdentifierToken (q.span s ++ R) = some (q.span s, R) := by
  have hspan := skipQuoteSpan_span q (hR.ne q) s
  have hcons : q.span s ++ R = q.char :: (q.escape s ++ [q.char] ++ R) := rfl
  have hchar : q.char = '"' ∨ q.char = '\x60' ∨ q.char = '[' := by
    cases q with
    | single => exact absurd rfl hq
    | double => exact .inl rfl
    | backtick => exact .inr (.inl rfl)
  have hspace : isJsSpace q.char = false := by cases q <;> decide
  rw [hcons] at hspan ⊢
  unfold readIdentifierToken
  rw [skipSpaces_cons hspace]
  dsimp only
  rw [if_pos hchar, hspan]
  rfl

theorem readIdentifierToken_bracketed {s : Text} (hs : ']' ∉ s) (R : Text) :
    readIdentifierToken (bracketSpan s ++ R) = some (bracketSpan s, R) := by
  have hspan := skipQuoteSpan_bracket hs R
  have hcons : bracketSpan s ++ R = '[' :: (s ++ [']'] ++ R) := rfl
  rw [hcons] at hspan ⊢
  unfold readIdentifierToken
  rw [skipSpaces_cons (by decide)]
  dsimp only
  rw [if_pos (by decide), hspan]
  rfl

theorem readIdentifierToken_string (s R : Text) :
    readIdentifierToken (Quote.single.span s ++ R) = none :=
  readIdentifierToken_none (R := Quote.single.escape s ++ ['\''] ++ R) (by decide) (by decide)
    (by decide)

/-- what is left of a bare name behind `\s*` starts a bare name -/
def startsIdentifier (s : Text) : Bool := (skipSpaces s).head?.any isIdStart

/-- the reader of names reads the name -/
def readable : Name → Bool
  | .bare s .. => startsIdentifier s
  | .quoted q _ => q != .single
  | .bracketed .. => true

/-! ## one table -/

/-- a table of the clause from its `AS` on, without the word -/
def fromAs (t : CommonTable) (R : Text) : Text :=
  cleanSeam t.afterAs ++ (t.hint.elim [] (Hint.print cleanSeam)
    ++ (cleanParens t.body ++ (cleanSeam t.afterBody ++ R)))

/-- a table of the clause without its name -/
def fromName (t : CommonTable) (R : Text) : Text :=
  cleanSeam t.afterName ++ ((t.columns.elim [] fun c => cleanParens c.1 ++ cleanSeam c.2)
    ++ (t.asWord.text ++ fromAs t R))

theorem print_commonTable (t : CommonTable) (R : Text) :
    t.print cleanSeam cleanParens ++ R = t.name.text ++ fromName t R := by
  simp only [CommonTable.print, fromName, fromAs, List.append_assoc]

theorem initial_eq {k : String} {d : Char} {ks : Text} (h : k.toList = d :: ks) :
    initial k = some d := by
  rw [initial, h]
  rfl

theorem cleanParens_cons (p : Parens) (R : Text) :
    cleanParens p ++ R = '(' :: (strip p.inner ++ [')'] ++ R) := rfl

theorem skipColumns_word {k : String} (s : Seam) (w : Word k) (hl : k.toList.all isAsciiLetter)
    (hk : initial k ≠ none) (R : Text) :
    skipColumns (cleanSeam s ++ (w.text ++ R)) = cleanSeam s ++ (w.text ++ R) := by
  obtain ⟨c, t, hc, -⟩ := word_cons w hk
  have hletter := word_letters w hl c (hc ▸ List.mem_cons_self ..)
  have hne : c ≠ '(' := isIdChar_ne (isIdChar_of_letter hletter) (by decide)
  unfold skipColumns
  rw [skipSpaces_seam, skipSpaces_word w hl hk, hc]
  split
  · rename_i u heq
    exact absurd (List.cons.inj heq).1 hne
  · rfl

theorem skipColumns_parens {p : Parens} (hp : p.Balanced) (s : Seam) (R : Text) :
    skipColumns (cleanSeam s ++ (cleanParens p ++ R)) = R := by
  have hskip := skip_parens hp R
  rw [cleanParens_cons] at hskip ⊢
  unfold skipColumns
  rw [skipSpaces_seam, skipSpaces_cons (by decide)]
  exact hskip

theorem skipColumns_fromName {t : CommonTable} (ht : CommonTableBalanced t) (R : Text) :
    ∃ s : Seam, skipColumns (fromName t R) = cleanSeam s ++ (t.asWord.text ++ fromAs t R) := by
  unfold fromName
  cases hc : t.columns with
  | none => exact ⟨t.afterName, skipColumns_word _ _ (by decide) (by decide) _⟩
  | some c =>
    refine ⟨c.2, ?_⟩
    simp only [Option.elim_some, List.append_assoc]
    exact skipColumns_parens (ht.2 c hc) _ _

theorem skipAs_seam (s : Seam) (w : Word "as") (R : Text) :
    skipAs (cleanSeam s ++ (w.text ++ R)) = some (skipSpaces R) := by
  rw [skipAs, skipSpaces_seam, skipSpaces_word w (by decide) (by decide), keyword_word]
  rfl

theorem skipMaterialized_fromAs (t : CommonTable) (R : Text) :
    skipSpaces (skipMaterialized (skipSpaces (fromAs t R))) =
      cleanParens t.body ++ (cleanSeam t.afterBody ++ R) := by
  have hbody : ∀ X, skipSpaces (cleanParens t.body ++ X) = cleanParens t.body ++ X :=
    fun X => skipSpaces_cons (by decide) _
  unfold fromAs skipMaterialized
  rw [skipSpaces_seam]
  cases t.hint with
  | none =>
    simp only [Option.elim_none, List.nil_append]
    rw [hbody, hbody, cleanParens_cons, keyword_none (by decide) (by decide)]
    simp only [Option.bind_none]
    rw [keyword_none (by decide) (by decide)]
    exact hbody _
  | some h =>
    simp only [Option.elim_some, Hint.print]
    cases h.not with
    | none =>
      simp only [Option.elim_none, List.nil_append, List.append_assoc]
      rw [skipSpaces_word _ (by decide) (by decide), skipSpaces_word _ (by decide) (by decide),
        keyword_other _ (by decide) (by decide) (by decide)]
      simp only [Option.bind_none]
      rw [keyword_word]
      dsimp only
      rw [skipSpaces_seam, hbody, hbody]
    | some n =>
      simp only [Option.elim_some, List.append_assoc]
      rw [skipSpaces_word _ (by decide) (by decide), skipSpaces_word _ (by decide) (by decide),
        keyword_word]
      simp only [Option.bind_some]
      rw [skipSpaces1_seam n.2.nonempty, skipSpaces_word _ (by decide) (by decide)]
      simp only [Option.bind_some]
      rw [keyword_word]
      dsimp only
      rw [skipSpaces_seam, hbody, hbody]

/-- behind a name that is read, the rest of the table is read -/
theorem skipCommonTable_of_name {t : CommonTable} (ht : CommonTableBalanced t) {X raw R : Text}
    (h : readIdentifierToken X = some (raw, fromName t R)) :
    skipCommonTable X = some (cleanSeam t.afterBody ++ R) := by
  obtain ⟨s, hs⟩ := skipColumns_fromName ht R
  have hbody := skip_parens ht.1 (cleanSeam t.afterBody ++ R)
  unfold skipCommonTable
  rw [h]
  simp only [Option.bind_eq_bind, Option.bind_some]
  rw [hs, skipAs_seam]
  simp only [Option.bind_some]
  rw [skipMaterialized_fromAs]
  rw [cleanParens_cons] at hbody ⊢
  exact congrArg some hbody

theorem skipCommonTable_none {X : Text} (h : readIdentifierToken X = none) :
    skipCommonTable X = none := by
  unfold skipCommonTable
  rw [h]
  rfl

/-- no `AS` comes next -/
def NoAs (R : Text) : Prop := keyword "as" (skipSpaces R) = none

theorem skipCommonTable_noAs {X raw R : Text} (h : readIdentifierToken X = some (raw, R))
    (hR : NoAs (skipColumns R)) : skipCommonTable X = none := by
  unfold skipCommonTable
  rw [h]
  simp only [Option.bind_eq_bind, Option.bind_some, skipAs]
  rw [hR]
  rfl

/-- where the name consists of characters that `\s` takes, the next word is taken for the name, and
`AS` is missed -/
theorem skipCommonTable_nameless {t : CommonTable} (ht : CommonTableBalanced t) {R : Text}
    (hR : NoAs R) : skipCommonTable (fromName t R) = none := by
  have hcolumns : ∀ c, t.columns = some c → readIdentifierToken (fromName t R) = none := by
    intro c hc
    unfold fromName
    rw [hc, readIdentifierToken_seam]
    exact readIdentifierToken_none (by decide) (by decide) (by decide)
  cases hc : t.columns with
  | some c => exact skipCommonTable_none (hcolumns c hc)
  | none =>
    have hends : Ends (fromAs t R) := by
      cases hh : t.hint with
      | some h => exact ends_seam (t.hintApart (by rw [hh]; simp)) _
      | none =>
        cases hs : t.afterAs with
        | nil =>
          unfold fromAs
          rw [hs, hh]
          exact ends_cons (by decide) _
        | cons b s => exact ends_seam (by rw [hs]; simp) _
    obtain ⟨c, w, hw, -⟩ := word_cons t.asWord (by decide)
    have hletter := word_letters t.asWord (by decide) c (hw ▸ List.mem_cons_self ..)
    have hread : readIdentifierToken (fromName t R) = some (t.asWord.text, fromAs t R) := by
      unfold fromName
      rw [hc, readIdentifierToken_seam]
      simp only [Option.elim_none, List.nil_append]
      rw [hw]
      refine readIdentifierToken_bare ?_ (isJsSpace_letter hletter) ?_ hends
      · simp [isIdStart, hletter]
      · intro d hd
        exact isIdChar_of_letter (word_letters t.asWord (by decide) d (hw ▸ List.mem_cons_of_mem _ hd))
    refine skipCommonTable_noAs hread ?_
    unfold NoAs fromAs
    cases hh : t.hint with
    | none =>
      simp only [Option.elim_none, List.nil_append]
      rw [skipColumns_parens ht.1, skipSpaces_seam]
      exact hR
    | some h =>
      simp only [Option.elim_some, Hint.print]
      cases h.not with
      | none =>
        simp only [Option.elim_none, List.nil_append, List.append_assoc]
        rw [skipColumns_word _ _ (by decide) (by decide), skipSpaces_seam,
          skipSpaces_word _ (by decide) (by decide), keyword_other _ (by decide) (by decide) (by decide)]
      | some n =>
        simp only [Option.elim_some, List.append_assoc]
        rw [skipColumns_word _ _ (by decide) (by decide), skipSpaces_seam,
          skipSpaces_word _ (by decide) (by decide), keyword_other _ (by decide) (by decide) (by decide)]

theorem skipCommonTable_congr {X Y : Text} (h : readIdentifierToken X = readIdentifierToken Y) :
    skipCommonTable X = skipCommonTable Y := by
  unfold skipCommonTable
  rw [h]

theorem skipSpaces_split (s : Text) :
    ∃ t, s = t ++ skipSpaces s ∧ ∀ c ∈ t, isJsSpace c :=
  ⟨s.takeWhile isJsSpace, (List.takeWhile_append_dropWhile ..).symm, fun _ hc =>
    List.mem_takeWhile_imp hc⟩

theorem skipSpaces_head {s t : Text} {c : Char} (h : skipSpaces s = c :: t) : isJsSpace c = false := by
  have := skipSpaces_idem s
  rw [h, skipSpaces, List.dropWhile_cons] at this
  cases hc : isJsSpace c with
  | false => rfl
  | true =>
    rw [if_pos hc] at this
    have hlen := (List.dropWhile_suffix isJsSpace (l := t)).length_le
    rw [this, List.length_cons] at hlen
    omega

/-- a name without quotes, as far as it is there -/
theorem skipCommonTable_bare {t : CommonTable} (ht : CommonTableBalanced t) {n R : Text}
    (hn : ∀ c ∈ n, isIdChar c) (hends : n ≠ [] → Ends (fromName t R)) (hR : NoAs R) :
    skipCommonTable (n ++ fromName t R) =
      if startsIdentifier n then some (cleanSeam t.afterBody ++ R) else none := by
  obtain ⟨w, hw, hspaces⟩ := skipSpaces_split n
  have hread : readIdentifierToken (n ++ fromName t R) =
      readIdentifierToken (skipSpaces n ++ fromName t R) := by
    conv_lhs => rw [hw]
    rw [List.append_assoc, readIdentifierToken_spaces hspaces]
  rw [skipCommonTable_congr hread, startsIdentifier]
  cases hs : skipSpaces n with
  | nil => exact skipCommonTable_nameless ht hR
  | cons c s =>
    have hne : n ≠ [] := by
      rintro rfl
      cases hs
    have hmem : ∀ d ∈ c :: s, isIdChar d := by
      intro d hd
      rw [← hs] at hd
      exact hn d ((List.dropWhile_suffix isJsSpace).subset hd)
    have hspace := skipSpaces_head hs
    have hany : Option.any isIdStart (c :: s).head? = isIdStart c := rfl
    rw [hany]
    by_cases hc : isIdStart c
    · rw [if_pos hc]
      exact skipCommonTable_of_name ht (readIdentifierToken_bare hc hspace
        (fun d hd => hmem d (List.mem_cons_of_mem _ hd)) (hends hne))
    · rw [if_neg hc]
      have hid := hmem c (List.mem_cons_self ..)
      have hq : ¬ (c = '"' ∨ c = '\x60' ∨ c = '[') := by
        rintro (h | h | h)
        · exact isIdChar_ne hid (by decide) h
        · exact isIdChar_ne hid (by decide) h
        · exact isIdChar_ne hid (by decide) h
      exact skipCommonTable_none (readIdentifierToken_none hspace hq (by simpa using hc))

theorem ends_fromName {t : CommonTable} (h : t.columns = none → t.afterName ≠ []) (R : Text) :
    Ends (fromName t R) := by
  by_cases hs : t.afterName = []
  · cases hc : t.columns with
    | none => exact absurd hs (h hc)
    | some c =>
      unfold fromName
      rw [hs, hc]
      exact ends_cons (by decide) _
  · exact ends_seam hs _

theorem apart_clean (s : Seam) {R : Text} (h : Apart R) : Apart (cleanSeam s ++ R) := by
  by_cases hs : s = []
  · rw [hs]
    exact h
  · obtain ⟨c, t, hc, hb⟩ := clean_cons hs
    rw [hc]
    exact apart_cons (isBlank_plain hb).1 _

theorem apart_fromName (t : CommonTable) (R : Text) : Apart (fromName t R) := by
  refine apart_clean _ ?_
  cases t.columns with
  | none => exact apart_keyword _ (by decide) (by decide) _
  | some c => exact apart_cons (by decide) _

/-- **one table** -/
theorem skipCommonTable_print {t : CommonTable} (ht : CommonTableBalanced t) {R : Text} (hR : NoAs R) :
    skipCommonTable (t.print cleanSeam cleanParens ++ R) =
      if readable t.name then some (cleanSeam t.afterBody ++ R) else none := by
  rw [print_commonTable]
  cases hn : t.name with
  | bare n start chars =>
    have hbare : t.columns = none → t.afterName ≠ [] := fun hc => t.nameApart hc (by rw [hn]; rfl)
    exact skipCommonTable_bare ht chars (fun _ => ends_fromName hbare R) hR
  | quoted q s =>
    cases q with
    | single => exact skipCommonTable_none (readIdentifierToken_string s _)
    | double =>
      exact skipCommonTable_of_name ht (readIdentifierToken_quoted (by decide) (apart_fromName t R) s)
    | backtick =>
      exact skipCommonTable_of_name ht (readIdentifierToken_quoted (by decide) (apart_fromName t R) s)
  | bracketed s hs => exact skipCommonTable_of_name ht (readIdentifierToken_bracketed hs _)

/-! ## all tables -/

theorem skipCommonTables_eq (s : Text) : skipCommonTables s =
    (skipCommonTable s).bind fun t => ((skipComma t).elim (some t) skipCommonTables) := by
  rw [skipCommonTables]
  split
  · rename_i h
    rw [h]
    rfl
  · rename_i t h
    rw [h, Option.bind_some]
    split
    · rename_i u hu
      rw [hu]
      rfl
    · rename_i hu
      rw [hu]
      rfl

theorem skipCommonTables_congr {X Y : Text} (h : readIdentifierToken X = readIdentifierToken Y) :
    skipCommonTables X = skipCommonTables Y := by
  rw [skipCommonTables_eq, skipCommonTables_eq, skipCommonTable_congr h]

/-- the tables behind the first one -/
def printOthers (l : List (Seam × CommonTable)) : Text :=
  l.flatMap fun t => ',' :: (cleanSeam t.1 ++ t.2.print cleanSeam cleanParens)

/-- the statement proper: it starts with a word that is not `AS` -/
def Terminal (R : Text) : Prop := ∃ c s, R = c :: s ∧ isAsciiLetter c ∧ lowerAscii c ≠ 'a'

theorem Terminal.noAs {R : Text} (h : Terminal R) : NoAs R := by
  obtain ⟨c, s, rfl, hc, ha⟩ := h
  unfold NoAs
  rw [skipSpaces_cons (isJsSpace_letter hc)]
  exact keyword_none (by decide) fun h => ha (Option.some.inj h).symm

theorem Terminal.noComma {R : Text} (h : Terminal R) (s : Seam) :
    skipComma (cleanSeam s ++ R) = none := by
  obtain ⟨c, s, rfl, hc, -⟩ := h
  have hne : c ≠ ',' := isIdChar_ne (isIdChar_of_letter hc) (by decide)
  unfold skipComma
  rw [skipSpaces_seam, skipSpaces_cons (isJsSpace_letter hc)]
  split
  · rename_i u heq
    exact absurd (List.cons.inj heq).1 hne
  · rfl

theorem noAs_others (l : List (Seam × CommonTable)) {R : Text} (hR : Terminal R) :
    NoAs (printOthers l ++ R) := by
  cases l with
  | nil => exact hR.noAs
  | cons t l =>
    show keyword "as" (skipSpaces (',' :: _)) = none
    rw [skipSpaces_cons (by decide)]
    exact keyword_none (by decide) (by decide)

theorem skipComma_others (s : Seam) (t : Seam × CommonTable) (l : List (Seam × CommonTable)) (R : Text) :
    skipComma (cleanSeam s ++ (printOthers (t :: l) ++ R)) =
      some (skipSpaces (t.2.print cleanSeam cleanParens ++ (printOthers l ++ R))) := by
  have hcons : printOthers (t :: l) ++ R =
      ',' :: (cleanSeam t.1 ++ (t.2.print cleanSeam cleanParens ++ (printOthers l ++ R))) := by
    simp [printOthers]
  unfold skipComma
  rw [skipSpaces_seam, hcons, skipSpaces_cons (by decide)]
  exact congrArg some (skipSpaces_seam _ _)

/-- **the tables behind the first one** -/
theorem skipCommonTables_others {R : Text} (hR : Terminal R) :
    ∀ (l : List (Seam × CommonTable)), (∀ t ∈ l, CommonTableBalanced t.2) → ∀ s : Seam,
      if l.all fun t => readable t.2.name then
        ∃ s', ((skipComma (cleanSeam s ++ (printOthers l ++ R))).elim
          (some (cleanSeam s ++ (printOthers l ++ R))) skipCommonTables) = some (cleanSeam s' ++ R)
      else ((skipComma (cleanSeam s ++ (printOthers l ++ R))).elim
          (some (cleanSeam s ++ (printOthers l ++ R))) skipCommonTables) = none
  | [], _, s => by
    have hcomma : skipComma (cleanSeam s ++ (printOthers [] ++ R)) = none := hR.noComma s
    rw [hcomma]
    exact ⟨s, rfl⟩
  | t :: l, hl, s => by
    have ih := skipCommonTables_others hR l (fun u hu => hl u (List.mem_cons_of_mem _ hu)) t.2.afterBody
    have htable := skipCommonTable_print (hl t (List.mem_cons_self ..)) (noAs_others l hR)
    rw [skipComma_others, Option.elim_some, skipCommonTables_congr (readIdentifierToken_skipSpaces _),
      skipCommonTables_eq, htable]
    cases hread : readable t.2.name with
    | false => simp [hread]
    | true =>
      simp only [List.all_cons, hread, Bool.true_and]
      exact ih

end SqlSafety
