import CloudflareShard.SqlSafety.Scan

/-!
# Comments and parentheses of well-formed text

* `strip_word`, `strip_name`, `strip_seam`   stripping goes token by token;
* `strip_parens`, `skip_parens`              **balanced text is skipped whole**;
* `strip_mutation`                           **a stripped statement is the statement without comments**.
-/

namespace SqlSafety
open Sqlite.Grammar

theorem isIdChar_ne {c d : Char} (hc : isIdChar c) (hd : isIdChar d = false) : c ≠ d := by
  rintro rfl
  rw [hd] at hc
  cases hc

/-! ## spans -/

theorem walkSpan_cons_ne {close c : Char} (hc : c ≠ close) (escapable : Bool) (s : Text) :
    walkSpan close escapable (c :: s) = (walkSpan close escapable s).cons c := by
  cases s with
  | nil => simp [walkSpan, QuoteSpan.cons, hc]
  | cons d s => rw [walkSpan, if_neg hc]

theorem walkSpan_escape (q : Quote) {rest : Text} (h : rest.head? ≠ some q.char) (s : Text) :
    walkSpan q.char true (q.escape s ++ q.char :: rest) =
      { span := q.escape s ++ [q.char], rest := rest, terminated := true } := by
  induction s with
  | nil =>
    cases rest with
    | nil => simp [walkSpan, Quote.escape]
    | cons d rest =>
      have hd : d ≠ q.char := fun hd => h (by rw [hd]; rfl)
      simp [walkSpan, Quote.escape, hd]
  | cons c s ih =>
    by_cases hc : c = q.char
    · have hesc : q.escape (c :: s) = q.char :: q.char :: q.escape s := by
        simp [Quote.escape, hc]
      rw [hesc, List.cons_append, List.cons_append, walkSpan, if_pos rfl, ih]
      simp [QuoteSpan.cons]
    · have hesc : q.escape (c :: s) = c :: q.escape s := by
        simp [Quote.escape, hc]
      rw [hesc, List.cons_append, walkSpan_cons_ne hc, ih]
      rfl

theorem walkSpan_bracket {s : Text} (h : ']' ∉ s) (rest : Text) :
    walkSpan ']' false (s ++ ']' :: rest) =
      { span := s ++ [']'], rest := rest, terminated := true } := by
  induction s with
  | nil => cases rest <;> simp [walkSpan]
  | cons c s ih =>
    have hc : c ≠ ']' := fun hc => h (hc ▸ List.mem_cons_self ..)
    rw [List.cons_append, walkSpan_cons_ne hc, ih fun hs => h (List.mem_cons_of_mem _ hs)]
    rfl

theorem skipQuoteSpan_span (q : Quote) {rest : Text} (h : rest.head? ≠ some q.char) (s : Text) :
    skipQuoteSpan (q.span s ++ rest) = { span := q.span s, rest := rest, terminated := true } := by
  have hw := walkSpan_escape q h s
  have hopen : q.char = '\'' ∨ q.char = '"' ∨ q.char = '\x60' := by cases q <;> decide
  rw [Quote.span, List.cons_append, List.append_assoc, List.singleton_append, skipQuoteSpan,
    if_pos hopen, hw]
  rfl

theorem skipQuoteSpan_bracket {s : Text} (h : ']' ∉ s) (rest : Text) :
    skipQuoteSpan (bracketSpan s ++ rest) =
      { span := bracketSpan s, rest := rest, terminated := true } := by
  rw [bracketSpan, List.cons_append, List.append_assoc, List.singleton_append, skipQuoteSpan,
    if_neg (by decide), if_pos rfl, walkSpan_bracket h]
  rfl

theorem isQuoteOpen_quote (q : Quote) : isQuoteOpen q.char := by cases q <;> decide

/-! ## comments -/

abbrev strip := stripCommentsPreservingStrings

theorem strip_span (q : Quote) {rest : Text} (h : rest.head? ≠ some q.char) (s : Text) :
    strip (q.span s ++ rest) = q.span s ++ strip rest := by
  have hs := skipQuoteSpan_span q h s
  have hcons : q.span s ++ rest = q.char :: (q.escape s ++ [q.char] ++ rest) := rfl
  rw [hcons] at hs ⊢
  rw [strip, stripCommentsPreservingStrings, dif_pos (isQuoteOpen_quote q), hs]

theorem strip_bracket {s : Text} (h : ']' ∉ s) (rest : Text) :
    strip (bracketSpan s ++ rest) = bracketSpan s ++ strip rest := by
  have hs := skipQuoteSpan_bracket h rest
  have hcons : bracketSpan s ++ rest = '[' :: (s ++ [']'] ++ rest) := rfl
  rw [hcons] at hs ⊢
  rw [strip, stripCommentsPreservingStrings, dif_pos (by decide), hs]

/-- a character that opens nothing is kept -/
theorem strip_char {c : Char} {s : Text} (hq : isQuoteOpen c = false)
    (hl : ¬ (c = '-' ∧ s.head? = some '-')) (hb : ¬ (c = '/' ∧ s.head? = some '*')) :
    strip (c :: s) = c :: strip s := by
  rw [strip, stripCommentsPreservingStrings, dif_neg (by rw [hq]; decide)]
  split
  · exact absurd ⟨rfl, rfl⟩ hl
  · exact absurd ⟨rfl, rfl⟩ hb
  · rfl

theorem strip_mark {c : Char} (hq : isQuoteOpen c = false) (hd : c ≠ '-') (hs : c ≠ '/') (s : Text) :
    strip (c :: s) = c :: strip s :=
  strip_char hq (fun h => hd h.1) fun h => hs h.1

theorem strip_idChar {c : Char} (h : isIdChar c) (s : Text) : strip (c :: s) = c :: strip s := by
  have hq : isQuoteOpen c = false := by
    have h₁ : c ≠ '\'' := isIdChar_ne h (by decide)
    have h₂ : c ≠ '"' := isIdChar_ne h (by decide)
    have h₃ : c ≠ '\x60' := isIdChar_ne h (by decide)
    have h₄ : c ≠ '[' := isIdChar_ne h (by decide)
    simp [isQuoteOpen, h₁, h₂, h₃, h₄]
  exact strip_mark hq (isIdChar_ne h (by decide)) (isIdChar_ne h (by decide)) s

theorem strip_word {w : Text} (h : ∀ c ∈ w, isIdChar c) (rest : Text) :
    strip (w ++ rest) = w ++ strip rest := by
  induction w with
  | nil => rfl
  | cons c w ih =>
    rw [List.cons_append, strip_idChar (h c (List.mem_cons_self ..)),
      ih fun d hd => h d (List.mem_cons_of_mem _ hd)]
    rfl

theorem fromNewline_append {s : Text} (h : '\n' ∉ s) (rest : Text) :
    fromNewline (s ++ '\n' :: rest) = '\n' :: rest := by
  induction s with
  | nil => rfl
  | cons c s ih =>
    have hc : c ≠ '\n' := fun hc => h (hc ▸ List.mem_cons_self ..)
    rw [List.cons_append, fromNewline, List.dropWhile_cons, if_pos (by simpa using hc)]
    exact ih fun hs => h (List.mem_cons_of_mem _ hs)

theorem afterBlockEnd_append : ∀ {s : Text}, noBlockEnd s → ∀ rest : Text,
    afterBlockEnd (s ++ '*' :: '/' :: rest) = rest
  | [], _, rest => rfl
  | [c], _, rest => by
    rw [List.cons_append, List.nil_append, afterBlockEnd]
    · rfl
    · rintro s rfl h
      simp at h
  | c :: d :: s, h, rest => by
    have hcd : ¬ (c = '*' ∧ d = '/') := by
      rintro ⟨rfl, rfl⟩
      cases h
    have htail : noBlockEnd (d :: s) := by
      rw [noBlockEnd] at h
      · exact h
      · rintro t rfl heq
        exact hcd ⟨rfl, (List.cons.inj heq).1⟩
    rw [List.cons_append, afterBlockEnd]
    · exact afterBlockEnd_append htail rest
    · rintro t rfl heq
      exact hcd ⟨rfl, (List.cons.inj heq).1⟩

/-- what is left of a blank -/
def cleanBlank : Blank → Text
  | .space c _ => [c]
  | .line .. => [' ', '\n']
  | .block .. => [' ']

def cleanSeam (s : Seam) : Text := s.flatMap cleanBlank

theorem isBlank_plain {c : Char} (h : isBlank c) : isQuoteOpen c = false ∧ c ≠ '-' ∧ c ≠ '/' := by
  simp only [isBlank, Bool.or_eq_true, beq_iff_eq] at h
  obtain (((rfl | rfl) | rfl) | rfl) | rfl := h <;> decide

theorem strip_blank (b : Blank) (rest : Text) : strip (b.text ++ rest) = cleanBlank b ++ strip rest := by
  cases b with
  | space c h =>
    obtain ⟨hq, hd, hs⟩ := isBlank_plain h
    exact strip_mark hq hd hs rest
  | line s h =>
    show strip ('-' :: '-' :: (s ++ ['\n'] ++ rest)) = _
    rw [strip, stripCommentsPreservingStrings, dif_neg (by decide)]
    simp only [List.append_assoc, List.singleton_append]
    rw [fromNewline_append h]
    exact congrArg _ (strip_mark (by decide) (by decide) (by decide) rest)
  | block s h =>
    show strip ('/' :: '*' :: (s ++ ['*', '/'] ++ rest)) = _
    rw [strip, stripCommentsPreservingStrings, dif_neg (by decide)]
    simp only [List.append_assoc, List.cons_append, List.nil_append]
    rw [afterBlockEnd_append h]
    rfl

theorem strip_seam (s : Seam) (rest : Text) : strip (s.text ++ rest) = cleanSeam s ++ strip rest := by
  induction s with
  | nil => rfl
  | cons b s ih =>
    have htext : Seam.text (b :: s) = b.text ++ Seam.text s := rfl
    have hclean : cleanSeam (b :: s) = cleanBlank b ++ cleanSeam s := rfl
    rw [htext, hclean, List.append_assoc, strip_blank, ih, List.append_assoc]

/-! ## balanced text -/

/-- a stripped text starts as it did, or with the space of a comment -/
theorem strip_head (c : Char) (s : Text) :
    (strip (c :: s)).head? = some c ∨ (strip (c :: s)).head? = some ' ' := by
  rw [strip, stripCommentsPreservingStrings]
  split
  · left
    rename_i h
    have hcons : ∃ q : QuoteSpan, skipQuoteSpan (c :: s) = q.cons c := by
      simp only [isQuoteOpen, Bool.or_eq_true, beq_iff_eq] at h
      simp only [skipQuoteSpan]
      split_ifs with h₁ h₂
      · exact ⟨_, rfl⟩
      · exact ⟨_, rfl⟩
      · tauto
    obtain ⟨q, hq⟩ := hcons
    rw [hq]
    rfl
  · split
    · exact .inr rfl
    · exact .inr rfl
    · exact .inl rfl

/-- a quote is not doubled by what stripping moves behind it -/
theorem strip_apart {q : Quote} {s R : Text} (hs : s.head? ≠ some q.char) (hR : R.head? ≠ some q.char) :
    (strip s ++ R).head? ≠ some q.char := by
  cases s with
  | nil =>
    rw [strip, stripCommentsPreservingStrings]
    exact hR
  | cons c s =>
    have hspace : (' ' : Char) ≠ q.char := by cases q <;> decide
    have hc : c ≠ q.char := fun hc => hs (by rw [hc]; rfl)
    cases h : strip (c :: s) with
    | nil =>
      have := strip_head c s
      simp [h] at this
    | cons d t =>
      have hd := strip_head c s
      rw [h] at hd
      simp only [List.head?_cons, Option.some.injEq, List.cons_append] at hd ⊢
      rcases hd with rfl | rfl
      · simpa using hc
      · simpa using hspace

theorem skip_char {c : Char} {s : Text} (d : Int) (hq : isQuoteOpen c = false) (ho : c ≠ '(')
    (hc : c ≠ ')') : skipBalancedParens d (c :: s) = skipBalancedParens d s := by
  rw [skipBalancedParens, dif_neg (by rw [hq]; decide), if_neg ho, if_neg hc]

theorem skip_span (q : Quote) {rest : Text} (h : rest.head? ≠ some q.char) (s : Text) (d : Int) :
    skipBalancedParens d (q.span s ++ rest) = skipBalancedParens d rest := by
  have hs := skipQuoteSpan_span q h s
  have hcons : q.span s ++ rest = q.char :: (q.escape s ++ [q.char] ++ rest) := rfl
  rw [hcons] at hs ⊢
  rw [skipBalancedParens, dif_pos (isQuoteOpen_quote q), hs]

theorem skip_bracket {s : Text} (h : ']' ∉ s) (rest : Text) (d : Int) :
    skipBalancedParens d (bracketSpan s ++ rest) = skipBalancedParens d rest := by
  have hs := skipQuoteSpan_bracket h rest
  have hcons : bracketSpan s ++ rest = '[' :: (s ++ [']'] ++ rest) := rfl
  rw [hcons] at hs ⊢
  rw [skipBalancedParens, dif_pos (by decide), hs]

theorem skip_blank (b : Blank) (rest : Text) (d : Int) :
    skipBalancedParens d (cleanBlank b ++ rest) = skipBalancedParens d rest := by
  cases b with
  | space c h =>
    have hq := (isBlank_plain h).1
    refine skip_char d hq ?_ ?_ <;>
    · rintro rfl
      revert h
      decide
  | line => 
    exact (skip_char d (by decide) (by decide) (by decide)).trans
      (skip_char d (by decide) (by decide) (by decide))
  | block => exact skip_char d (by decide) (by decide) (by decide)

theorem skip_open (d : Int) (s : Text) :
    skipBalancedParens d ('(' :: s) = skipBalancedParens (d + 1) s := by
  rw [skipBalancedParens, dif_neg (by decide), if_pos rfl]

theorem skip_close {d : Int} (hd : 1 ≤ d) (s : Text) :
    skipBalancedParens (d + 1) (')' :: s) = skipBalancedParens d s := by
  rw [skipBalancedParens, dif_neg (by decide), if_neg (by decide), if_pos rfl, if_neg (by omega)]
  congr 1
  omega

theorem strip_close (s : Text) : strip (')' :: s) = ')' :: strip s :=
  strip_mark (by decide) (by decide) (by decide) s

theorem strip_open (s : Text) : strip ('(' :: s) = '(' :: strip s :=
  strip_mark (by decide) (by decide) (by decide) s

/-- the text between two parentheses: the comments of the inside go, and the scanner of parentheses
goes over it -/
theorem strip_body {inner : Text} (h : Body False inner) :
    (∀ rest, strip (inner ++ ')' :: rest) = strip inner ++ ')' :: strip rest) ∧
      ∀ (d : Int) (R : Text), 1 ≤ d →
        skipBalancedParens d (strip inner ++ ')' :: R) = skipBalancedParens d (')' :: R) := by
  induction h with
  | nil =>
    have hnil : strip [] = [] := by rw [strip, stripCommentsPreservingStrings]
    rw [hnil]
    exact ⟨fun rest => strip_close rest, fun d R _ => rfl⟩
  | @char c tail plain _ ih =>
    simp only [isPlain, Bool.and_eq_true, Bool.not_eq_true', bne_iff_ne, ne_eq,
      Bool.and_eq_false_iff, beq_eq_false_iff_ne] at plain
    obtain ⟨⟨⟨⟨hq, ho⟩, hc⟩, hl⟩, hb⟩ := plain
    have hstrip : ∀ s : Text, s.head? = tail.head? ∨ s.head? = some ')' →
        strip (c :: s) = c :: strip s := by
      rintro s (hs | hs)
      · exact strip_char hq (by rw [hs]; tauto) (by rw [hs]; tauto)
      · exact strip_char hq (by rw [hs]; simp) (by rw [hs]; simp)
    have hhead : ∀ rest : Text, (tail ++ ')' :: rest).head? = tail.head? ∨
        (tail ++ ')' :: rest).head? = some ')' := by
      intro rest
      cases tail with
      | nil => exact .inr rfl
      | cons d tail => exact .inl rfl
    constructor
    · intro rest
      rw [List.cons_append, hstrip _ (hhead rest), ih.1, hstrip _ (.inl rfl)]
      rfl
    · intro d R hd
      rw [hstrip _ (.inl rfl), List.cons_append, skip_char d hq ho hc]
      exact ih.2 d R hd
  | @span q value tail apart _ ih =>
    have hclose : ∀ rest : Text, (')' :: rest).head? ≠ some q.char := by
      intro rest
      cases q <;> simp [Quote.char]
    have happart : ∀ rest : Text, (tail ++ ')' :: rest).head? ≠ some q.char := by
      intro rest
      cases tail with
      | nil => exact hclose rest
      | cons d tail => exact apart
    constructor
    · intro rest
      rw [List.append_assoc, strip_span q (happart rest), ih.1, strip_span q apart, List.append_assoc]
    · intro d R hd
      rw [strip_span q apart, List.append_assoc, skip_span q (strip_apart apart (hclose R))]
      exact ih.2 d R hd
  | bracket noClose _ ih =>
    constructor
    · intro rest
      rw [List.append_assoc, strip_bracket noClose, ih.1, strip_bracket noClose, List.append_assoc]
    · intro d R hd
      rw [strip_bracket noClose, List.append_assoc, skip_bracket noClose]
      exact ih.2 d R hd
  | blank b _ ih =>
    constructor
    · intro rest
      rw [List.append_assoc, strip_blank, ih.1, strip_blank, List.append_assoc]
    · intro d R hd
      rw [strip_blank, List.append_assoc, skip_blank]
      exact ih.2 d R hd
  | @parens inner tail _ _ ih₁ ih₂ =>
    have hstrip : strip ('(' :: (inner ++ ')' :: tail)) = '(' :: (strip inner ++ ')' :: strip tail) := by
      rw [strip_open, ih₁.1]
    constructor
    · intro rest
      rw [List.cons_append, List.append_assoc, List.cons_append, strip_open, ih₁.1, ih₂.1, hstrip]
      simp
    · intro d R hd
      rw [hstrip, List.cons_append, List.append_assoc, List.cons_append, skip_open,
        ih₁.2 _ _ (by omega), skip_close hd]
      exact ih₂.2 d R hd
  | wildVariable isWild => exact isWild.elim

/-- what is left of a text in parentheses -/
def cleanParens (p : Parens) : Text := '(' :: (strip p.inner ++ [')'])

theorem strip_parens {p : Parens} (h : p.Balanced) (rest : Text) :
    strip (p.text ++ rest) = cleanParens p ++ strip rest := by
  rw [Parens.text, List.cons_append, strip_open, List.append_assoc, List.singleton_append,
    (strip_body h).1]
  simp [cleanParens]

theorem skip_parens {p : Parens} (h : p.Balanced) (rest : Text) :
    skipBalancedParens 0 (cleanParens p ++ rest) = rest := by
  rw [cleanParens, List.cons_append, skip_open, List.append_assoc, List.singleton_append,
    (strip_body h).2 _ _ (by decide), skipBalancedParens, dif_neg (by decide), if_neg (by decide),
    if_pos rfl, if_pos (by decide)]

/-! ## statements -/

theorem isAsciiLetter_of_lower {c : Char} (h : isAsciiLetter (lowerAscii c)) : isAsciiLetter c := by
  unfold lowerAscii at h
  split at h
  · rename_i hc
    simp [isAsciiLetter, hc.1, hc.2]
  · exact h

theorem isIdChar_of_letter {c : Char} (h : isAsciiLetter c) : isIdChar c := by
  simp [isIdChar, h]

theorem letters_of_lower {s keyword : Text} (h : lowerText s = keyword)
    (hk : ∀ c ∈ keyword, isAsciiLetter c) : ∀ c ∈ s, isAsciiLetter c := by
  intro c hc
  refine isAsciiLetter_of_lower (hk _ ?_)
  rw [← h]
  exact List.mem_map.mpr ⟨c, hc, rfl⟩

section
variable {keyword : String} (w : Word keyword)

theorem word_letters (hk : keyword.toList.all isAsciiLetter) : ∀ c ∈ w.text, isAsciiLetter c :=
  letters_of_lower w.spelled (List.all_eq_true.mp hk)

theorem word_ne_nil (hk : keyword.toList ≠ []) : w.text ≠ [] := by
  intro h
  have hs := w.spelled
  rw [h] at hs
  exact hk hs.symm

theorem strip_keyword (hk : keyword.toList.all isAsciiLetter) (rest : Text) :
    strip (w.text ++ rest) = w.text ++ strip rest :=
  strip_word (fun c hc => isIdChar_of_letter (word_letters w hk c hc)) rest

end

/-- the text starts no span, so that it does not go on with one before it -/
def Apart (s : Text) : Prop := ∀ c ∈ s.head?, isQuoteOpen c = false

theorem Apart.ne {s : Text} (h : Apart s) (q : Quote) : s.head? ≠ some q.char := fun hs => by
  have := h _ hs
  rw [isQuoteOpen_quote] at this
  cases this

theorem apart_cons {c : Char} (h : isQuoteOpen c = false) (s : Text) : Apart (c :: s) := by
  intro d hd
  cases hd
  exact h

theorem isQuoteOpen_letter {c : Char} (h : isAsciiLetter c) : isQuoteOpen c = false := by
  have hid := isIdChar_of_letter h
  have h₁ : c ≠ '\'' := isIdChar_ne hid (by decide)
  have h₂ : c ≠ '"' := isIdChar_ne hid (by decide)
  have h₃ : c ≠ '\x60' := isIdChar_ne hid (by decide)
  have h₄ : c ≠ '[' := isIdChar_ne hid (by decide)
  simp [isQuoteOpen, h₁, h₂, h₃, h₄]

theorem apart_keyword {keyword : String} (w : Word keyword) (hk : keyword.toList.all isAsciiLetter)
    (hne : keyword.toList ≠ []) (s : Text) : Apart (w.text ++ s) := by
  cases h : w.text with
  | nil => exact absurd h (word_ne_nil w hne)
  | cons c t => exact apart_cons (isQuoteOpen_letter (word_letters w hk c (h ▸ List.mem_cons_self ..))) _

theorem apart_seam (s : Seam) {R : Text} (h : Apart R) : Apart (s.text ++ R) := by
  cases s with
  | nil => exact h
  | cons b s =>
    cases b with
    | space c hc => exact apart_cons (isBlank_plain hc).1 _
    | line => exact apart_cons (by decide) _
    | block => exact apart_cons (by decide) _

theorem apart_parens (p : Parens) (s : Text) : Apart (p.text ++ s) := apart_cons (by decide) _

theorem strip_name (n : Name) {rest : Text} (h : Apart rest) :
    strip (n.text ++ rest) = n.text ++ strip rest := by
  cases n with
  | bare s _ chars => exact strip_word chars rest
  | quoted q s => exact strip_span q (h.ne q) s
  | bracketed s hs => exact strip_bracket hs rest

theorem strip_hint (h : Hint) (rest : Text) :
    strip (h.print Seam.text ++ rest) = h.print cleanSeam ++ strip rest := by
  unfold Hint.print
  cases h.not with
  | none =>
    simp only [Option.elim_none, List.nil_append, List.append_assoc]
    rw [strip_keyword _ (by decide), strip_seam]
  | some n =>
    simp only [Option.elim_some, List.append_assoc]
    rw [strip_keyword _ (by decide), strip_seam, strip_keyword _ (by decide), strip_seam]

/-- the scanners of parentheses can follow the table -/
def CommonTableBalanced (t : CommonTable) : Prop :=
  t.body.Balanced ∧ ∀ c ∈ t.columns, c.1.Balanced

theorem strip_commonTable {t : CommonTable} (h : CommonTableBalanced t) (rest : Text) :
    strip (t.print Seam.text Parens.text ++ rest) = t.print cleanSeam cleanParens ++ strip rest := by
  have hhint : ∀ R : Text, strip (t.hint.elim [] (Hint.print Seam.text) ++ R) =
      t.hint.elim [] (Hint.print cleanSeam) ++ strip R := by
    intro R
    cases t.hint with
    | none => rfl
    | some hint => exact strip_hint hint R
  have hfrom : ∀ R : Text, strip (t.asWord.text ++ (Seam.text t.afterAs ++
        (t.hint.elim [] (Hint.print Seam.text) ++ (t.body.text ++ (Seam.text t.afterBody ++ R))))) =
      t.asWord.text ++ (cleanSeam t.afterAs ++ (t.hint.elim [] (Hint.print cleanSeam) ++
        (cleanParens t.body ++ (cleanSeam t.afterBody ++ strip R)))) := by
    intro R
    rw [strip_keyword _ (by decide), strip_seam, hhint, strip_parens h.1, strip_seam]
  unfold CommonTable.print
  cases hc : t.columns with
  | none =>
    simp only [Option.elim_none, List.append_nil, List.append_assoc]
    rw [strip_name _ (apart_seam _ (apart_keyword _ (by decide) (by decide) _)), strip_seam, hfrom]
  | some c =>
    simp only [Option.elim_some, List.append_assoc]
    rw [strip_name _ (apart_seam _ (apart_parens _ _)), strip_seam, strip_parens (h.2 c hc),
      strip_seam, hfrom]

def WithBalanced (w : With) : Prop :=
  CommonTableBalanced w.first ∧ ∀ t ∈ w.others, CommonTableBalanced t.2

theorem strip_with {w : With} (h : WithBalanced w) (rest : Text) :
    strip (w.print Seam.text Parens.text ++ rest) = w.print cleanSeam cleanParens ++ strip rest := by
  have hothers : ∀ (l : List (Seam × CommonTable)), (∀ t ∈ l, CommonTableBalanced t.2) →
      strip ((l.flatMap fun t => ',' :: (Seam.text t.1 ++ t.2.print Seam.text Parens.text)) ++ rest) =
        (l.flatMap fun t => ',' :: (cleanSeam t.1 ++ t.2.print cleanSeam cleanParens)) ++ strip rest := by
    intro l
    induction l with
    | nil => exact fun _ => rfl
    | cons t l ih =>
      intro hl
      simp only [List.flatMap_cons, List.cons_append, List.append_assoc]
      rw [strip_mark (by decide) (by decide) (by decide), strip_seam,
        strip_commonTable (hl t (List.mem_cons_self ..)), ih fun u hu => hl u (List.mem_cons_of_mem _ hu)]
  unfold With.print
  cases w.recursive with
  | none =>
    simp only [Option.elim_none, List.append_nil, List.append_assoc]
    rw [strip_keyword _ (by decide), strip_seam, strip_commonTable h.1, hothers _ h.2]
  | some r =>
    simp only [Option.elim_some, List.append_assoc]
    rw [strip_keyword _ (by decide), strip_seam, strip_keyword _ (by decide), strip_seam,
      strip_commonTable h.1, hothers _ h.2]

theorem conflict_letters (c : Conflict) : ∀ d ∈ c.resolution, isAsciiLetter d := by
  obtain ⟨clause, hclause, h⟩ := c.known
  refine letters_of_lower h ?_
  have hall : ∀ clause ∈ conflictClauses, clause.toList.all isAsciiLetter := by decide
  exact List.all_eq_true.mp (hall clause hclause)

theorem strip_conflict (c : Option Conflict) (rest : Text) :
    strip (c.elim [] (Conflict.print Seam.text) ++ rest) =
      c.elim [] (Conflict.print cleanSeam) ++ strip rest := by
  cases c with
  | none => rfl
  | some c =>
    simp only [Option.elim_some, Conflict.print, List.append_assoc]
    rw [strip_seam, strip_keyword _ (by decide), strip_seam,
      strip_word fun d hd => isIdChar_of_letter (conflict_letters c d hd)]

theorem strip_verb (v : Verb) (rest : Text) :
    strip (v.print Seam.text ++ rest) = v.print cleanSeam ++ strip rest := by
  cases v with
  | insert word conflict gap into =>
    simp only [Verb.print, List.append_assoc]
    rw [strip_keyword _ (by decide), strip_conflict, strip_seam, strip_keyword _ (by decide)]
  | replace word gap into =>
    simp only [Verb.print, List.append_assoc]
    rw [strip_keyword _ (by decide), strip_seam, strip_keyword _ (by decide)]
  | update word conflict =>
    simp only [Verb.print, List.append_assoc]
    rw [strip_keyword _ (by decide), strip_conflict]
  | delete word gap fromWord =>
    simp only [Verb.print, List.append_assoc]
    rw [strip_keyword _ (by decide), strip_seam, strip_keyword _ (by decide)]

/-- the scanners of parentheses can follow the leading clause -/
def Balanced (m : Mutation) : Prop := ∀ w ∈ m.withClause, WithBalanced w

theorem apart_tail {s : Text} (h : isTail s) : Apart s := by
  intro c hc
  unfold isTail at h
  rw [Option.mem_def.mp hc] at h
  simp only [Option.all_some, Bool.or_eq_true, beq_iff_eq] at h
  obtain (h | rfl) | rfl := h
  · exact isQuoteOpen_letter h
  · decide
  · decide

/-- **stripping** -/
theorem strip_mutation {m : Mutation} (h : Balanced m) :
    strip m.text = m.print cleanSeam cleanParens (strip m.tail) := by
  have hwith : ∀ R : Text, strip (m.withClause.elim [] (With.print Seam.text Parens.text) ++ R) =
      m.withClause.elim [] (With.print cleanSeam cleanParens) ++ strip R := by
    intro R
    cases hw : m.withClause with
    | none => rfl
    | some w => exact strip_with (h w hw) R
  have hschema : ∀ R : Text,
      strip ((m.schema.elim [] fun s => s.1.text ++ (Seam.text s.2.1 ++ '.' :: Seam.text s.2.2)) ++ R) =
        (m.schema.elim [] fun s => s.1.text ++ (cleanSeam s.2.1 ++ '.' :: cleanSeam s.2.2))
          ++ strip R := by
    intro R
    cases m.schema with
    | none => rfl
    | some s =>
      simp only [Option.elim_some, List.append_assoc, List.cons_append]
      rw [strip_name _ (apart_seam _ (apart_cons (by decide) _)), strip_seam,
        strip_mark (by decide) (by decide) (by decide), strip_seam]
  simp only [Mutation.text, Mutation.print, List.append_assoc]
  rw [strip_seam, hwith, strip_verb, strip_seam, hschema,
    strip_name _ (apart_seam _ (apart_tail m.tailStart)), strip_seam]

/-- what follows the target starts as it did -/
theorem strip_tail {s : Text} (h : isTail s) : (strip s).head? = s.head? := by
  cases s with
  | nil => rw [strip, stripCommentsPreservingStrings]
  | cons c s =>
    have hc : isQuoteOpen c = false ∧ c ≠ '-' ∧ c ≠ '/' := by
      simp only [isTail, List.head?_cons, Option.all_some, Bool.or_eq_true, beq_iff_eq] at h
      obtain (h | rfl) | rfl := h
      · have hid := isIdChar_of_letter h
        exact ⟨isQuoteOpen_letter h, isIdChar_ne hid (by decide), isIdChar_ne hid (by decide)⟩
      · decide
      · decide
    rw [strip_mark hc.1 hc.2.1 hc.2.2]
    rfl

end SqlSafety
