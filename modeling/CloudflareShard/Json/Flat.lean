import CloudflareShard.Json.Text

/-!
# Flat objects in a row

Objects whose values are strings, words such as numbers, or `{}`, written one after the other with a
key before each and nothing in between.

* `Token`, `memberChars`, `objectChars`   the text of a value, of the rest of an object, of an object;
* `scan`                          a reader that knows quotes and braces;
* `objectChars_suffix`            an object never ends in another object;
* `memberChars_inj`               an object tells its members;
* `keyed_inj`                     **keys and objects are read off their concatenation**.
-/

namespace Json

/-! ## texts -/

/-- digits, signs and letters -/
structure Word (j : List Char) : Prop where
  plain : ∀ c ∈ j, c ≠ '"' ∧ c ≠ '\\' ∧ c ≠ '{' ∧ c ≠ '}' ∧ c ≠ ','
  nonempty : j ≠ []

inductive Token : List Char → Prop where
  | string (s : String) : Token (quote s).toList
  | word {j} (h : Word j) : Token j
  | empty : Token ['{', '}']

/-- a name, and the text of its value -/
abbrev Member := String × List Char

/-- the members after the first, and the closing brace -/
def memberChars : List Member → List Char
  | [] => ['}']
  | (name, j) :: l => ',' :: ((quote name).toList ++ ':' :: (j ++ memberChars l))

def objectChars : List Member → List Char
  | [] => ['{', '}']
  | (name, j) :: l => '{' :: ((quote name).toList ++ ':' :: (j ++ memberChars l))

/-! ## quoted strings -/

/-- what an escaped character stands for, and what follows it -/
def unescape : List Char → Option (Char × List Char)
  | '\\' :: '"' :: r => some ('"', r)
  | '\\' :: '\\' :: r => some ('\\', r)
  | '\\' :: 'b' :: r => some (Char.ofNat 8, r)
  | '\\' :: 't' :: r => some (Char.ofNat 9, r)
  | '\\' :: 'n' :: r => some (Char.ofNat 10, r)
  | '\\' :: 'f' :: r => some (Char.ofNat 12, r)
  | '\\' :: 'r' :: r => some (Char.ofNat 13, r)
  | '\\' :: 'u' :: _ :: _ :: h :: l :: r =>
    some (Char.ofNat (16 * (if h = '1' then 1 else 0) +
      "0123456789abcdef".toList.idxOf l), r)
  | c :: r => some (c, r)
  | [] => none

theorem char_eq_ofNat {c : Char} {n : Nat} (h : c.toNat = n) : c = Char.ofNat n := by
  rw [← h, Char.ofNat_toNat]

/-- the two hexadecimal digits of a control character tell it -/
theorem hexDigit_control : ∀ n < 32, 16 * (if hexDigit (n / 16) = '1' then 1 else 0) +
    "0123456789abcdef".toList.idxOf (hexDigit (n % 16)) = n := by decide

theorem unescape_unicode {n : Nat} (hn : n < 32) (r : List Char) :
    unescape ((unicodeEscape n).toList ++ r) = some (Char.ofNat n, r) := by
  have htext : (unicodeEscape n).toList =
      ['\\', 'u', '0', '0', hexDigit (n / 16), hexDigit (n % 16)] := by
    simp [unicodeEscape]
  rw [htext]
  show some (Char.ofNat (16 * (if hexDigit (n / 16) = '1' then 1 else 0) +
    "0123456789abcdef".toList.idxOf (hexDigit (n % 16))), r) = _
  rw [hexDigit_control n hn]

theorem unescape_escape (c : Char) (r : List Char) : unescape ((escape c).toList ++ r) = some (c, r) := by
  unfold escape
  split
  · rename_i h
    rw [h]
    rfl
  · rename_i hquote
    split
    · rename_i h
      rw [h]
      rfl
    · rename_i hslash
      split
      · rename_i h
        rw [char_eq_ofNat h]
        rfl
      · rename_i h
        rw [char_eq_ofNat h]
        rfl
      · rename_i h
        rw [char_eq_ofNat h]
        rfl
      · rename_i h
        rw [char_eq_ofNat h]
        rfl
      · rename_i h
        rw [char_eq_ofNat h]
        rfl
      · split
        · rename_i h
          rw [unescape_unicode h, Char.ofNat_toNat]
        · simp only [String.singleton_eq_ofList, String.toList_ofList, List.singleton_append]
          unfold unescape
          split <;> simp_all

theorem escape_ne_quote {c : Char} {r r' : List Char} : (escape c).toList ++ r ≠ '"' :: r' := by
  intro h
  have hc := unescape_escape c r
  rw [h] at hc
  obtain ⟨rfl, rfl⟩ := Prod.mk.inj (Option.some.inj hc)
  cases h

/-- the characters between the quotes -/
def stringChars (cs : List Char) : List Char := cs.flatMap fun c => (escape c).toList

theorem quote_toList (s : String) : (quote s).toList = '"' :: (stringChars s.toList ++ ['"']) := by
  simp [quote, stringChars, List.flatMap_map]

theorem stringChars_inj : ∀ {cs cs' r r' : List Char},
    stringChars cs ++ '"' :: r = stringChars cs' ++ '"' :: r' → cs = cs' ∧ r = r'
  | [], [], r, r', h => by simpa [stringChars] using h
  | [], c' :: cs', r, r', h => by
    have h : '"' :: r = (escape c').toList ++ (stringChars cs' ++ '"' :: r') := by
      simpa [stringChars] using h
    exact absurd h.symm escape_ne_quote
  | c :: cs, [], r, r', h => by
    have h : (escape c).toList ++ (stringChars cs ++ '"' :: r) = '"' :: r' := by
      simpa [stringChars] using h
    exact absurd h escape_ne_quote
  | c :: cs, c' :: cs', r, r', h => by
    have h : (escape c).toList ++ (stringChars cs ++ '"' :: r) =
        (escape c').toList ++ (stringChars cs' ++ '"' :: r') := by
      simpa [stringChars] using h
    have hread := unescape_escape c (stringChars cs ++ '"' :: r)
    rw [h, unescape_escape c'] at hread
    obtain ⟨rfl, hrest⟩ := Prod.mk.inj (Option.some.inj hread)
    obtain ⟨rfl, rfl⟩ := stringChars_inj hrest.symm
    exact ⟨rfl, rfl⟩

/-- a quoted string tells where it ends -/
theorem quote_inj {s s' : String} {r r' : List Char}
    (h : (quote s).toList ++ r = (quote s').toList ++ r') : s = s' ∧ r = r' := by
  rw [quote_toList, quote_toList] at h
  simp only [List.cons_append, List.append_assoc, List.cons.injEq, true_and, List.nil_append] at h
  obtain ⟨hs, hr⟩ := stringChars_inj h
  exact ⟨String.toList_inj.mp hs, hr⟩

/-! ## members -/

/-- what follows a value -/
def Follow (r : List Char) : Prop := ∃ c t, r = c :: t ∧ (c = ',' ∨ c = '}')

theorem follow_memberChars (l : List Member) : Follow (memberChars l) := by
  cases l with
  | nil => exact ⟨_, _, rfl, .inr rfl⟩
  | cons m l => exact ⟨_, _, rfl, .inl rfl⟩

theorem word_inj : ∀ {j j' r r' : List Char}, (∀ c ∈ j, c ≠ ',' ∧ c ≠ '}') →
    (∀ c ∈ j', c ≠ ',' ∧ c ≠ '}') → Follow r → Follow r' → j ++ r = j' ++ r' → j = j' ∧ r = r'
  | [], [], _, _, _, _, _, _, h => ⟨rfl, h⟩
  | [], c :: j', r, r', _, hj', ⟨d, t, hr, hd⟩, _, h => by
    rw [hr] at h
    obtain ⟨rfl, -⟩ := List.cons.inj h
    obtain ⟨h₁, h₂⟩ := hj' d (List.mem_cons_self ..)
    exact (hd.elim h₁ h₂).elim
  | c :: j, [], r, r', hj, _, _, ⟨d, t, hr, hd⟩, h => by
    rw [hr] at h
    obtain ⟨rfl, -⟩ := List.cons.inj h
    obtain ⟨h₁, h₂⟩ := hj c (List.mem_cons_self ..)
    exact (hd.elim h₁ h₂).elim
  | c :: j, c' :: j', r, r', hj, hj', hr, hr', h => by
    obtain ⟨rfl, hrest⟩ := List.cons.inj h
    obtain ⟨rfl, rfl⟩ := word_inj (fun d hd => hj d (List.mem_cons_of_mem _ hd))
      (fun d hd => hj' d (List.mem_cons_of_mem _ hd)) hr hr' hrest
    exact ⟨rfl, rfl⟩

theorem Word.cons {j : List Char} (h : Word j) :
    ∃ c t, j = c :: t ∧ c ≠ '"' ∧ c ≠ '{' := by
  cases j with
  | nil => exact absurd rfl h.nonempty
  | cons c t =>
    obtain ⟨hquote, -, hbrace, -⟩ := h.plain c (List.mem_cons_self ..)
    exact ⟨c, t, rfl, hquote, hbrace⟩

/-- a value tells where it ends -/
theorem token_inj {j j' r r' : List Char} (hj : Token j) (hj' : Token j') (hr : Follow r)
    (hr' : Follow r') (h : j ++ r = j' ++ r') : j = j' ∧ r = r' := by
  have hplain : ∀ {w : List Char}, Word w → ∀ c ∈ w, c ≠ ',' ∧ c ≠ '}' := fun hw c hc =>
    ⟨(hw.plain c hc).2.2.2.2, (hw.plain c hc).2.2.2.1⟩
  cases hj with
  | string s =>
    cases hj' with
    | string s' =>
      obtain ⟨rfl, rfl⟩ := quote_inj h
      exact ⟨rfl, rfl⟩
    | word hw =>
      obtain ⟨c, t, rfl, hquote, -⟩ := hw.cons
      rw [quote_toList] at h
      exact absurd (List.cons.inj h).1.symm hquote
    | empty =>
      rw [quote_toList] at h
      exact absurd (List.cons.inj h).1 (by decide)
  | word hw =>
    cases hj' with
    | string s' =>
      obtain ⟨c, t, rfl, hquote, -⟩ := hw.cons
      rw [quote_toList] at h
      exact absurd (List.cons.inj h).1 hquote
    | word hw' => exact word_inj (hplain hw) (hplain hw') hr hr' h
    | empty =>
      obtain ⟨c, t, rfl, -, hbrace⟩ := hw.cons
      exact absurd (List.cons.inj h).1 hbrace
  | empty =>
    cases hj' with
    | string s' =>
      rw [quote_toList] at h
      exact absurd (List.cons.inj h).1 (by decide)
    | word hw =>
      obtain ⟨c, t, rfl, -, hbrace⟩ := hw.cons
      exact absurd (List.cons.inj h).1.symm hbrace
    | empty => exact ⟨rfl, List.append_cancel_left h⟩

/-- all values are tokens -/
def Tokens (l : List Member) : Prop := ∀ m ∈ l, Token m.2

theorem Tokens.tail {m : Member} {l : List Member} (h : Tokens (m :: l)) : Tokens l :=
  fun m' hm' => h m' (List.mem_cons_of_mem _ hm')

theorem member_inj {name name' : String} {j j' r r' : List Char} (hj : Token j) (hj' : Token j')
    (hr : Follow r) (hr' : Follow r')
    (h : (quote name).toList ++ ':' :: (j ++ r) = (quote name').toList ++ ':' :: (j' ++ r')) :
    (name, j) = (name', j') ∧ r = r' := by
  obtain ⟨rfl, hvalue⟩ := quote_inj h
  obtain ⟨rfl, rfl⟩ := token_inj hj hj' hr hr' (List.cons.inj hvalue).2
  exact ⟨rfl, rfl⟩

theorem memberChars_inj : ∀ {l l' : List Member}, Tokens l → Tokens l' →
    memberChars l = memberChars l' → l = l'
  | [], [], _, _, _ => rfl
  | [], (name, j) :: l, _, _, h => absurd (List.cons.inj h).1 (by decide)
  | (name, j) :: l, [], _, _, h => absurd (List.cons.inj h).1 (by decide)
  | (name, j) :: l, (name', j') :: l', hl, hl', h => by
    obtain ⟨hm, hrest⟩ := member_inj (hl _ (List.mem_cons_self ..)) (hl' _ (List.mem_cons_self ..))
      (follow_memberChars l) (follow_memberChars l') (List.cons.inj h).2
    rw [hm, memberChars_inj hl.tail hl'.tail hrest]

/-- **an object tells its members** -/
theorem objectChars_inj {l l' : List Member} (hl : Tokens l) (hl' : Tokens l')
    (h : objectChars l = objectChars l') : l = l' := by
  match l, l' with
  | [], [] => rfl
  | [], (name, j) :: l =>
    have h : ['}'] = (quote name).toList ++ ':' :: (j ++ memberChars l) := (List.cons.inj h).2
    rw [quote_toList] at h
    exact absurd (List.cons.inj h).1 (by decide)
  | (name, j) :: l, [] =>
    have h : (quote name).toList ++ ':' :: (j ++ memberChars l) = ['}'] := (List.cons.inj h).2
    rw [quote_toList] at h
    exact absurd (List.cons.inj h).1 (by decide)
  | (name, j) :: l, (name', j') :: l' =>
    obtain ⟨hm, hrest⟩ := member_inj (hl _ (List.mem_cons_self ..)) (hl' _ (List.mem_cons_self ..))
      (follow_memberChars l) (follow_memberChars l') (List.cons.inj h).2
    rw [hm, memberChars_inj hl.tail hl'.tail hrest]

/-! ## quotes and braces -/

/-- where a reader stands, and in how many braces -/
inductive Scan where
  | gap (depth : Nat)
  | string (depth : Nat)
  | escaped (depth : Nat)

namespace Scan

def step : Scan → Char → Option Scan
  | gap d, c =>
    if c = '"' then some (string d)
    else if c = '\\' then none
    else if c = '{' then some (gap (d + 1))
    else if c = '}' then (match d with | 0 => none | d + 1 => some (gap d))
    else some (gap d)
  | string d, c =>
    if c = '"' then some (gap d) else if c = '\\' then some (escaped d) else some (string d)
  | escaped d, c => if c = '{' then none else some (string d)

def lift (k : Nat) : Scan → Scan
  | gap d => gap (d + k)
  | string d => string (d + k)
  | escaped d => escaped (d + k)

end Scan

def scan (q : Scan) (s : List Char) : Option Scan := s.foldlM Scan.step q

theorem scan_cons (q : Scan) (c : Char) (s : List Char) :
    scan q (c :: s) = (q.step c).bind fun q' => scan q' s := List.foldlM_cons ..

theorem scan_append (q : Scan) (s t : List Char) :
    scan q (s ++ t) = (scan q s).bind fun q' => scan q' t := List.foldlM_append ..

/-- a reader further inside stands further inside after it -/
theorem scan_lift (k : Nat) : ∀ {s : List Char} {q q' : Scan}, scan q s = some q' →
    scan (q.lift k) s = some (q'.lift k)
  | [], q, q', h => by
    cases h
    rfl
  | c :: s, q, q', h => by
    rw [scan_cons] at h ⊢
    obtain ⟨q₁, hstep, hrest⟩ := Option.bind_eq_some_iff.mp h
    have hlift : (q.lift k).step c = some (q₁.lift k) := by
      cases q with
      | gap d =>
        simp only [Scan.step, Scan.lift] at hstep ⊢
        split_ifs at hstep ⊢
        · cases hstep
          rfl
        · cases hstep
          simp [Nat.add_right_comm]
        · cases d with
          | zero => cases hstep
          | succ d =>
            cases hstep
            rw [Nat.add_right_comm]
        · cases hstep
          rfl
      | string d =>
        simp only [Scan.step, Scan.lift] at hstep ⊢
        split_ifs at hstep ⊢ <;> cases hstep <;> rfl
      | escaped d =>
        simp only [Scan.step, Scan.lift] at hstep ⊢
        split_ifs at hstep ⊢
        cases hstep
        rfl
    rw [hlift]
    exact scan_lift k hrest

theorem scan_escape (d : Nat) (c : Char) : scan (.string d) (escape c).toList = some (.string d) := by
  unfold escape
  split
  · rfl
  · rename_i hquote
    split
    · rfl
    · rename_i hslash
      split
      · rfl
      · rfl
      · rfl
      · rfl
      · rfl
      · split
        · rename_i h
          have hdigits : ∀ n < 32, (hexDigit (n / 16) ≠ '"' ∧ hexDigit (n / 16) ≠ '\\') ∧
              hexDigit (n % 16) ≠ '"' ∧ hexDigit (n % 16) ≠ '\\' := by decide
          obtain ⟨⟨h₁, h₂⟩, h₃, h₄⟩ := hdigits _ h
          simp [unicodeEscape, Scan.step, h₁, h₂, h₃, h₄, scan]
        · simp [Scan.step, hquote, hslash, scan]

theorem scan_quote (d : Nat) (s : String) : scan (.gap d) (quote s).toList = some (.gap d) := by
  have hbody : ∀ cs, scan (.string d) (stringChars cs) = some (.string d) := by
    intro cs
    induction cs with
    | nil => rfl
    | cons c cs ih =>
      show scan (.string d) ((escape c).toList ++ stringChars cs) = _
      rw [scan_append, scan_escape]
      exact ih
  rw [quote_toList, scan_cons]
  show scan (.string d) (stringChars s.toList ++ ['"']) = _
  rw [scan_append, hbody]
  rfl

theorem scan_token (d : Nat) {j : List Char} (h : Token j) : scan (.gap d) j = some (.gap d) := by
  cases h with
  | string s => exact scan_quote d s
  | word hw =>
    have hplain := hw.plain
    clear hw
    induction j with
    | nil => rfl
    | cons c j ih =>
      obtain ⟨h₁, h₂, h₃, h₄, -⟩ := hplain c (List.mem_cons_self ..)
      rw [scan_cons]
      simp only [Scan.step, h₁, h₂, h₃, h₄, if_false, Option.bind_some]
      exact ih fun c' hc' => hplain c' (List.mem_cons_of_mem _ hc')
  | empty => rfl

theorem scan_member (d : Nat) (name : String) {j : List Char} (h : Token j) :
    scan (.gap d) ((quote name).toList ++ ':' :: j) = some (.gap d) := by
  rw [scan_append, scan_quote]
  show scan (.gap d) j = _
  exact scan_token d h

/-- the members after the first, without the closing brace -/
def moreChars (l : List Member) : List Char := l.flatMap fun m => ',' :: ((quote m.1).toList ++ ':' :: m.2)

/-- the text between the braces of an object -/
def innerChars : List Member → List Char
  | [] => []
  | (name, j) :: l => (quote name).toList ++ ':' :: j ++ moreChars l

theorem memberChars_eq (l : List Member) : memberChars l = moreChars l ++ ['}'] := by
  induction l with
  | nil => rfl
  | cons m l ih => simp [memberChars, moreChars, ih]

theorem objectChars_eq (l : List Member) : objectChars l = '{' :: (innerChars l ++ ['}']) := by
  cases l with
  | nil => rfl
  | cons m l => simp [objectChars, innerChars, memberChars_eq]

theorem scan_inner (d : Nat) {l : List Member} (h : Tokens l) :
    scan (.gap d) (innerChars l) = some (.gap d) := by
  have hmore : ∀ {l : List Member}, Tokens l → scan (.gap d) (moreChars l) = some (.gap d) := by
    intro l hl
    induction l with
    | nil => rfl
    | cons m l ih =>
      show scan (.gap d) (',' :: ((quote m.1).toList ++ ':' :: m.2) ++ moreChars l) = _
      rw [scan_append, scan_cons]
      show ((scan (.gap d) ((quote m.1).toList ++ ':' :: m.2)).bind _) = _
      rw [scan_member d m.1 (hl m (List.mem_cons_self ..))]
      exact ih hl.tail
  cases l with
  | nil => rfl
  | cons m l =>
    show scan (.gap d) ((quote m.1).toList ++ ':' :: m.2 ++ moreChars l) = _
    rw [scan_append, scan_member d m.1 (h m (List.mem_cons_self ..))]
    exact hmore h.tail

/-- a reader inside a string and one outside of it take each other's places at every quote -/
theorem scan_opposite : ∀ {s : List Char} {d e : Nat} {a b : Scan}, scan (.gap d) s = some a →
    scan (.string e) s = some b →
      (∃ d' e', a = .gap d' ∧ b = .string e') ∨ ∃ d' e', a = .string d' ∧ b = .gap e'
  | [], d, e, a, b, ha, hb => by
    cases ha
    cases hb
    exact .inl ⟨d, e, rfl, rfl⟩
  | c :: s, d, e, a, b, ha, hb => by
    rw [scan_cons] at ha hb
    by_cases hquote : c = '"'
    · subst hquote
      rcases scan_opposite (s := s) hb ha with ⟨d', e', rfl, rfl⟩ | ⟨d', e', rfl, rfl⟩
      · exact .inr ⟨e', d', rfl, rfl⟩
      · exact .inl ⟨e', d', rfl, rfl⟩
    · by_cases hslash : c = '\\'
      · subst hslash
        cases ha
      · have hstring : (Scan.string e).step c = some (.string e) := by
          simp [Scan.step, hquote, hslash]
        rw [hstring] at hb
        obtain ⟨q, hstep, hrest⟩ := Option.bind_eq_some_iff.mp ha
        have hgap : ∃ d', q = .gap d' := by
          simp only [Scan.step, hquote, hslash, if_false] at hstep
          split_ifs at hstep
          · exact ⟨_, (Option.some.inj hstep).symm⟩
          · cases d with
            | zero => cases hstep
            | succ d => exact ⟨_, (Option.some.inj hstep).symm⟩
          · exact ⟨_, (Option.some.inj hstep).symm⟩
        obtain ⟨d', rfl⟩ := hgap
        exact scan_opposite hrest hb

/-- **an object does not end in another one** -/
theorem objectChars_suffix {l l' : List Member} (hl : Tokens l) (hl' : Tokens l') {X : List Char}
    (h : objectChars l = X ++ objectChars l') : X = [] := by
  cases X with
  | nil => rfl
  | cons c X =>
    have hinner : innerChars l = X ++ '{' :: innerChars l' := by
      rw [objectChars_eq, objectChars_eq] at h
      have h := (List.cons.inj h).2
      exact List.append_cancel_right (by simpa using h)
    have hwhole := scan_inner 0 hl
    rw [hinner, scan_append] at hwhole
    obtain ⟨q, -, hrest⟩ := Option.bind_eq_some_iff.mp hwhole
    have halone : scan (.gap 0) ('{' :: innerChars l') = some (.gap 1) := scan_inner 1 hl'
    cases q with
    | gap d =>
      have hlift := scan_lift d halone
      rw [Scan.lift, Nat.zero_add, hrest] at hlift
      simp only [Option.some.injEq, Scan.lift, Scan.gap.injEq] at hlift
      omega
    | string d =>
      rcases scan_opposite halone hrest with ⟨_, _, _, hb⟩ | ⟨_, _, ha, _⟩
      · cases hb
      · cases ha
    | escaped d => cases hrest

/-- the object at the end of a text -/
theorem objectChars_end {l l' : List Member} (hl : Tokens l) (hl' : Tokens l') {X Y : List Char}
    (h : X ++ objectChars l = Y ++ objectChars l') : X = Y ∧ l = l' := by
  have hsame : X = Y → X = Y ∧ l = l' := fun he => by
    subst he
    exact ⟨rfl, objectChars_inj hl hl' (List.append_cancel_left h)⟩
  rcases List.append_eq_append_iff.mp h with ⟨Z, rfl, hZ⟩ | ⟨Z, rfl, hZ⟩
  · obtain rfl := objectChars_suffix hl hl' hZ
    exact hsame (List.append_nil X).symm
  · obtain rfl := objectChars_suffix hl' hl hZ
    exact hsame (List.append_nil Y)

/-! ## keys and objects -/

/-- nothing, or a text that an object ends -/
def Closed (X : List Char) : Prop := X = [] ∨ ∃ Y, X = Y ++ ['}']

/-- two keys that differ are told apart behind whatever stands before them -/
def Apart (k k' : List Char) : Prop :=
  ∀ X Y, Closed X → Closed Y → X ++ k = Y ++ k' → X = Y ∧ k = k'

theorem apart_of_plain {k k' : List Char} (h : '}' ∉ k) (h' : '}' ∉ k') : Apart k k' := by
  have hpart : ∀ {X Z k : List Char}, Closed (X ++ Z) → '}' ∉ Z → Z = [] := by
    intro X Z k hc hZ
    rcases hc with hnil | ⟨W, hW⟩
    · exact (List.append_eq_nil_iff.mp hnil).2
    · rcases List.eq_nil_or_concat Z with hnil | ⟨Z', c, rfl⟩
      · exact hnil
      · rw [List.concat_eq_append, ← List.append_assoc] at hW
        have hlast : c = '}' := by simpa using (List.append_inj' hW rfl).2
        exact absurd (by simp [hlast]) hZ
  intro X Y hX hY he
  rcases List.append_eq_append_iff.mp he with ⟨Z, rfl, hZ⟩ | ⟨Z, rfl, hZ⟩
  · have hnil : Z = [] := hpart (k := k) hY fun hm => h (hZ ▸ List.mem_append_left _ hm)
    subst hnil
    exact ⟨(List.append_nil X).symm, hZ⟩
  · have hnil : Z = [] := hpart (k := k) hX fun hm => h' (hZ ▸ List.mem_append_left _ hm)
    subst hnil
    exact ⟨List.append_nil Y, hZ.symm⟩

/-- keys and objects one after the other -/
def keyedChars (rows : List (List Char × List Member)) : List Char :=
  rows.flatMap fun p => p.1 ++ objectChars p.2

theorem keyedChars_closed (rows : List (List Char × List Member)) : Closed (keyedChars rows) := by
  rcases List.eq_nil_or_concat rows with rfl | ⟨rows, p, rfl⟩
  · exact .inl rfl
  · refine .inr ⟨keyedChars rows ++ p.1 ++ '{' :: innerChars p.2, ?_⟩
    simp [keyedChars, objectChars_eq]

/-- **keys and objects are read off their concatenation** when equal objects come with keys that are
told apart -/
theorem keyed_inj : ∀ (n : Nat) {rows rows' : List (List Char × List Member)}, rows.length = n →
    (∀ p ∈ rows, Tokens p.2) → (∀ p ∈ rows', Tokens p.2) →
    (∀ p ∈ rows, ∀ p' ∈ rows', p.2 = p'.2 → Apart p.1 p'.1) →
    keyedChars rows = keyedChars rows' → rows = rows' := by
  intro n
  induction n with
  | zero =>
    intro rows rows' hn _ _ _ h
    obtain rfl := List.length_eq_zero_iff.mp hn
    rcases List.eq_nil_or_concat rows' with rfl | ⟨rows', p, rfl⟩
    · rfl
    · simp [keyedChars, objectChars_eq] at h
  | succ n ih =>
    intro rows rows' hn ht ht' hapart h
    rcases List.eq_nil_or_concat rows with rfl | ⟨rows, p, rfl⟩
    · cases hn
    rcases List.eq_nil_or_concat rows' with rfl | ⟨rows', p', rfl⟩
    · simp [keyedChars, objectChars_eq] at h
    simp only [List.concat_eq_append] at *
    have hp := List.mem_append_right rows (List.mem_singleton_self p)
    have hp' := List.mem_append_right rows' (List.mem_singleton_self p')
    have h : (keyedChars rows ++ p.1) ++ objectChars p.2 =
        (keyedChars rows' ++ p'.1) ++ objectChars p'.2 := by simpa [keyedChars] using h
    obtain ⟨hkeys, hobject⟩ := objectChars_end (ht p hp) (ht' p' hp') h
    obtain ⟨hrest, hkey⟩ := hapart p hp p' hp' hobject _ _ (keyedChars_closed rows)
      (keyedChars_closed rows') hkeys
    have hrows : rows = rows' := ih (by simpa using hn)
      (fun q hq => ht q (List.mem_append_left _ hq)) (fun q hq => ht' q (List.mem_append_left _ hq))
      (fun q hq q' hq' => hapart q (List.mem_append_left _ hq) q' (List.mem_append_left _ hq')) hrest
    rw [hrows, Prod.ext hkey hobject]

end Json
