import CloudflareShard.Async.Run

/-!
# What a handler answers, at the moment it answers

`Governs` says nothing of the value a handler ends with.  Here every handler has a postcondition on
its answer and on the store it answers in, for protocols in which a handler has no state of its own.

* `Fate`               where a thread of the next configuration comes from;
* `Answers`            a step of a run lets a handler end;
* `Promises`           every handler at work will end with its postcondition;
* `Governs.answered`   **whatever a run answers has the postcondition of its handler then**;
* `Lives`              one handler from its arrival on, with a postcondition of its own.
-/

namespace Async
variable {σ Q : Type} {A : Q → Type} {E α R X : Type}

/-- the thread `i` after the choice `x` is new, was resumed, or was left alone -/
inductive Fate (S : System σ Q A E α R X) (c : Config σ Q A E α R) :
    Choice Q A R X → Nat → Thread σ Q A E α R → Prop where
  | arrived (r : R) :
      Fate S c (.run (.arrive r)) c.threads.length ⟨r, 0, ((S.handler r).advance c.store).2⟩
  | resumed (i : Nat) (ans : ∀ q, A q) (t : Thread σ Q A E α R) (k : Prog σ Q A E α)
      (ht : c.threads[i]? = some t) (hk : t.prog.wake S.answers ans c.store = some k) :
      Fate S c (.run (.resume i ans)) i ⟨t.req, t.awaits + 1, (k.advance c.store).2⟩
  | kept (x : Choice Q A R X) (i : Nat) (t : Thread σ Q A E α R) (ht : c.threads[i]? = some t)
      (hx : ∀ ans, x = .run (.resume i ans) → t.prog.wake S.answers ans c.store = none)
      (hlive : ∀ a n, x ≠ .crash a n) : Fate S c x i t

section
variable {S : System σ Q A E α R X} {c : Config σ Q A E α R} {i : Nat} {ans : ∀ q, A q}
  {t t' : Thread σ Q A E α R}

theorem woken_eq_some (h : S.woken c i ans = some t') :
    ∃ t k, c.threads[i]? = some t ∧ t.prog.wake S.answers ans c.store = some k ∧
      t' = ⟨t.req, t.awaits + 1, k⟩ := by
  unfold System.woken at h
  split at h
  · rename_i t ht
    obtain ⟨k, hk, rfl⟩ := Option.map_eq_some_iff.mp h
    exact ⟨t, k, ht, hk, rfl⟩
  · cases h

theorem woken_eq_none (h : S.woken c i ans = none) (ht : c.threads[i]? = some t) :
    t.prog.wake S.answers ans c.store = none := by
  simpa only [System.woken, ht, Option.map_eq_none_iff] using h

theorem fate (x : Choice Q A R X) (h : (S.next c x).threads[i]? = some t') : Fate S c x i t' := by
  cases x with
  | event x => exact .kept _ i t' h (fun _ hno => by cases hno) fun _ _ hno => by cases hno
  | crash a n =>
    have hgone : (S.next c (.crash a n)).threads = [] := by
      cases a with
      | arrive r => rfl
      | resume j ans =>
        cases hw : S.woken c j ans with
        | none => rw [S.next_crash_none hw]
        | some t => rw [S.next_crash hw]
    simp [hgone] at h
  | run a =>
    cases a with
    | arrive r =>
      rw [System.next, List.getElem?_append] at h
      split at h
      · exact .kept _ i t' h (fun _ hno => by cases hno) fun _ _ hno => by cases hno
      · rename_i hi
        obtain ⟨hlt, rfl⟩ := List.getElem?_eq_some_iff.mp h
        have hi : i = c.threads.length := by simp at hlt; omega
        subst hi
        simpa using Fate.arrived (S := S) (c := c) r
    | resume j ans =>
      cases hw : S.woken c j ans with
      | none =>
        rw [S.next_resume_none hw] at h
        refine .kept _ i t' h ?_ fun _ _ hno => by cases hno
        rintro _ ⟨⟩
        exact woken_eq_none hw h
      | some u =>
        rw [S.next_resume hw] at h
        rcases eq_or_ne i j with rfl | hne
        · obtain ⟨t, k, ht, hk, rfl⟩ := woken_eq_some hw
          have hlt : i < c.threads.length := (List.getElem?_eq_some_iff.mp ht).1
          rw [List.getElem?_set_self hlt] at h
          cases h
          exact .resumed i ans t k ht hk
        · rw [List.getElem?_set_ne hne.symm] at h
          refine .kept _ i t' h ?_ fun _ _ hno => by cases hno
          rintro _ ⟨⟩
          exact absurd rfl hne

/-- a handler that has ended is never resumed -/
theorem Fate.finished {x : Choice Q A R X} (h : Fate S c x i t') (ht : c.threads[i]? = some t)
    (hf : t.prog.finished) : t' = t := by
  cases h with
  | arrived r => simp at ht
  | resumed _ ans u k hu hk =>
    cases hu.symm.trans ht
    cases hp : t.prog <;> simp_all [Prog.wake, Prog.finished]
  | kept _ _ _ hi => exact Option.some.inj (hi.symm.trans ht)

end

/-- the choice `x` lets the handler `i` of the request `r` end with the answer `a` -/
structure Answers (S : System σ Q A E α R X) (c : Config σ Q A E α R) (x : Choice Q A R X)
    (i : Nat) (r : R) (a : α) : Prop where
  ends : ∃ t, (S.next c x).threads[i]? = some t ∧ t.req = r ∧ t.prog = .pure a
  before : ∀ t, c.threads[i]? = some t → t.prog.finished = false

/-- `p` ends with `post`, whatever happens before it goes on -/
abbrev Promise (P : Protocol σ Unit) (ok : ∀ q, A q → σ → Prop) (post : α → σ → Prop)
    (p : Prog σ Q A E α) (s : σ) : Prop :=
  Keeps P ok (fun a _ s => post a s) (fun _ _ _ => True) p () s

/-- every handler at work will end with its postcondition -/
def Promises (P : Protocol σ Unit) (T : Terms σ Q A R X) (post : R → α → σ → Prop)
    (c : Config σ Q A E α R) : Prop :=
  ∀ (i : Nat) (t : Thread σ Q A E α R), c.threads[i]? = some t → t.prog.finished = false →
    Promise P (T.ok t.req) (post t.req) t.prog c.store ∧ ∀ upd k, t.prog ≠ .step upd k

section
variable {P : Protocol σ Unit} {ok : ∀ q, A q → σ → Prop} {post : α → σ → Prop}
  {p p' : Prog σ Q A E α} {s s' : σ}

theorem Promise.env (h : Promise P ok post p s) (hp : p.finished = false)
    (hstep : ∀ upd k, p ≠ .step upd k) (he : P.env () s s') : Promise P ok post p s' := by
  cases p with
  | pure a => cases hp
  | throw e => cases hp
  | step upd k => exact absurd rfl (hstep upd k)
  | wait ready k => exact fun s'' h'' hi hr => h s'' (P.env_trans he h'') hi hr
  | call q k => exact fun s'' h'' hi a ha => h s'' (P.env_trans he h'') hi a ha
  | stuck => trivial

theorem Promise.woken {answers : ∀ q, A q → Bool} {ans : ∀ q, A q} (h : Promise P ok post p s)
    (hi : P.inv s) (hans : ∀ q k, p = .call q k → answers q (ans q) → ok q (ans q) s)
    (hw : p.wake answers ans s = some p') : Promise P ok post p' s := by
  cases p with
  | wait ready k =>
    simp only [Prog.wake] at hw
    split at hw
    · cases hw
      exact h s (P.env_refl () s) hi ‹_›
    · cases hw
  | call q k =>
    simp only [Prog.wake] at hw
    split at hw
    · rename_i ha
      cases hw
      exact h s (P.env_refl () s) hi _ (hans q k rfl ha)
    · cases hw
  | _ => cases hw

end

section runs
variable {P : Protocol σ Unit} {S : System σ Q A E α R X} {T : Terms σ Q A R X}
  {share : List Unit → σ → Prop} {done : Unit → Prop} {c : Config σ Q A E α R} {gs : List Unit}
  {post : R → α → σ → Prop} {i : Nat} {t : Thread σ Q A E α R} {x : Choice Q A R X}

/-- what a thread that is left alone sees of a step -/
theorem Governs.env_kept (h : Governs P S T share () done) (hf : Follows P T share done c gs)
    (hx : x.Allowed S T c) (ht : c.threads[i]? = some t)
    (hkept : ∀ ans, x = .run (.resume i ans) → t.prog.wake S.answers ans c.store = none)
    (hlive : ∀ a n, x ≠ .crash a n) : P.env () c.store (S.next c x).store := by
  have hlt : i < gs.length := hf.length ▸ (List.getElem?_eq_some_iff.mp ht).1
  have hg : gs[i]? = some gs[i] := List.getElem?_eq_getElem hlt
  cases x with
  | event x => exact (h.event x hx hf.inv hf.share).2.2 ()
  | crash a n => exact absurd rfl (hlive a n)
  | run a =>
    cases a with
    | arrive r =>
      obtain ⟨g', hp, _⟩ := (h.handler r c.store hx hf.inv).advance
      obtain ⟨_, he⟩ := h.path (i := gs.length) hp hf.inv (h.share_new hf.share) (by simp)
      exact he i _ (Nat.ne_of_lt hlt) (by rw [List.getElem?_append_left hlt]; exact hg)
    | resume j ans =>
      cases hw : S.woken c j ans with
      | none => exact (S.next_resume_none hw).symm ▸ P.env_refl () c.store
      | some u =>
        rw [S.next_resume hw]
        obtain ⟨g, hg', hk⟩ := hf.woken hx hw
        obtain ⟨_, hp, _⟩ := hk.advance
        refine (h.path hp hf.inv hf.share hg').2 i _ ?_ hg
        rintro rfl
        obtain ⟨t', k, ht', hk', _⟩ := woken_eq_some hw
        cases ht'.symm.trans ht
        rw [hkept ans rfl] at hk'
        cases hk'

/-- a promise is kept over one more step -/
theorem Governs.promise_next (h : Governs P S T share () done) (hf : Follows P T share done c gs)
    (hx : x.Allowed S T c) {t₀ : Thread σ Q A E α R} {q : α → σ → Prop}
    (ht₀ : c.threads[i]? = some t₀) (hfin : t₀.prog.finished = false)
    (hq : Promise P (T.ok t₀.req) q t₀.prog c.store ∧ ∀ upd k, t₀.prog ≠ .step upd k)
    (ht : (S.next c x).threads[i]? = some t) : t.req = t₀.req ∧
      Promise P (T.ok t₀.req) q t.prog (S.next c x).store ∧ ∀ upd k, t.prog ≠ .step upd k := by
  cases fate x ht with
  | arrived r => simp at ht₀
  | resumed _ ans u k hu hk =>
    cases hu.symm.trans ht₀
    have hw : S.woken c i ans = some ⟨t₀.req, t₀.awaits + 1, k⟩ := by simp [System.woken, hu, hk]
    rw [S.next_resume hw]
    obtain ⟨_, _, hk⟩ := Keeps.advance (hq.1.woken hf.inv (hx t₀ ht₀) hk)
    exact ⟨rfl, hk, Prog.advance_ne_step _ _⟩
  | kept _ _ _ hi hkept hlive =>
    cases hi.symm.trans ht₀
    exact ⟨rfl, hq.1.env hfin hq.2 (h.env_kept hf hx hi hkept hlive), hq.2⟩

variable (hpost : ∀ r s, T.accept r → P.inv s → Promise P (T.ok r) (post r) (S.handler r) s)
include hpost

/-- a thread that was not yet at its end keeps its promise over one more step -/
theorem Governs.promise (h : Governs P S T share () done) (hf : Follows P T share done c gs)
    (hc : Promises P T post c) (hx : x.Allowed S T c) (ht : (S.next c x).threads[i]? = some t)
    (hbefore : ∀ t₀, c.threads[i]? = some t₀ → t₀.prog.finished = false) :
    Promise P (T.ok t.req) (post t.req) t.prog (S.next c x).store ∧
      ∀ upd k, t.prog ≠ .step upd k := by
  cases ht₀ : c.threads[i]? with
  | some t₀ =>
    have hfin := hbefore t₀ ht₀
    obtain ⟨hreq, hq⟩ := h.promise_next hf hx ht₀ hfin (hc i t₀ ht₀ hfin) ht
    rw [hreq]
    exact hq
  | none =>
    cases fate x ht with
    | arrived r =>
      obtain ⟨_, _, hk⟩ := Keeps.advance (hpost r c.store hx hf.inv)
      exact ⟨hk, Prog.advance_ne_step _ _⟩
    | resumed _ ans u k hu => exact absurd (hu.symm.trans ht₀) nofun
    | kept _ _ _ hi => exact absurd (hi.symm.trans ht₀) nofun

theorem Governs.promises (h : Governs P S T share () done) (hf : Follows P T share done c gs)
    (hc : Promises P T post c) (hx : x.Allowed S T c) : Promises P T post (S.next c x) := by
  intro i t ht hunfinished
  refine h.promise hpost hf hc hx ht fun t₀ ht₀ => ?_
  cases hfin : t₀.prog.finished with
  | false => rfl
  | true =>
    rw [(fate x ht).finished ht₀ hfin, hfin] at hunfinished
    cases hunfinished

/-- **an answer has the postcondition of its handler in the store it is given in** -/
theorem Governs.answered (h : Governs P S T share () done) (hf : Follows P T share done c gs)
    (hc : Promises P T post c) (hx : x.Allowed S T c) {r : R} {a : α}
    (ha : Answers S c x i r a) : post r a (S.next c x).store := by
  obtain ⟨t, ht, rfl, hp⟩ := ha.ends
  have hk := (h.promise hpost hf hc hx ht ha.before).1
  rw [hp] at hk
  exact hk

theorem Governs.run_promises (h : Governs P S T share () done) (xs : List (Choice Q A R X)) :
    ∀ {c gs}, Follows P T share done c gs → Promises P T post c →
      S.Meets (fun c x => x.Allowed S T c) c xs →
        ∃ gs', Follows P T share done (S.run c xs) gs' ∧ Promises P T post (S.run c xs) := by
  induction xs with
  | nil => exact fun hf hc _ => ⟨_, hf, hc⟩
  | cons x xs ih =>
    intro c gs hf hc hxs
    obtain ⟨gs', hf'⟩ := h.next hf x hxs.1
    exact ih hf' (h.promises hpost hf hc hxs.1) hxs.2

end runs

/-! ## the life of one handler -/

/-- the object goes on -/
def Choice.survives : Choice Q A R X → Bool
  | .crash .. => false
  | _ => true

/-- the thread `i` serves `r`, and promises `q` if it has not ended -/
def Lives (P : Protocol σ Unit) (T : Terms σ Q A R X) (i : Nat) (r : R) (q : α → σ → Prop)
    (c : Config σ Q A E α R) : Prop :=
  ∃ t, c.threads[i]? = some t ∧ t.req = r ∧ (t.prog.finished = false →
    Promise P (T.ok r) q t.prog c.store ∧ ∀ upd k, t.prog ≠ .step upd k)

section life
variable {P : Protocol σ Unit} {S : System σ Q A E α R X} {T : Terms σ Q A R X}
  {share : List Unit → σ → Prop} {done : Unit → Prop} {c : Config σ Q A E α R} {gs : List Unit}
  {q : α → σ → Prop} {i : Nat} {r : R} {x : Choice Q A R X}

/-- a thread stays where it is as long as the object goes on -/
theorem thread_next (hx : x.survives) {t₀ : Thread σ Q A E α R} (ht₀ : c.threads[i]? = some t₀) :
    ∃ t, (S.next c x).threads[i]? = some t := by
  have hlt : i < c.threads.length := (List.getElem?_eq_some_iff.mp ht₀).1
  refine ⟨_, List.getElem?_eq_getElem ?_⟩
  cases x with
  | event x => exact hlt
  | crash a n => cases hx
  | run a =>
    cases a with
    | arrive r => simp [System.next]; omega
    | resume j ans =>
      cases hw : S.woken c j ans with
      | none => rwa [S.next_resume_none hw]
      | some u => rw [S.next_resume hw]; simpa using hlt

theorem lives_arrive (hq : Promise P (T.ok r) q (S.handler r) c.store) :
    Lives P T c.threads.length r q (S.next c (.run (.arrive r))) := by
  obtain ⟨_, _, hk⟩ := Keeps.advance hq
  exact ⟨⟨r, 0, ((S.handler r).advance c.store).2⟩, by simp [System.next], rfl,
    fun _ => ⟨hk, Prog.advance_ne_step _ _⟩⟩

theorem Governs.lives_next (h : Governs P S T share () done) (hf : Follows P T share done c gs)
    (hx : x.Allowed S T c) (hs : x.survives) (hc : Lives P T i r q c) :
    Lives P T i r q (S.next c x) := by
  obtain ⟨t₀, ht₀, rfl, hq⟩ := hc
  obtain ⟨t, ht⟩ := thread_next (S := S) hs ht₀
  cases hfin : t₀.prog.finished with
  | true =>
    have hkept := (fate x ht).finished ht₀ hfin
    subst hkept
    exact ⟨t, ht, rfl, fun h => absurd (hfin.symm.trans h) nofun⟩
  | false =>
    obtain ⟨hreq, hq'⟩ := h.promise_next hf hx ht₀ hfin (hq hfin) ht
    exact ⟨t, ht, hreq, fun _ => hq'⟩

theorem Governs.lives_run (h : Governs P S T share () done) (xs : List (Choice Q A R X)) :
    ∀ {c gs}, Follows P T share done c gs → S.Meets (fun c x => x.Allowed S T c) c xs →
      (∀ x ∈ xs, x.survives) → Lives P T i r q c →
        ∃ gs', Follows P T share done (S.run c xs) gs' ∧ Lives P T i r q (S.run c xs) := by
  induction xs with
  | nil => exact fun hf _ _ hc => ⟨_, hf, hc⟩
  | cons x xs ih =>
    intro c gs hf hxs hs hc
    obtain ⟨gs', hf'⟩ := h.next hf x hxs.1
    exact ih hf' hxs.2 (fun y hy => hs y (List.mem_cons_of_mem _ hy))
      (h.lives_next hf hxs.1 (hs x List.mem_cons_self) hc)

/-- **a handler that promises `q` ends with it** -/
theorem Governs.lives_answered (h : Governs P S T share () done)
    (hf : Follows P T share done c gs) (hx : x.Allowed S T c) (hc : Lives P T i r q c) {a : α}
    (ha : Answers S c x i r a) : q a (S.next c x).store := by
  obtain ⟨t₀, ht₀, rfl, hq⟩ := hc
  obtain ⟨t, ht, _, hp⟩ := ha.ends
  have hfin := ha.before t₀ ht₀
  have hk := (h.promise_next hf hx ht₀ hfin (hq hfin) ht).2.1
  rw [hp] at hk
  exact hk

end life
end Async
