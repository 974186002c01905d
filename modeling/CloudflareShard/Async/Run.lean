import Mathlib.Logic.Relation
import CloudflareShard.Async.Prog

/-!
# Runs of an object

A run interleaves the bursts of any number of handlers with crashes and events from outside, and is
a list of choices, so that it can be evaluated.

* `System`, `Config`, `Choice`   the handlers, what an object holds, what can happen next;
* `System.next`, `System.run`    one choice, a list of choices;
* `Governs`, `Choice.Allowed`    the handlers follow a protocol, as long as the choices are allowed;
* `Governs.next`, `Governs.run`  **every reachable configuration follows the protocol**;
* `Governs.history`              a preorder kept by every move relates all earlier to all later stores.
-/

namespace Async

/-- a handler at work: its request, how often it was resumed, and what is left of it -/
structure Thread (σ Q : Type) (A : Q → Type) (E α R : Type) where
  req : R
  awaits : Nat
  prog : Prog σ Q A E α

structure Config (σ Q : Type) (A : Q → Type) (E α R : Type) where
  store : σ
  threads : List (Thread σ Q A E α R)

/-- `restart` is what a crash leaves of the store -/
structure System (σ Q : Type) (A : Q → Type) (E α R X : Type) where
  handler : R → Prog σ Q A E α
  answers : ∀ q, A q → Bool
  event : X → σ → σ
  restart : σ → σ

inductive Activation (Q : Type) (A : Q → Type) (R : Type) : Type where
  | arrive (r : R)
  | resume (i : Nat) (ans : ∀ q, A q)

inductive Choice (Q : Type) (A : Q → Type) (R X : Type) : Type where
  | run (a : Activation Q A R)
  /-- the object crashes after `n` sections of the burst that `a` starts -/
  | crash (a : Activation Q A R) (n : Nat)
  | event (x : X)

namespace System
variable {σ Q : Type} {A : Q → Type} {E α R X : Type}

/-- what the handler resumed by `i` and `ans` does next, when it can be resumed -/
def woken (S : System σ Q A E α R X) (c : Config σ Q A E α R) (i : Nat) (ans : ∀ q, A q) :
    Option (Thread σ Q A E α R) :=
  match c.threads[i]? with
  | some t => (t.prog.wake S.answers ans c.store).map fun p => ⟨t.req, t.awaits + 1, p⟩
  | none => none

def next (S : System σ Q A E α R X) (c : Config σ Q A E α R) :
    Choice Q A R X → Config σ Q A E α R
  | .run (.arrive r) =>
    let b := (S.handler r).advance c.store
    ⟨b.1, c.threads ++ [⟨r, 0, b.2⟩]⟩
  | .run (.resume i ans) =>
    match S.woken c i ans with
    | some t =>
      let b := t.prog.advance c.store
      ⟨b.1, c.threads.set i ⟨t.req, t.awaits, b.2⟩⟩
    | none => c
  | .crash (.arrive r) n => ⟨S.restart ((S.handler r).cut n c.store), []⟩
  | .crash (.resume i ans) n =>
    match S.woken c i ans with
    | some t => ⟨S.restart (t.prog.cut n c.store), []⟩
    | none => ⟨S.restart c.store, []⟩
  | .event x => ⟨S.event x c.store, c.threads⟩

def run (S : System σ Q A E α R X) (c : Config σ Q A E α R) (xs : List (Choice Q A R X)) :
    Config σ Q A E α R := xs.foldl S.next c

section
variable {S : System σ Q A E α R X} {c : Config σ Q A E α R} {i : Nat} {ans : ∀ q, A q}
  {t : Thread σ Q A E α R}

theorem next_resume (h : S.woken c i ans = some t) : S.next c (.run (.resume i ans)) =
    ⟨(t.prog.advance c.store).1,
      c.threads.set i ⟨t.req, t.awaits, (t.prog.advance c.store).2⟩⟩ := by
  simp only [next, h]

theorem next_resume_none (h : S.woken c i ans = none) : S.next c (.run (.resume i ans)) = c := by
  simp only [next, h]

theorem next_crash (h : S.woken c i ans = some t) (n : Nat) :
    S.next c (.crash (.resume i ans) n) = ⟨S.restart (t.prog.cut n c.store), []⟩ := by
  simp only [next, h]

theorem next_crash_none (h : S.woken c i ans = none) (n : Nat) :
    S.next c (.crash (.resume i ans) n) = ⟨S.restart c.store, []⟩ := by
  simp only [next, h]

end

/-- the choices `xs` all meet the condition `C` where they are taken -/
def Meets (S : System σ Q A E α R X) (C : Config σ Q A E α R → Choice Q A R X → Prop) :
    Config σ Q A E α R → List (Choice Q A R X) → Prop
  | _, [] => True
  | c, x :: xs => C c x ∧ S.Meets C (S.next c x) xs

@[simp] theorem run_nil (S : System σ Q A E α R X) (c) : S.run c [] = c := rfl

@[simp] theorem run_cons (S : System σ Q A E α R X) (c x xs) :
    S.run c (x :: xs) = S.run (S.next c x) xs := rfl

theorem run_append (S : System σ Q A E α R X) (c xs ys) :
    S.run c (xs ++ ys) = S.run (S.run c xs) ys := List.foldl_append ..

theorem meets_of_forall (S : System σ Q A E α R X) {C} (h : ∀ c x, C c x) :
    ∀ {c xs}, S.Meets C c xs
  | _, [] => trivial
  | _, _ :: _ => ⟨h _ _, meets_of_forall S h⟩

theorem meets_of_mem (S : System σ Q A E α R X) {C} : ∀ {c xs}, (∀ x ∈ xs, ∀ c, C c x) →
    S.Meets C c xs
  | _, [], _ => trivial
  | _, x :: _, h => ⟨h x List.mem_cons_self _, meets_of_mem S fun y hy => h y (List.mem_cons_of_mem x hy)⟩

theorem meets_append (S : System σ Q A E α R X) {C} : ∀ {c xs ys},
    S.Meets C c (xs ++ ys) ↔ S.Meets C c xs ∧ S.Meets C (S.run c xs) ys
  | _, [], _ => by simp [Meets]
  | c, x :: xs, ys => by
    show (C c x ∧ S.Meets C (S.next c x) (xs ++ ys)) ↔ _
    rw [meets_append S]
    simp [Meets, and_assoc]

end System

/-! ## bursts follow the protocol -/

/-- the moves of one handler in a row -/
inductive Path {σ G : Type} (P : Protocol σ G) : G → σ → G → σ → Prop where
  | nil {g s} : Path P g s g s
  | cons {g s g' s' g'' s''} : P.move g s s' g' → Path P g' s' g'' s'' → Path P g s g'' s''

namespace Path
variable {σ G : Type} {P : Protocol σ G}

theorem inv {g s g' s'} (h : Path P g s g' s') (hi : P.inv s) : P.inv s' := by
  induction h with
  | nil => exact hi
  | cons hm _ ih => exact ih (P.inv_move hi hm)

theorem history {H : σ → σ → Prop} (refl : ∀ s, H s s)
    (trans : ∀ {s s' s''}, H s s' → H s' s'' → H s s'')
    (move : ∀ {g s s' g'}, P.inv s → P.move g s s' g' → H s s')
    {g s g' s'} (h : Path P g s g' s') (hi : P.inv s) : H s s' := by
  induction h with
  | nil => exact refl _
  | cons hm _ ih => exact trans (move hi hm) (ih (P.inv_move hi hm))

end Path

section bursts
variable {σ Q : Type} {A : Q → Type} {E G α : Type} {P : Protocol σ G} {ok : ∀ q, A q → σ → Prop}
  {post : α → G → σ → Prop} {epost : E → G → σ → Prop}

theorem Keeps.advance : ∀ {p : Prog σ Q A E α} {g s}, Keeps P ok post epost p g s →
    ∃ g', Path P g s g' (p.advance s).1 ∧ Keeps P ok post epost (p.advance s).2 g' (p.advance s).1
  | .step _ _, _, _, ⟨_, hm, hk⟩ =>
    have ⟨g', hp, hk'⟩ := hk.advance
    ⟨g', .cons hm hp, hk'⟩
  | .pure _, g, _, h => ⟨g, .nil, h⟩
  | .throw _, g, _, h => ⟨g, .nil, h⟩
  | .wait _ _, g, _, h => ⟨g, .nil, h⟩
  | .call _ _, g, _, h => ⟨g, .nil, h⟩
  | .stuck, g, _, h => ⟨g, .nil, h⟩

theorem Keeps.cut : ∀ {p : Prog σ Q A E α} (n : Nat) {g s}, Keeps P ok post epost p g s →
    ∃ g', Path P g s g' (p.cut n s)
  | .step _ _, 0, g, _, _ => ⟨g, .nil⟩
  | .step _ _, n + 1, _, _, ⟨_, hm, hk⟩ =>
    have ⟨g', hp⟩ := hk.cut n
    ⟨g', .cons hm hp⟩
  | .pure _, _, g, _, _ => ⟨g, .nil⟩
  | .throw _, _, g, _, _ => ⟨g, .nil⟩
  | .wait _ _, _, g, _, _ => ⟨g, .nil⟩
  | .call _ _, _, g, _, _ => ⟨g, .nil⟩
  | .stuck, _, g, _, _ => ⟨g, .nil⟩

end bursts

/-- what the code after an await relies on when nothing is known of a finished handler -/
def Suspended {σ Q : Type} {A : Q → Type} {E G α : Type} (P : Protocol σ G)
    (ok : ∀ q, A q → σ → Prop) (done : G → Prop) (p : Prog σ Q A E α) (g : G) (s : σ) : Prop :=
  Keeps P ok (fun _ g _ => done g) (fun _ g _ => done g) p g s ∧ ∀ upd k, p ≠ .step upd k

namespace Suspended
variable {σ Q : Type} {A : Q → Type} {E G α : Type} {P : Protocol σ G} {ok : ∀ q, A q → σ → Prop}
  {done : G → Prop} {p : Prog σ Q A E α} {g : G} {s s' : σ}

theorem env (h : Suspended P ok done p g s) (he : P.env g s s') : Suspended P ok done p g s' := by
  refine ⟨?_, h.2⟩
  cases p with
  | pure a => exact h.1
  | throw e => exact h.1
  | step upd k => exact absurd rfl (h.2 upd k)
  | wait ready k => exact fun s'' h'' hi hr => h.1 s'' (P.env_trans he h'') hi hr
  | call q k => exact fun s'' h'' hi a ha => h.1 s'' (P.env_trans he h'') hi a ha
  | stuck => trivial

theorem woken {answers : ∀ q, A q → Bool} {ans : ∀ q, A q} {p' : Prog σ Q A E α}
    (h : Suspended P ok done p g s) (hi : P.inv s)
    (hans : ∀ q k, p = .call q k → answers q (ans q) → ok q (ans q) s)
    (hw : p.wake answers ans s = some p') :
    Keeps P ok (fun _ g _ => done g) (fun _ g _ => done g) p' g s := by
  cases p with
  | wait ready k =>
    by_cases hr : ready s = true
    · simp only [Prog.wake, hr, if_true, Option.some.injEq] at hw
      exact hw ▸ h.1 s (P.env_refl g s) hi hr
    · simp [Prog.wake, hr] at hw
  | call q k =>
    by_cases ha : answers q (ans q) = true
    · simp only [Prog.wake, ha, if_true, Option.some.injEq] at hw
      exact hw ▸ h.1 s (P.env_refl g s) hi _ (hans q _ rfl ha)
    · simp [Prog.wake, ha] at hw
  | _ => simp [Prog.wake] at hw

end Suspended

theorem Prog.advance_ne_step {σ Q : Type} {A : Q → Type} {E α : Type} :
    ∀ (p : Prog σ Q A E α) (s : σ) (upd k), (p.advance s).2 ≠ .step upd k
  | .step upd k, s, _, _ => (k s).advance_ne_step (upd s) _ _
  | .pure _, _, _, _ => nofun
  | .throw _, _, _, _ => nofun
  | .wait _ _, _, _, _ => nofun
  | .call _ _, _, _, _ => nofun
  | .stuck, _, _, _ => nofun

/-! ## whole runs -/

section runs
variable {σ Q : Type} {A : Q → Type} {E G α R X : Type}

/-- what comes in from outside: the requests, the answers that the handler of a request may get in a
store, and the events that a store may see -/
structure Terms (σ Q : Type) (A : Q → Type) (R X : Type) where
  accept : R → Prop
  ok : R → ∀ q, A q → σ → Prop
  event : X → σ → Prop

/-- on the terms `T` the handlers follow `P` from the state `g₀` to a `done` one; `share gs s` says
that handlers in the states `gs` can be at work on the store `s` next to each other -/
structure Governs (P : Protocol σ G) (S : System σ Q A E α R X) (T : Terms σ Q A R X)
    (share : List G → σ → Prop) (g₀ : G) (done : G → Prop) : Prop where
  handler : ∀ r s, T.accept r → P.inv s →
    Keeps P (T.ok r) (fun _ g _ => done g) (fun _ g _ => done g) (S.handler r) g₀ s
  share_new : ∀ {gs s}, share gs s → share (gs ++ [g₀]) s
  share_move : ∀ {gs : List G} {i g s s' g'}, P.inv s → share gs s → gs[i]? = some g →
    P.move g s s' g' →
      share (gs.set i g') s' ∧ ∀ j h, j ≠ i → gs[j]? = some h → P.env h s s'
  event : ∀ x {gs s}, T.event x s → P.inv s → share gs s →
    P.inv (S.event x s) ∧ share gs (S.event x s) ∧ ∀ g, P.env g s (S.event x s)
  restart : ∀ {s}, P.inv s → P.inv (S.restart s) ∧ share [] (S.restart s)

/-- the handlers at work in `c` are in the states `gs` -/
structure Follows (P : Protocol σ G) (T : Terms σ Q A R X) (share : List G → σ → Prop)
    (done : G → Prop) (c : Config σ Q A E α R) (gs : List G) : Prop where
  inv : P.inv c.store
  share : share gs c.store
  length : c.threads.length = gs.length
  threads : ∀ (i : Nat) (t : Thread σ Q A E α R) (g : G), c.threads[i]? = some t → gs[i]? = some g →
    Suspended P (T.ok t.req) done t.prog g c.store

/-- what a choice brings in from outside is on the terms `T` -/
def Choice.Allowed (S : System σ Q A E α R X) (T : Terms σ Q A R X) (c : Config σ Q A E α R) :
    Choice Q A R X → Prop
  | .run (.arrive r) | .crash (.arrive r) _ => T.accept r
  | .run (.resume i ans) | .crash (.resume i ans) _ =>
    ∀ t, c.threads[i]? = some t → ∀ q k, t.prog = .call q k → S.answers q (ans q) →
      T.ok t.req q (ans q) c.store
  | .event x => T.event x c.store

/-! ## evaluating terms -/

/-- what a suspended handler asks -/
def Thread.question (t : Thread σ Q A E α R) : Option Q :=
  match t.prog with
  | .call q _ => some q
  | _ => none

/-- `check` of the question whose answer the choice brings in -/
def Choice.checks (check : ∀ q, A q → σ → Bool) (c : Config σ Q A E α R) : Choice Q A R X → Bool
  | .run (.resume i ans) | .crash (.resume i ans) _ =>
    (c.threads[i]?).all fun t => t.question.all fun q => check q (ans q) c.store
  | _ => true

def System.checks (S : System σ Q A E α R X) (check : ∀ q, A q → σ → Bool) :
    Config σ Q A E α R → List (Choice Q A R X) → Bool
  | _, [] => true
  | c, x :: xs => x.checks check c && S.checks check (S.next c x) xs

theorem Choice.allowed_of_checks {S : System σ Q A E α R X} {T : Terms σ Q A R X}
    {check : ∀ q, A q → σ → Bool} (ha : ∀ r, T.accept r) (he : ∀ x s, T.event x s)
    (ho : ∀ r q a s, check q a s → T.ok r q a s) {c : Config σ Q A E α R} {x : Choice Q A R X}
    (h : x.checks check c) : x.Allowed S T c := by
  have resumed : ∀ (i : Nat) (ans : ∀ q, A q),
      ((c.threads[i]?).all fun t => t.question.all fun q => check q (ans q) c.store) = true →
      ∀ t, c.threads[i]? = some t → ∀ q k, t.prog = .call q k →
        S.answers q (ans q) → T.ok t.req q (ans q) c.store := by
    intro i ans h t ht q k hp _
    have hq : t.question = some q := by simp [Thread.question, hp]
    rw [ht, Option.all_some, hq, Option.all_some] at h
    exact ho t.req q _ _ h
  cases x with
  | event x => exact he x c.store
  | run a => cases a with
    | arrive r => exact ha r
    | resume i ans => exact resumed i ans h
  | crash a n => cases a with
    | arrive r => exact ha r
    | resume i ans => exact resumed i ans h

theorem System.meets_of_checks {S : System σ Q A E α R X} {T : Terms σ Q A R X}
    {check : ∀ q, A q → σ → Bool} (ha : ∀ r, T.accept r) (he : ∀ x s, T.event x s)
    (ho : ∀ r q a s, check q a s → T.ok r q a s) {xs : List (Choice Q A R X)} :
    ∀ {c : Config σ Q A E α R}, S.checks check c xs → S.Meets (fun c x => x.Allowed S T c) c xs := by
  induction xs with
  | nil => exact fun _ => trivial
  | cons x xs ih =>
    intro c h
    have h := Bool.and_eq_true_iff.mp h
    exact ⟨Choice.allowed_of_checks ha he ho h.1, ih h.2⟩

variable {P : Protocol σ G} {S : System σ Q A E α R X} {T : Terms σ Q A R X}
  {share : List G → σ → Prop} {g₀ : G} {done : G → Prop} {c : Config σ Q A E α R} {gs : List G}

theorem Governs.path (h : Governs P S T share g₀ done) {g s g' s'} (hp : Path P g s g' s') :
    ∀ {gs : List G} {i}, P.inv s → share gs s → gs[i]? = some g →
      share (gs.set i g') s' ∧ ∀ j h, j ≠ i → gs[j]? = some h → P.env h s s' := by
  induction hp with
  | nil =>
    intro gs i _ hs hg
    refine ⟨?_, fun _ _ _ _ => P.env_refl _ _⟩
    obtain ⟨hlt, rfl⟩ := List.getElem?_eq_some_iff.mp hg
    rwa [List.set_getElem_self hlt]
  | cons hm _ ih =>
    intro gs i hi hs hg
    obtain ⟨hs', he'⟩ := h.share_move hi hs hg hm
    have hlt : i < gs.length := (List.getElem?_eq_some_iff.mp hg).1
    obtain ⟨hs'', he''⟩ := ih (P.inv_move hi hm) hs' (by rw [List.getElem?_set_self hlt])
    refine ⟨by simpa using hs'', fun j g hj hg => P.env_trans (he' j g hj hg) (he'' j g hj ?_)⟩
    rwa [List.getElem?_set_ne (Ne.symm hj)]

/-- the thread that `i` and `ans` resume follows the protocol from the store it wakes up in -/
theorem Follows.woken (hf : Follows P T share done c gs) {i ans t}
    (hans : ∀ t, c.threads[i]? = some t → ∀ q k, t.prog = .call q k → S.answers q (ans q) →
      T.ok t.req q (ans q) c.store) (hw : S.woken c i ans = some t) : ∃ g, gs[i]? = some g ∧
      Keeps P (T.ok t.req) (fun _ g _ => done g) (fun _ g _ => done g) t.prog g c.store := by
  unfold System.woken at hw
  split at hw
  case h_2 => simp at hw
  case h_1 t' ht =>
    obtain ⟨p', hp', rfl⟩ := Option.map_eq_some_iff.mp hw
    have hlt : i < gs.length := hf.length ▸ (List.getElem?_eq_some_iff.mp ht).1
    have hg : gs[i]? = some gs[i] := List.getElem?_eq_getElem hlt
    exact ⟨gs[i], hg, (hf.threads i t' _ ht hg).woken hf.inv (hans t' ht) hp'⟩

/-- **one choice keeps every handler in the protocol** -/
theorem Governs.next (h : Governs P S T share g₀ done) (hf : Follows P T share done c gs)
    (x : Choice Q A R X) (hx : x.Allowed S T c) :
    ∃ gs', Follows P T share done (S.next c x) gs' := by
  have hi := hf.inv
  have restarted : ∀ {s}, P.inv s →
      Follows P T share done (⟨S.restart s, []⟩ : Config σ Q A E α R) [] := fun hi =>
    ⟨(h.restart hi).1, (h.restart hi).2, rfl, by simp⟩
  cases x with
  | event x =>
    obtain ⟨hi', hs', he⟩ := h.event x hx hi hf.share
    exact ⟨gs, hi', hs', hf.length, fun i t g ht hg => (hf.threads i t g ht hg).env (he g)⟩
  | crash a n =>
    cases a with
    | arrive r =>
      obtain ⟨_, hp⟩ := (h.handler r c.store hx hi).cut n
      exact ⟨[], restarted (hp.inv hi)⟩
    | resume i ans =>
      cases hw : S.woken c i ans with
      | none => exact S.next_crash_none hw n ▸ ⟨[], restarted hi⟩
      | some t =>
        rw [S.next_crash hw]
        obtain ⟨g, _, hk⟩ := hf.woken hx hw
        obtain ⟨_, hp⟩ := hk.cut n
        exact ⟨[], restarted (hp.inv hi)⟩
  | run a =>
    cases a with
    | arrive r =>
      obtain ⟨g', hp, hk⟩ := (h.handler r c.store hx hi).advance
      obtain ⟨hs', he⟩ := h.path (i := gs.length) hp hi (h.share_new hf.share) (by simp)
      rw [List.set_append_right _ _ (Nat.le_refl _), Nat.sub_self, List.set_cons_zero] at hs'
      refine ⟨gs ++ [g'], hp.inv hi, hs', by simp [System.next, hf.length], ?_⟩
      intro j t g ht hg
      rcases Nat.lt_trichotomy j gs.length with hj | rfl | hj
      · rw [List.getElem?_append_left hj] at hg
        have ht' : c.threads[j]? = some t := by
          rwa [System.next, List.getElem?_append_left (hf.length ▸ hj)] at ht
        exact (hf.threads j t g ht' hg).env
          (he j g (Nat.ne_of_lt hj) (by rwa [List.getElem?_append_left hj]))
      · rw [List.getElem?_append_right (Nat.le_refl _)] at hg
        rw [System.next, List.getElem?_append_right (Nat.le_of_eq hf.length)] at ht
        simp [hf.length] at ht hg
        exact ht ▸ hg ▸ ⟨hk, Prog.advance_ne_step _ _⟩
      · have : (gs ++ [g'])[j]? = none := by simp; omega
        rw [this] at hg
        cases hg
    | resume i ans =>
      cases hw : S.woken c i ans with
      | none => exact ⟨gs, (S.next_resume_none hw).symm ▸ hf⟩
      | some t =>
        rw [S.next_resume hw]
        obtain ⟨g, hg, hk⟩ := hf.woken hx hw
        obtain ⟨g', hp, hk'⟩ := hk.advance
        obtain ⟨hs', he⟩ := h.path hp hi hf.share hg
        refine ⟨gs.set i g', hp.inv hi, hs', by simp [hf.length], ?_⟩
        intro j t' h' ht' hh'
        rcases eq_or_ne j i with rfl | hj
        · have hlt : j < gs.length := (List.getElem?_eq_some_iff.mp hg).1
          rw [List.getElem?_set_self hlt] at hh'
          rw [List.getElem?_set_self (hf.length ▸ hlt)] at ht'
          cases hh'
          cases ht'
          exact ⟨hk', Prog.advance_ne_step _ _⟩
        · rw [List.getElem?_set_ne (Ne.symm hj)] at hh' ht'
          exact (hf.threads j t' h' ht' hh').env (he j h' hj hh')

/-- **every reachable configuration follows the protocol** -/
theorem Governs.run (h : Governs P S T share g₀ done) (xs : List (Choice Q A R X)) :
    ∀ {c gs}, Follows P T share done c gs → S.Meets (fun c x => x.Allowed S T c) c xs →
      ∃ gs', Follows P T share done (S.run c xs) gs' := by
  induction xs with
  | nil => exact fun hf _ => ⟨_, hf⟩
  | cons x xs ih =>
    intro c gs hf hxs
    obtain ⟨gs', hf'⟩ := h.next hf x hxs.1
    exact ih hf' hxs.2

/-- a preorder on stores that moves, events and crashes keep -/
structure Hist (P : Protocol σ G) (S : System σ Q A E α R X) (T : Terms σ Q A R X)
    (hist : σ → σ → Prop) : Prop where
  refl : ∀ s, hist s s
  trans : ∀ {s s' s''}, hist s s' → hist s' s'' → hist s s''
  move : ∀ {g s s' g'}, P.inv s → P.move g s s' g' → hist s s'
  event : ∀ x {s}, T.event x s → P.inv s → hist s (S.event x s)
  restart : ∀ {s}, P.inv s → hist s (S.restart s)

theorem Hist.next {hist : σ → σ → Prop} (H : Hist P S T hist) (h : Governs P S T share g₀ done)
    (hf : Follows P T share done c gs) (x : Choice Q A R X) (hx : x.Allowed S T c) :
    hist c.store (S.next c x).store := by
  have hi := hf.inv
  have path : ∀ {g s g' s'}, P.inv s → Path P g s g' s' → hist s s' := fun hi hp =>
    hp.history H.refl H.trans H.move hi
  cases x with
  | event x => exact H.event x hx hi
  | crash a n =>
    cases a with
    | arrive r =>
      obtain ⟨_, hp⟩ := (h.handler r c.store hx hi).cut n
      exact H.trans (path hi hp) (H.restart (hp.inv hi))
    | resume i ans =>
      cases hw : S.woken c i ans with
      | none => exact S.next_crash_none hw n ▸ H.restart hi
      | some t =>
        rw [S.next_crash hw]
        obtain ⟨g, _, hk⟩ := hf.woken hx hw
        obtain ⟨_, hp⟩ := hk.cut n
        exact H.trans (path hi hp) (H.restart (hp.inv hi))
  | run a =>
    cases a with
    | arrive r =>
      obtain ⟨_, hp, _⟩ := (h.handler r c.store hx hi).advance
      exact path hi hp
    | resume i ans =>
      cases hw : S.woken c i ans with
      | none => exact (S.next_resume_none hw).symm ▸ H.refl _
      | some t =>
        rw [S.next_resume hw]
        obtain ⟨g, _, hk⟩ := hf.woken hx hw
        obtain ⟨_, hp, _⟩ := hk.advance
        exact path hi hp

/-- **the preorder relates every earlier store of a run to every later one** -/
theorem Hist.run {hist : σ → σ → Prop} (H : Hist P S T hist)
    (h : Governs P S T share g₀ done) (xs : List (Choice Q A R X)) :
    ∀ {c gs}, Follows P T share done c gs → S.Meets (fun c x => x.Allowed S T c) c xs →
      hist c.store (S.run c xs).store := by
  induction xs with
  | nil => exact fun _ _ => H.refl _
  | cons x xs ih =>
    intro c gs hf hxs
    obtain ⟨gs', hf'⟩ := h.next hf x hxs.1
    exact H.trans (H.next h hf x hxs.1) (ih hf' hxs.2)

end runs
end Async
