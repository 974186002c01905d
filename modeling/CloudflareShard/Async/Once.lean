import CloudflareShard.Async.Answers
import CloudflareShard.Async.Only

/-!
# Handlers that commit at most once

All sections of such a handler are of a kind `W`, but for one of the kind `V` at most.  What it ends
with tells whether that section was run.

* `Prog.Once`                 the handlers, with what they may end with before and after; its rules;
* `Once.advance`              what one burst makes of such a handler;
* `OnceAt.bursts`             **a handler that ends as if nothing was committed only made `W` bursts**.
-/

namespace Async
variable {σ Q : Type} {A : Q → Type} {E α β R X : Type}

/-- a burst that holds one section of the kind `V` -/
def Commit (W V : σ → σ → Prop) (s s' : σ) : Prop := ∃ s₁ s₂, W s s₁ ∧ V s₁ s₂ ∧ W s₂ s'

/-- a section of the kind `W`, or the one of the kind `V` -/
def Marks (W V : σ → σ → Prop) (b : Bool) (s s' : σ) (b' : Bool) : Prop :=
  (b' = b ∧ W s s') ∨ (b = false ∧ b' = true ∧ V s s')

/-- `b` says whether the section of the kind `V` is behind the handler -/
inductive Prog.Once (W V : σ → σ → Prop) (post : Bool → α → Prop) (epost : Bool → E → Prop) :
    Bool → Prog σ Q A E α → Prop
  | pure {b a} (h : post b a) : Once W V post epost b (.pure a)
  | throw {b e} (h : epost b e) : Once W V post epost b (.throw e)
  | step {b upd k} (next : σ → Bool) (h : ∀ s, Marks W V b s (upd s) (next s))
      (hk : ∀ s, Once W V post epost (next s) (k s)) : Once W V post epost b (.step upd k)
  | wait {b ready k} (hk : Once W V post epost b k) : Once W V post epost b (.wait ready k)
  | call {b q k} (hk : ∀ a, Once W V post epost b (k a)) : Once W V post epost b (.call q k)
  | stuck {b} : Once W V post epost b .stuck

namespace Prog.Once
variable {W V : σ → σ → Prop} {post : Bool → α → Prop} {epost epost' : Bool → E → Prop}
  {p : Prog σ Q A E α} {b : Bool} {s : σ}

/-- a section of the kind `W` -/
theorem quiet {upd : σ → σ} {k : σ → Prog σ Q A E α} (h : ∀ s, W s (upd s))
    (hk : ∀ s, (k s).Once W V post epost b) : (Prog.step upd k).Once W V post epost b :=
  .step (fun _ => b) (fun s => .inl ⟨rfl, h s⟩) hk

theorem mono {post' : Bool → α → Prop} (hp : p.Once W V post epost b)
    (h : ∀ b a, post b a → post' b a) (he : ∀ b e, epost b e → epost' b e) :
    p.Once W V post' epost' b := by
  induction hp with
  | pure ha => exact .pure (h _ _ ha)
  | throw ha => exact .throw (he _ _ ha)
  | step next hw _ ih => exact .step next hw ih
  | wait _ ih => exact .wait ih
  | call _ ih => exact .call ih
  | stuck => exact .stuck

/-- a handler that only makes sections of the kind `W` -/
theorem of_only {qpost : α → Prop} (hp : p.Only W qpost) :
    p.Once W V (fun c a => c = b ∧ qpost a) (fun c _ => c = b) b := by
  induction hp with
  | pure ha => exact .pure ⟨rfl, ha⟩
  | throw => exact .throw rfl
  | step hw _ ih => exact quiet hw ih
  | wait _ ih => exact .wait ih
  | call _ ih => exact .call ih
  | stuck => exact .stuck

theorem bind {qpost : Bool → β → Prop} {f : α → Prog σ Q A E β} (hp : p.Once W V post epost b)
    (hf : ∀ c a, post c a → (f a).Once W V qpost epost c) :
    (p >>= f).Once W V qpost epost b := by
  induction hp with
  | pure ha => exact hf _ _ ha
  | throw ha => exact .throw ha
  | step next hw _ ih => exact .step next hw ih
  | wait _ ih => exact .wait ih
  | call _ ih => exact .call ih
  | stuck => exact .stuck

theorem rescue {h : E → Prog σ Q A E α} (hp : p.Once W V post epost b)
    (hh : ∀ c e, epost c e → (h e).Once W V post epost' c) :
    (p.rescue h).Once W V post epost' b := by
  induction hp with
  | pure ha => exact .pure ha
  | throw ha => exact hh _ _ ha
  | step next hw _ ih => exact .step next hw ih
  | wait _ ih => exact .wait ih
  | call _ ih => exact .call ih
  | stuck => exact .stuck

theorem attempt (hp : p.Once W V post epost b) :
    p.attempt.Once W V (fun c r => match r with | .ok a => post c a | .error e => epost c e)
      epost' b := by
  have hpure : (p >>= fun a => .pure (.ok a)).Once W V
      (fun c (r : Except E α) => match r with | .ok a => post c a | .error e => epost c e)
      epost b := hp.bind fun _ _ ha => .pure ha
  exact hpure.rescue fun _ _ he => .pure he

theorem andFinally {fin : σ → σ} (hp : p.Once W V post epost b) (hfin : ∀ s, W s (fin s)) :
    (p.andFinally fin).Once W V post epost b := by
  have hattempt : p.attempt.Once W V
      (fun c r => match r with | .ok a => post c a | .error e => epost c e) epost b := hp.attempt
  refine hattempt.bind fun c r hr => ?_
  refine quiet hfin fun _ => ?_
  cases r with
  | ok a => exact .pure hr
  | error e => exact .throw hr

/-- one storage transaction is the section of the kind `V` -/
theorem transact {f : σ → Except E (α × σ)} (refl : ∀ s, W s s)
    (h : ∀ s a s', f s = .ok (a, s') → V s s') (hpost : ∀ s a s', f s = .ok (a, s') → post true a)
    (hepost : ∀ e, epost false e) :
    (.transact f : Prog σ Q A E α).Once W V post epost false := by
  refine .step (fun s => (f s).isOk) (fun s => ?_) fun s => ?_
  · cases hf : f s with
    | ok r => exact .inr ⟨rfl, rfl, h s r.1 r.2 hf⟩
    | error e => exact .inl ⟨rfl, refl s⟩
  · cases hf : f s with
    | ok r => exact .pure (hpost s r.1 r.2 hf)
    | error e => exact .throw (hepost e)

/-- a burst of sections of the kind `W`, or one that holds the section of the kind `V` -/
theorem advance (refl : ∀ s, W s s) (trans : ∀ {s s' s''}, W s s' → W s' s'' → W s s'')
    (hp : p.Once W V post epost b) (s : σ) :
    (W s (p.advance s).1 ∧ (p.advance s).2.Once W V post epost b) ∨
      (b = false ∧ Commit W V s (p.advance s).1 ∧ (p.advance s).2.Once W V post epost true) := by
  induction hp generalizing s with
  | pure ha => exact .inl ⟨refl s, .pure ha⟩
  | throw ha => exact .inl ⟨refl s, .throw ha⟩
  | @step b upd k next hw hk ih =>
    rcases hw s with ⟨hb, hw⟩ | ⟨hb, hb', hv⟩
    · have h := ih s (upd s)
      rw [hb] at h
      rcases h with ⟨hw', hrest⟩ | ⟨hb, ⟨s₁, s₂, h₁, hv, h₂⟩, hrest⟩
      · exact .inl ⟨trans hw hw', hrest⟩
      · exact .inr ⟨hb, ⟨s₁, s₂, trans hw h₁, hv, h₂⟩, hrest⟩
    · have h := ih s (upd s)
      rw [hb'] at h
      rcases h with ⟨hw', hrest⟩ | ⟨hfalse, _⟩
      · exact .inr ⟨hb, ⟨s, upd s, refl s, hv, hw'⟩, hrest⟩
      · cases hfalse
  | wait hk => exact .inl ⟨refl s, .wait hk⟩
  | call hk => exact .inl ⟨refl s, .call hk⟩
  | stuck => exact .inl ⟨refl s, .stuck⟩

theorem woken {answers : ∀ q, A q → Bool} {ans : ∀ q, A q} {k : Prog σ Q A E α}
    (hp : p.Once W V post epost b) (hw : p.wake answers ans s = some k) :
    k.Once W V post epost b := by
  cases hp with
  | wait hk =>
    simp only [Prog.wake] at hw
    split at hw
    · cases hw
      exact hk
    · cases hw
  | call hk =>
    simp only [Prog.wake] at hw
    split at hw
    · cases hw
      exact hk _
    · cases hw
  | _ => cases hw

end Prog.Once

/-! ## the bursts of one handler -/

/-- the choice goes on with the handler `i` -/
def Choice.resumes (i : Nat) : Choice Q A R X → Prop
  | .run (.resume j _) => j = i
  | _ => False

section
variable {W V : σ → σ → Prop} {post : Bool → α → Prop} {epost : Bool → E → Prop}
  {S : System σ Q A E α R X} {c : Config σ Q A E α R} {x : Choice Q A R X} {i : Nat} {b : Bool}

/-- the handler `i` commits at most once, and has when `b` -/
def OnceAt (W V : σ → σ → Prop) (post : Bool → α → Prop) (epost : Bool → E → Prop) (i : Nat)
    (b : Bool) (c : Config σ Q A E α R) : Prop :=
  ∃ t, c.threads[i]? = some t ∧ t.prog.Once W V post epost b

variable (refl : ∀ s, W s s) (trans : ∀ {s s' s''}, W s s' → W s' s'' → W s s'')
include refl trans

theorem OnceAt.arrive {r : R} (hr : (S.handler r).Once W V post epost false) :
    (OnceAt W V post epost c.threads.length false (S.next c (.run (.arrive r))) ∧
      W c.store (S.next c (.run (.arrive r))).store) ∨
    (OnceAt W V post epost c.threads.length true (S.next c (.run (.arrive r))) ∧
      Commit W V c.store (S.next c (.run (.arrive r))).store) := by
  have hthread : (S.next c (.run (.arrive r))).threads[c.threads.length]? =
      some ⟨r, 0, ((S.handler r).advance c.store).2⟩ := by simp [System.next]
  rcases hr.advance refl trans c.store with ⟨hw, hk⟩ | ⟨_, hv, hk⟩
  · exact .inl ⟨⟨_, hthread, hk⟩, hw⟩
  · exact .inr ⟨⟨_, hthread, hk⟩, hv⟩

/-- a step leaves the handler as it was, or commits -/
theorem OnceAt.next (hc : OnceAt W V post epost i b c) (hx : x.survives) :
    (OnceAt W V post epost i b (S.next c x) ∧
      (x.resumes i → W c.store (S.next c x).store)) ∨
    (b = false ∧ OnceAt W V post epost i true (S.next c x) ∧
      Commit W V c.store (S.next c x).store) := by
  obtain ⟨t₀, ht₀, hp⟩ := hc
  obtain ⟨t, ht⟩ := thread_next (S := S) hx ht₀
  cases fate x ht with
  | arrived r => simp at ht₀
  | resumed _ ans u k hu hk =>
    cases hu.symm.trans ht₀
    have hw : S.woken c i ans = some ⟨t₀.req, t₀.awaits + 1, k⟩ := by simp [System.woken, hu, hk]
    have hstore := congrArg Config.store (S.next_resume hw)
    rcases (hp.woken hk).advance refl trans c.store with ⟨hw, hrest⟩ | ⟨hb, hv, hrest⟩
    · exact .inl ⟨⟨_, ht, hrest⟩, fun _ => hstore ▸ hw⟩
    · exact .inr ⟨hb, ⟨_, ht, hrest⟩, hstore ▸ hv⟩
  | kept _ _ _ hi hkept hlive =>
    cases hi.symm.trans ht₀
    refine .inl ⟨⟨t₀, ht, hp⟩, fun hres => ?_⟩
    cases x with
    | event x => cases hres
    | crash a n => cases hres
    | run a =>
      cases a with
      | arrive r => cases hres
      | resume j ans =>
        cases hres
        have hnone : S.woken c i ans = none := by simp [System.woken, hi, hkept ans rfl]
        rw [S.next_resume_none hnone]
        exact refl c.store

theorem OnceAt.run_committed (xs : List (Choice Q A R X)) :
    ∀ {c : Config σ Q A E α R}, OnceAt W V post epost i true c → (∀ x ∈ xs, x.survives) →
      OnceAt W V post epost i true (S.run c xs) := by
  induction xs with
  | nil => exact fun hc _ => hc
  | cons x xs ih =>
    intro c hc hs
    refine ih ?_ fun y hy => hs y (List.mem_cons_of_mem _ hy)
    rcases hc.next refl trans (hs x List.mem_cons_self) with h | h
    · exact h.1
    · exact absurd h.1 nofun

theorem OnceAt.run (us : List (Choice Q A R X)) :
    ∀ {c : Config σ Q A E α R} {b}, OnceAt W V post epost i b c → (∀ x ∈ us, x.survives) →
      ∃ b', OnceAt W V post epost i b' (S.run c us) := by
  induction us with
  | nil => exact fun hc _ => ⟨_, hc⟩
  | cons x us ih =>
    intro c b hc hs
    have hs' : ∀ y ∈ us, y.survives := fun y hy => hs y (List.mem_cons_of_mem _ hy)
    rcases hc.next refl trans (hs x List.mem_cons_self) with h | h
    · exact ih h.1 hs'
    · exact ih h.2.1 hs'

/-- a burst of the handler is of the kind `W`, or commits -/
theorem OnceAt.burst (hc : OnceAt W V post epost i b c) (hx : x.survives) (hres : x.resumes i) :
    W c.store (S.next c x).store ∨ Commit W V c.store (S.next c x).store := by
  rcases hc.next refl trans hx with h | h
  · exact .inl (h.2 hres)
  · exact .inr h.2.2

/-- **a handler that has committed nothing at the end of a run only made bursts of the kind `W`** -/
theorem OnceAt.bursts (us : List (Choice Q A R X)) :
    ∀ {c : Config σ Q A E α R} {u : Choice Q A R X} {vs : List (Choice Q A R X)},
      OnceAt W V post epost i false c → (∀ x ∈ us ++ u :: vs, x.survives) →
      ¬OnceAt W V post epost i true (S.run c (us ++ u :: vs)) → u.resumes i →
        W (S.run c us).store (S.next (S.run c us) u).store := by
  induction us with
  | nil =>
    intro c u vs hc hs hend hu
    rcases hc.next refl trans (hs u List.mem_cons_self) with h | h
    · exact h.2 hu
    · exact absurd (OnceAt.run_committed refl trans vs h.2.1
        fun y hy => hs y (List.mem_cons_of_mem _ hy)) hend
  | cons x us ih =>
    intro c u vs hc hs hend hu
    have hs' : ∀ y ∈ us ++ u :: vs, y.survives := fun y hy => hs y (List.mem_cons_of_mem _ hy)
    rcases hc.next refl trans (hs x List.mem_cons_self) with h | h
    · exact ih h.1 hs' hend hu
    · exact absurd (OnceAt.run_committed refl trans _ h.2.1 hs') hend

end
end Async
