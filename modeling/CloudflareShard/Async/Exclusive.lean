import CloudflareShard.Async.Barrier

/-!
# Work under a lock, and the errors it throws

A piece of a handler that holds the barrier, with a postcondition on what it returns and one on what
it throws, each with the store it does so in.

* `exclusive`             joins the chain, works, and resolves its promise however the work ends;
* `Guarded.Works`         a piece inside the barrier, and its rules;
* `Works.kept`            what everybody keeps holds between the start of a piece and its end;
* `exclusive_keeps`       **a handler that works under the lock**;
* `hist`                  what the ones outside see lies between any two stores of a run.
-/

namespace Async
open Barrier

/-- `tail.then(p, p)`, where the new tail is resolved when `p` has ended -/
def exclusive {σ Q : Type} {A : Q → Type} {E α : Type} (barrier : σ → Barrier)
    (chain : (Barrier → Barrier) → σ → σ) (p : Prog σ Q A E α) : Prog σ Q A E α :=
  .step (chain .take) fun s =>
    .wait (fun s' => (barrier s').released.contains (barrier s).tail)
      (p.attempt.bind fun r =>
        (Prog.modify (chain (.release ((barrier s).tail + 1)))).bind fun _ => Prog.ofExcept r)

namespace Guarded
variable {σ : Type} {W : Guarded σ} {Q : Type} {A : Q → Type} {E α β : Type}
  {ok : ∀ q, A q → σ → Prop}

/-- `p` runs inside the barrier from `s` on, ends with `post` and throws nothing but with `epost` -/
def Works (W : Guarded σ) (ok : ∀ q, A q → σ → Prop) (g : Option Nat) (p : Prog σ Q A E α)
    (post : α → σ → Prop) (epost : E → σ → Prop) (s : σ) : Prop :=
  Holds g (W.barrier s) → W.proto.inv s →
    Keeps W.proto ok (fun a g' s' => g' = g ∧ Holds g (W.barrier s') ∧ post a s')
      (fun e g' s' => g' = g ∧ Holds g (W.barrier s') ∧ epost e s') p g s

namespace Works
variable {g : Option Nat} {p : Prog σ Q A E α} {post post₂ : α → σ → Prop}
  {epost epost₂ : E → σ → Prop} {qpost : β → σ → Prop} {s : σ}

theorem mono (hp : W.Works ok g p post epost s) (h : ∀ a s', post a s' → post₂ a s')
    (h' : ∀ e s', epost e s' → epost₂ e s') : W.Works ok g p post₂ epost₂ s :=
  fun hg hs => Keeps.mono (fun a _ s' ⟨hg', hh, ha⟩ => ⟨hg', hh, h a s' ha⟩)
    (fun e _ s' ⟨hg', hh, he⟩ => ⟨hg', hh, h' e s' he⟩) (hp hg hs)

/-- a piece starts from a store with the invariant -/
theorem start (h : W.inv s → W.Works ok g p post epost s) : W.Works ok g p post epost s :=
  fun hg hs => h hs.2 hg hs

/-- and ends in one -/
theorem inv (hp : W.Works ok g p post epost s) :
    W.Works ok g p (fun a s' => post a s' ∧ W.inv s') (fun e s' => epost e s' ∧ W.inv s') s :=
  fun hg hs => Keeps.mono (fun _ _ _ ⟨⟨hg', hh, ha⟩, hs'⟩ => ⟨hg', hh, ha, hs'.2⟩)
    (fun _ _ _ ⟨⟨hg', hh, he⟩, hs'⟩ => ⟨hg', hh, he, hs'.2⟩) (Keeps.inv_post hs (hp hg hs))

theorem pure {a : α} (h : post a s) : W.Works ok g (Pure.pure a : Prog σ Q A E α) post epost s :=
  fun hg _ => ⟨rfl, hg, h⟩

theorem throw {e : E} (h : epost e s) : W.Works ok g (.throw e : Prog σ Q A E α) post epost s :=
  fun hg _ => ⟨rfl, hg, h⟩

/-- the rest of a function starts from what the part before it left -/
theorem bind {f : α → Prog σ Q A E β} (hp : W.Works ok g p post epost s)
    (hf : ∀ a s', post a s' → W.Works ok g (f a) qpost epost s') :
    W.Works ok g (p >>= f) qpost epost s := fun hg hs =>
  Keeps.bind (fun a g' s' h => by
    obtain ⟨⟨rfl, hh, ha⟩, hs'⟩ := h
    exact hf a s' ha hh hs')
    (Keeps.mono (fun _ _ _ => id) (fun _ _ _ h => h.1) (Keeps.inv_post hs (hp hg hs)))

theorem rescue {h : E → Prog σ Q A E α} (hp : W.Works ok g p post epost s)
    (hh : ∀ e s', epost e s' → W.Works ok g (h e) post epost₂ s') :
    W.Works ok g (p.rescue h) post epost₂ s :=
  fun hg hs =>
    Keeps.rescue (fun e g' s' he => by
      obtain ⟨⟨rfl, hg', he⟩, hs'⟩ := he
      exact hh e s' he hg' hs')
      (Keeps.mono (fun _ _ _ h => h.1) (fun _ _ _ => id) (Keeps.inv_post hs (hp hg hs)))

theorem attempt (hp : W.Works ok g p post epost s) :
    W.Works ok g p.attempt
      (fun r s' => (∀ a, r = .ok a → post a s') ∧ ∀ e, r = .error e → epost e s') epost₂ s := by
  have hok : W.Works ok g (p >>= fun a => .pure (Except.ok a))
      (fun r s' => (∀ a, r = .ok a → post a s') ∧ ∀ e, r = .error e → epost e s') epost s := by
    refine bind hp fun a s' ha => pure ⟨fun b hb => ?_, nofun⟩
    cases hb
    exact ha
  refine rescue hok fun e s' he => pure ⟨nofun, fun e' he' => ?_⟩
  cases he'
  exact he

theorem step {upd : σ → σ} {k : σ → Prog σ Q A E α}
    (h : W.inv s → W.work s (upd s) ∧ W.barrier (upd s) = W.barrier s)
    (hk : W.Works ok g (k s) post epost (upd s)) : W.Works ok g (.step upd k) post epost s := by
  intro hg hs
  obtain ⟨hm, hb⟩ := h hs.2
  have hmove : W.Move g s (upd s) g := .work hg hm hb
  exact ⟨g, hmove, hk (hb ▸ hg) (hmove.inv hs)⟩

theorem modify {upd : σ → σ} (h : W.inv s → W.work s (upd s) ∧ W.barrier (upd s) = W.barrier s) :
    W.Works ok g (.modify upd : Prog σ Q A E Unit) (fun _ s' => s' = upd s) epost s :=
  step h (pure rfl)

/-- the store is the same after it was read -/
theorem read {f : σ → Prog σ Q A E β} (hf : W.Works ok g (f s) qpost epost s)
    (hid : W.inv s → W.work s s) : W.Works ok g (.read >>= f) qpost epost s :=
  step (fun hi => ⟨hid hi, rfl⟩) hf

/-- a section that takes effect as a whole or throws -/
theorem transact {f : σ → Except E (α × σ)} (hid : W.inv s → W.work s s)
    (h : ∀ a s', f s = .ok (a, s') → W.inv s →
      (W.work s s' ∧ W.barrier s' = W.barrier s) ∧ post a s')
    (h' : ∀ e, f s = .error e → epost e s) : W.Works ok g (.transact f) post epost s := by
  refine start fun hi => ?_
  cases hf : f s with
  | ok r =>
    obtain ⟨hw, hpost⟩ := h r.1 r.2 hf hi
    refine step (fun _ => by simpa only [hf] using hw) ?_
    simp only [hf]
    exact pure hpost
  | error e =>
    refine step (fun _ => by simpa only [hf] using ⟨hid hi, trivial⟩) ?_
    simp only [hf]
    exact throw (h' e hf)

/-- what is asked is answered in a store that others have left alone but for quiet changes -/
theorem ask {q : Q} : W.Works ok g (.ask q : Prog σ Q A E (A q))
    (fun a s' => W.quiet s s' ∧ ok q a s') epost s := by
  intro hg _ s' he hs' a ha
  exact ⟨rfl, (he.holds hg).1, (he.holds hg).2, ha⟩

theorem pause : W.Works ok g (.pause : Prog σ Q A E Unit) (fun _ s' => W.quiet s s') epost s := by
  intro hg _ s' he hs' _
  exact ⟨rfl, (he.holds hg).1, (he.holds hg).2⟩

theorem ofExcept {r : Except E α} (h : ∀ a, r = .ok a → post a s)
    (h' : ∀ e, r = .error e → epost e s) : W.Works ok g (.ofExcept r) post epost s := by
  cases r with
  | ok a => exact pure (h a rfl)
  | error e => exact throw (h' e rfl)

/-- a piece that ends in a program of `Except` -/
theorem ite {c : Prop} [Decidable c] {p' : Prog σ Q A E α} (h : c → W.Works ok g p post epost s)
    (h' : ¬c → W.Works ok g p' post epost s) :
    W.Works ok g (if c then p else p') post epost s := by
  by_cases hc : c
  · rw [if_pos hc]
    exact h hc
  · rw [if_neg hc]
    exact h' hc

theorem kept_keeps {post : α → Option Nat → σ → Prop} {epost : E → Option Nat → σ → Prop} (s₀ : σ) :
    ∀ {p : Prog σ Q A E α} {g s}, W.proto.inv s → W.later s₀ s → Keeps W.proto ok post epost p g s →
      Keeps W.proto ok (fun a g s => post a g s ∧ W.later s₀ s)
        (fun e g s => epost e g s ∧ W.later s₀ s) p g s
  | .pure _, _, _, _, hl, h => ⟨h, hl⟩
  | .throw _, _, _, _, hl, h => ⟨h, hl⟩
  | .step _ _, _, _, hs, hl, ⟨g', hm, hk⟩ => by
    have hlater : W.later _ _ := match hm with
      | .side h _ => W.quiet_later (W.side_quiet h)
      | .work _ h _ => W.work_later hs.2 h
      | .alone _ h _ => W.work_later hs.2 h
      | .take h _ => W.quiet_later (W.side_quiet h)
      | .release _ h _ => W.quiet_later (W.side_quiet h)
    exact ⟨g', hm, kept_keeps s₀ (W.proto.inv_move hs hm) (W.later_trans hl hlater) hk⟩
  | .wait _ _, _, _, _, hl, h => fun s' he hs' hr =>
    kept_keeps s₀ hs' (W.later_trans hl he.later) (h s' he hs' hr)
  | .call _ _, _, _, _, hl, h => fun s' he hs' a ha =>
    kept_keeps s₀ hs' (W.later_trans hl he.later) (h s' he hs' a ha)
  | .stuck, _, _, _, _, _ => trivial

/-- **what everybody keeps holds between the start of a piece and its end** -/
theorem kept (hp : W.Works ok g p post epost s) :
    W.Works ok g p (fun a s' => post a s' ∧ W.later s s') (fun e s' => epost e s' ∧ W.later s s') s :=
  fun hg hs => Keeps.mono (fun _ _ _ ⟨⟨hg', hh, ha⟩, hl⟩ => ⟨hg', hh, ha, hl⟩)
    (fun _ _ _ ⟨⟨hg', hh, he⟩, hl⟩ => ⟨hg', hh, he, hl⟩)
    (kept_keeps s hs (W.later_refl s) (hp hg hs))

end Works

/-- **a handler that works under the lock** -/
theorem exclusive_keeps {chain : (Barrier → Barrier) → σ → σ}
    (hchain : ∀ f s, W.inv s → W.side s (chain f s) ∧ W.barrier (chain f s) = f (W.barrier s))
    {p : Prog σ Q A E α} {post : α → Prop} {epost : E → Prop} {s : σ} (hs : W.proto.inv s)
    (hp : ∀ g s, W.Works ok g p (fun a _ => post a) (fun e _ => epost e) s) :
    Keeps W.proto ok (fun a _ _ => post a) (fun e _ _ => epost e)
      (exclusive W.barrier chain p) none s := by
  obtain ⟨hside, htail⟩ := hchain .take s hs.2
  refine acquire_keeps (k := fun n => p.attempt.bind fun r =>
    (Prog.modify (chain (.release n))).bind fun _ => Prog.ofExcept r) hs hside htail ?_
  intro n s' hg hs'
  have hwork : W.Works ok (some n) p.attempt _ (fun _ _ => False) s' := (hp (some n) s').attempt
  replace hwork := hwork hg hs'
  refine Keeps.bind (fun r g s h => ?_)
    (Keeps.mono (fun _ _ _ => id) (fun e _ _ h => absurd h.1.2.2 id) (Keeps.inv_post hs' hwork))
  obtain ⟨⟨rfl, hg', hr⟩, hs''⟩ := h
  obtain ⟨hside', hrelease⟩ := hchain (.release n) s hs''.2
  refine ⟨none, .release hg' hside' hrelease, ?_⟩
  cases r with
  | ok a => exact hr.1 a rfl
  | error e => exact hr.2 e rfl

/-! ## runs -/

theorem Move.later {g s s' g'} (hi : W.inv s) (h : W.Move g s s' g') : W.later s s' := by
  cases h with
  | side h _ => exact W.quiet_later (W.side_quiet h)
  | work _ h _ => exact W.work_later hi h
  | alone _ h _ => exact W.work_later hi h
  | take h _ => exact W.quiet_later (W.side_quiet h)
  | release _ h _ => exact W.quiet_later (W.side_quiet h)

/-- what the ones outside see lies between any two stores of a run -/
theorem hist {Q : Type} {A : Q → Type} {E α R X : Type} {S : System σ Q A E α R X}
    {T : Terms σ Q A R X} (hevent : ∀ x {s}, T.event x s → W.inv s → W.later s (S.event x s))
    (hrestart : ∀ {s}, W.inv s → W.later s (S.restart s)) : Hist W.proto S T W.later where
  refl := W.later_refl
  trans := W.later_trans
  move hs hm := hm.later hs.2
  event x _ hx hs := hevent x hx hs.2
  restart hs := hrestart hs.2

end Guarded
end Async
