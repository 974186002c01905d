import CloudflareShard.Async.Prog

/-!
# A handler that runs alone

No other handler comes in at its awaits.  The `n`-th await gets the answer `ans n`, and the object may
crash after any number of sections; an answer counts as received when the section after it is run.

* `Prog.alone`        the store and the answers a handler leaves behind;
* `Alone`             what holds wherever it stops, its rules;
* `alone_spec`        **a handler that is proved to stay `Alone` does**.
-/

namespace Async
variable {σ Q : Type} {A : Q → Type} {E α β : Type}

/-- the questions that were answered, in order -/
abbrev Answered (Q : Type) (A : Q → Type) := List (Σ q, A q)

structure Ending (σ Q : Type) (A : Q → Type) (E α : Type) where
  store : σ
  prog : Prog σ Q A E α
  answered : Answered Q A

namespace Prog

/-- `p` after at most `sections` sections; `n` awaits are behind it -/
def alone (ans : Nat → ∀ q, A q) : Prog σ Q A E α → (sections n : Nat) → Answered Q A → σ →
    Ending σ Q A E α
  | step upd k, sections + 1, n, l, s => (k s).alone ans sections n l (upd s)
  | wait ready k, sections, n, l, s =>
    if ready s then k.alone ans sections (n + 1) l s else ⟨s, wait ready k, l⟩
  | call q k, sections + 1, n, l, s =>
    (k (ans n q)).alone ans (sections + 1) (n + 1) (l ++ [⟨q, ans n q⟩]) s
  | p, _, _, l, s => ⟨s, p, l⟩

end Prog

/-- the handler stops with `stop` where it is cut off or waits, with `post` or `epost` where it ends -/
def Alone (ans : Nat → ∀ q, A q) (stop : Answered Q A → σ → Prop)
    (post : α → Answered Q A → σ → Prop) (epost : E → Answered Q A → σ → Prop) :
    Prog σ Q A E α → Nat → Answered Q A → σ → Prop
  | .pure a, _, l, s => post a l s
  | .throw e, _, l, s => epost e l s
  | .step upd k, n, l, s => stop l s ∧ Alone ans stop post epost (k s) n l (upd s)
  | .wait ready k, n, l, s =>
    stop l s ∧ (ready s → Alone ans stop post epost k (n + 1) l s)
  | .call q k, n, l, s =>
    stop l s ∧ Alone ans stop post epost (k (ans n q)) (n + 1) (l ++ [⟨q, ans n q⟩]) s
  | .stuck, _, l, s => stop l s

section
variable {ans : Nat → ∀ q, A q} {stop : Answered Q A → σ → Prop}
  {post post' : α → Answered Q A → σ → Prop} {epost epost' : E → Answered Q A → σ → Prop}

namespace Alone

theorem bind {qpost : β → Answered Q A → σ → Prop} {f : α → Prog σ Q A E β}
    (hf : ∀ a n l s, post a l s → Alone ans stop qpost epost (f a) n l s) :
    ∀ {p : Prog σ Q A E α} {n l s}, Alone ans stop post epost p n l s →
      Alone ans stop qpost epost (p.bind f) n l s
  | .pure a, n, l, s, h => hf a n l s h
  | .throw _, _, _, _, h => h
  | .step _ _, _, _, _, ⟨hs, hk⟩ => ⟨hs, bind hf hk⟩
  | .wait _ _, _, _, _, ⟨hs, hk⟩ => ⟨hs, fun hr => bind hf (hk hr)⟩
  | .call _ _, _, _, _, ⟨hs, hk⟩ => ⟨hs, bind hf hk⟩
  | .stuck, _, _, _, h => h

theorem rescue {h : E → Prog σ Q A E α}
    (hh : ∀ e n l s, epost e l s → Alone ans stop post epost' (h e) n l s) :
    ∀ {p : Prog σ Q A E α} {n l s}, Alone ans stop post epost p n l s →
      Alone ans stop post epost' (p.rescue h) n l s
  | .pure _, _, _, _, hp => hp
  | .throw e, n, l, s, hp => hh e n l s hp
  | .step _ _, _, _, _, ⟨hs, hk⟩ => ⟨hs, Alone.rescue hh hk⟩
  | .wait _ _, _, _, _, ⟨hs, hk⟩ => ⟨hs, fun hr => Alone.rescue hh (hk hr)⟩
  | .call _ _, _, _, _, ⟨hs, hk⟩ => ⟨hs, Alone.rescue hh hk⟩
  | .stuck, _, _, _, hp => hp

theorem mono (hpost : ∀ a l s, post a l s → post' a l s)
    (hepost : ∀ e l s, epost e l s → epost' e l s) :
    ∀ {p : Prog σ Q A E α} {n l s}, Alone ans stop post epost p n l s →
      Alone ans stop post' epost' p n l s
  | .pure a, _, l, s, h => hpost a l s h
  | .throw e, _, l, s, h => hepost e l s h
  | .step _ _, _, _, _, ⟨hs, hk⟩ => ⟨hs, mono hpost hepost hk⟩
  | .wait _ _, _, _, _, ⟨hs, hk⟩ => ⟨hs, fun hr => mono hpost hepost (hk hr)⟩
  | .call _ _, _, _, _, ⟨hs, hk⟩ => ⟨hs, mono hpost hepost hk⟩
  | .stuck, _, _, _, h => h

theorem weaken {stop' : Answered Q A → σ → Prop} (hstop : ∀ l s, stop l s → stop' l s) :
    ∀ {p : Prog σ Q A E α} {n l s}, Alone ans stop post epost p n l s →
      Alone ans stop' post epost p n l s
  | .pure _, _, _, _, h => h
  | .throw _, _, _, _, h => h
  | .step _ _, _, l, s, ⟨hs, hk⟩ => ⟨hstop l s hs, weaken hstop hk⟩
  | .wait _ _, _, l, s, ⟨hs, hk⟩ => ⟨hstop l s hs, fun hr => weaken hstop (hk hr)⟩
  | .call _ _, _, l, s, ⟨hs, hk⟩ => ⟨hstop l s hs, weaken hstop hk⟩
  | .stuck, _, l, s, h => hstop l s h

/-- `attempt` takes a thrown error for a value -/
theorem attempt {apost : Except E α → Answered Q A → σ → Prop}
    (hpost : ∀ a l s, post a l s → apost (.ok a) l s)
    (hepost : ∀ e l s, epost e l s → apost (.error e) l s) {p : Prog σ Q A E α} {n l s}
    (h : Alone ans stop post epost p n l s) : Alone ans stop apost epost' p.attempt n l s := by
  have h₁ : Alone ans stop apost epost (p.bind fun a => .pure (.ok a)) n l s :=
    bind (fun a _ l s ha => show Alone ans stop apost epost (.pure (.ok a)) _ l s from hpost a l s ha) h
  exact Alone.rescue
    (fun e _ l s he => show Alone ans stop apost epost' (.pure (.error e)) _ l s from hepost e l s he) h₁

theorem andFinally {fin : σ → σ} (hpost : ∀ a l s, post a l s → stop l s ∧ post' a l (fin s))
    (hepost : ∀ e l s, epost e l s → stop l s ∧ epost' e l (fin s)) {p : Prog σ Q A E α} {n l s}
    (h : Alone ans stop post epost p n l s) :
    Alone ans stop post' epost' (p.andFinally fin) n l s := by
  have hattempt : Alone ans stop
      (fun r l s => (∃ a, r = .ok a ∧ post a l s) ∨ ∃ e, r = .error e ∧ epost e l s) epost'
      p.attempt n l s := Alone.attempt (fun a _ _ h => .inl ⟨a, rfl, h⟩) (fun e _ _ h => .inr ⟨e, rfl, h⟩) h
  refine Alone.bind (fun r n l s hr => ?_) hattempt
  rcases hr with ⟨a, rfl, ha⟩ | ⟨e, rfl, he⟩
  · exact hpost a l s ha
  · exact hepost e l s he

/-- a handler stays where a condition on its answers and the store can never fail again -/
theorem always (hmono : ∀ l s q (a : A q), stop l s → stop (l ++ [⟨q, a⟩]) s)
    (hstep : ∀ l s (upd : σ → σ), stop l s → stop l (upd s)) :
    ∀ {p : Prog σ Q A E α} {n l s}, stop l s →
      Alone ans stop (fun _ => stop) (fun _ => stop) p n l s
  | .pure _, _, _, _, h => h
  | .throw _, _, _, _, h => h
  | .step upd _, _, l, s, h => ⟨h, always hmono hstep (hstep l s upd h)⟩
  | .wait _ _, _, _, _, h => ⟨h, fun _ => always hmono hstep h⟩
  | .call q _, _, l, s, h => ⟨h, always hmono hstep (hmono l s q _ h)⟩
  | .stuck, _, _, _, h => h

end Alone

/-- where a handler stopped -/
def Ending.Holds (stop : Answered Q A → σ → Prop) (post : α → Answered Q A → σ → Prop)
    (epost : E → Answered Q A → σ → Prop) : Ending σ Q A E α → Prop
  | ⟨s, .pure a, l⟩ => post a l s
  | ⟨s, .throw e, l⟩ => epost e l s
  | ⟨s, _, l⟩ => stop l s

/-- **a handler that is proved to stay `Alone` does**, after any number of sections -/
theorem alone_spec : ∀ {p : Prog σ Q A E α} {n l s} (sections : Nat),
    Alone ans stop post epost p n l s →
      (p.alone ans sections n l s).Holds stop post epost
  | .pure _, _, _, _, _, h => h
  | .throw _, _, _, _, _, h => h
  | .step _ _, _, _, _, 0, h => h.1
  | .step _ _, _, _, _, sections + 1, h => alone_spec sections h.2
  | .wait ready k, n, l, s, sections, h => by
    by_cases hr : ready s = true
    · simp only [Prog.alone, hr, if_true]
      exact alone_spec sections (h.2 hr)
    · simp only [Prog.alone, hr]
      exact h.1
  | .call _ _, _, _, _, 0, h => h.1
  | .call q k, n, l, s, sections + 1, h => by
    simp only [Prog.alone]
    exact alone_spec (sections + 1) h.2
  | .stuck, _, _, _, _, h => h

end
end Async
