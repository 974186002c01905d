import CloudflareShard.Async.Moves

/-!
# Handlers all of whose sections are of one kind

A piece of a handler that only looks around, or touches what a condition does not speak about, needs
no account of the store it runs in.

* `Prog.Only`                      all sections are of a kind, whatever the answers are;
* `Only.bind`, `Only.rescue`, ...  its rules;
* `Rules.Does.of_only`             **such a piece makes only moves**, when sections of the kind are;
* `Prog.Ends`                      a handler that only looks, and what it ends with.
-/

namespace Async
variable {σ Q : Type} {A : Q → Type} {E α β : Type}

/-- all sections of the handler are of the kind `W`, and it ends with `post` -/
inductive Prog.Only (W : σ → σ → Prop) (post : α → Prop) : Prog σ Q A E α → Prop
  | pure {a} (h : post a) : Only W post (.pure a)
  | throw {e} : Only W post (.throw e)
  | step {upd k} (h : ∀ s, W s (upd s)) (hk : ∀ s, Only W post (k s)) : Only W post (.step upd k)
  | wait {ready k} (hk : Only W post k) : Only W post (.wait ready k)
  | call {q k} (hk : ∀ a, Only W post (k a)) : Only W post (.call q k)
  | stuck : Only W post .stuck

namespace Prog.Only
variable {W : σ → σ → Prop} {post post' : α → Prop} {p : Prog σ Q A E α}

theorem mono (hp : p.Only W post) (h : ∀ a, post a → post' a) : p.Only W post' := by
  induction hp with
  | pure ha => exact .pure (h _ ha)
  | throw => exact .throw
  | step hw _ ih => exact .step hw ih
  | wait _ ih => exact .wait ih
  | call _ ih => exact .call ih
  | stuck => exact .stuck

theorem done (hp : p.Only W post) : p.Only W fun _ => True := hp.mono fun _ _ => trivial

theorem widen {W' : σ → σ → Prop} (hp : p.Only W post) (h : ∀ s s', W s s' → W' s s') :
    p.Only W' post := by
  induction hp with
  | pure ha => exact .pure ha
  | throw => exact .throw
  | step hw _ ih => exact .step (fun s => h _ _ (hw s)) ih
  | wait _ ih => exact .wait ih
  | call _ ih => exact .call ih
  | stuck => exact .stuck

theorem bind {qpost : β → Prop} {f : α → Prog σ Q A E β} (hp : p.Only W post)
    (hf : ∀ a, post a → (f a).Only W qpost) : (p >>= f).Only W qpost := by
  induction hp with
  | pure ha => exact hf _ ha
  | throw => exact .throw
  | step hw _ ih => exact .step hw ih
  | wait _ ih => exact .wait ih
  | call _ ih => exact .call ih
  | stuck => exact .stuck

theorem rescue {h : E → Prog σ Q A E α} (hp : p.Only W post) (hh : ∀ e, (h e).Only W post) :
    (p.rescue h).Only W post := by
  induction hp with
  | pure ha => exact .pure ha
  | throw => exact hh _
  | step hw _ ih => exact .step hw ih
  | wait _ ih => exact .wait ih
  | call _ ih => exact .call ih
  | stuck => exact .stuck

theorem attempt (hp : p.Only W post) : p.attempt.Only W fun r => ∀ a, r = .ok a → post a := by
  have hpure : (p >>= fun a => .pure (.ok a)).Only W
      fun r : Except E α => ∀ a, r = .ok a → post a := by
    refine hp.bind fun a ha => .pure fun b hb => ?_
    cases hb
    exact ha
  exact hpure.rescue fun e => .pure fun a h => nomatch h

theorem pause : (.pause : Prog σ Q A E Unit).Only W fun _ => True := .wait (.pure trivial)

theorem ask {q : Q} : (.ask q : Prog σ Q A E (A q)).Only W fun _ => True :=
  .call fun _ => .pure trivial

theorem modify {upd : σ → σ} (h : ∀ s, W s (upd s)) :
    (.modify upd : Prog σ Q A E Unit).Only W fun _ => True := .step h fun _ => .pure trivial

theorem read (h : ∀ s, W s s) : (.read : Prog σ Q A E σ).Only W fun _ => True :=
  .step h fun _ => .pure trivial

theorem ofExcept {x : Except E α} : (.ofExcept x : Prog σ Q A E α).Only W fun a => x = .ok a := by
  cases x with
  | ok a => exact .pure rfl
  | error e => exact .throw

theorem transact {f : σ → Except E (α × σ)} (refl : ∀ s, W s s)
    (h : ∀ s a s', f s = .ok (a, s') → W s s') :
    (.transact f : Prog σ Q A E α).Only W fun _ => True := by
  refine .step (fun s => ?_) fun s => ?_
  · cases hf : f s with
    | ok r => exact h s r.1 r.2 hf
    | error e => exact refl s
  · cases f s with
    | ok r => exact .pure trivial
    | error e => exact .throw

theorem andFinally {fin : σ → σ} (hp : p.Only W post) (hfin : ∀ s, W s (fin s)) :
    (p.andFinally fin).Only W post := by
  refine hp.attempt.bind fun r hr => (modify hfin).bind fun _ _ => ?_
  cases r with
  | ok a => exact .pure (hr a rfl)
  | error e => exact .throw

/-- `fin` runs at the first await of `p`, or where `p` ends -/
theorem unawaited {fin : σ → σ} (hp : p.Only W post) (hfin : ∀ s, W s (fin s)) :
    (p.unawaited fin).Only W post := by
  induction hp with
  | step hw _ ih => exact .step hw ih
  | pure ha => exact .step hfin fun _ => .pure ha
  | throw => exact .step hfin fun _ => .throw
  | wait hk _ => exact .step hfin fun _ => .wait hk
  | call hk _ => exact .step hfin fun _ => .call hk
  | stuck => exact .step hfin fun _ => .stuck

end Prog.Only

namespace Rules.Does
variable {R : Rules σ} {ok : ∀ q, A q → σ → Prop} {s : σ}

/-- a piece of a handler whose sections are moves wherever it runs -/
theorem of_only {W : σ → σ → Prop} {post : α → Prop} {p : Prog σ Q A E α} (hp : p.Only W post)
    (hW : ∀ {s s'}, R.inv s → W s s' → R.move s s') : R.Does ok p (fun a _ => post a) s := by
  induction hp generalizing s with
  | pure ha => exact pure ha
  | throw => exact throw
  | step hw _ ih => exact step (fun hi => hW hi (hw s)) (ih s)
  | wait _ ih => exact wait fun _ _ _ => ih
  | call _ ih => exact call fun _ a _ _ => ih a
  | stuck => exact stuck

theorem andFinally {p : Prog σ Q A E α} {post : α → σ → Prop} {fin : σ → σ}
    (hp : R.Does ok p post s) (hfin : ∀ {s'}, R.inv s' → R.move s' (fin s')) :
    R.Does ok (p.andFinally fin) (fun a s' => ∃ s₀, post a s₀ ∧ s' = fin s₀) s := by
  refine hp.attempt.bind fun r s' _ h => ?_
  refine (modify fun hi => hfin hi).bind fun _ s'' _ hs => ?_
  cases r with
  | ok a => exact pure ⟨s', h a rfl, hs⟩
  | error e => exact throw

/-- `fin` runs at the first await of `p`, or where `p` ends -/
theorem unawaited {fin : σ → σ} (hfin : ∀ {s'}, R.inv s' → R.move s' (fin s')) :
    ∀ {p : Prog σ Q A E α} {s : σ}, R.Does ok p (fun _ _ => True) s →
      R.Does ok (p.unawaited fin) (fun _ _ => True) s
  | .step _ _, _, h => fun hs =>
    have ⟨_, hm, hk⟩ := h hs
    ⟨(), hm, unawaited hfin (fun _ => hk) (R.inv_move hs hm.2)⟩
  | .pure _, _, _ => step hfin (pure trivial)
  | .throw _, _, _ => step hfin throw
  | .wait _ _, _, h => fun hs =>
    ⟨(), ⟨hs, hfin hs⟩, fun s' hl => h hs s' ((Later.of_move hs (hfin hs)).trans hl)⟩
  | .call _ _, _, h => fun hs =>
    ⟨(), ⟨hs, hfin hs⟩, fun s' hl => h hs s' ((Later.of_move hs (hfin hs)).trans hl)⟩
  | .stuck, _, _ => step hfin stuck

end Rules.Does

/-! ## handlers that only look -/

/-- the handler writes nothing and ends with `post`, whatever happens at its awaits, when the stores
it looks at have `F` -/
inductive Prog.Ends (F : σ → Prop) (post : α → Prop) : Prog σ Q A E α → Prop
  | pure {a} (h : post a) : Ends F post (.pure a)
  | step {upd k} (h : ∀ s, F s → upd s = s) (hk : ∀ s, F s → Ends F post (k s)) :
    Ends F post (.step upd k)
  | wait {ready k} (h : ∀ s, ready s) (hk : Ends F post k) : Ends F post (.wait ready k)
  | call {q k} (hk : ∀ a, Ends F post (k a)) : Ends F post (.call q k)

namespace Prog.Ends
variable {F : σ → Prop} {post : α → Prop} {p : Prog σ Q A E α}

theorem mono {post' : α → Prop} (hp : p.Ends F post) (h : ∀ a, post a → post' a) :
    p.Ends F post' := by
  induction hp with
  | pure ha => exact .pure (h _ ha)
  | step hs _ ih => exact .step hs ih
  | wait hr _ ih => exact .wait hr ih
  | call _ ih => exact .call ih

theorem bind {qpost : β → Prop} {f : α → Prog σ Q A E β} (hp : p.Ends F post)
    (hf : ∀ a, post a → (f a).Ends F qpost) : (p >>= f).Ends F qpost := by
  induction hp with
  | pure ha => exact hf _ ha
  | step h _ ih => exact .step h ih
  | wait h _ ih => exact .wait h ih
  | call _ ih => exact .call ih

theorem rescue {h : E → Prog σ Q A E α} (hp : p.Ends F post) : (p.rescue h).Ends F post := by
  induction hp with
  | pure ha => exact .pure ha
  | step h _ ih => exact .step h ih
  | wait h _ ih => exact .wait h ih
  | call _ ih => exact .call ih

theorem pause : (.pause : Prog σ Q A E Unit).Ends F fun _ => True :=
  .wait (fun _ => rfl) (.pure trivial)

theorem read : (.read : Prog σ Q A E σ).Ends F F := .step (fun _ _ => rfl) fun _ hs => .pure hs

theorem ofExcept {a : α} : (.ofExcept (.ok a) : Prog σ Q A E α).Ends F (· = a) := .pure rfl

end Prog.Ends
end Async
