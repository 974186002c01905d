import CloudflareShard.Async.Run

/-!
# A handler that runs to its end

Nothing else happens while it runs, and every question `q` gets the answer `ans q`.

* `Prog.eval`                      the store and the outcome of such a run, if it ends;
* `Prog.eval_bind`, `eval_rescue`  the runs of composed handlers;
* `System.run_eval`                **such a run is one of the object**.
-/

namespace Async
variable {σ Q : Type} {A : Q → Type} {E α β : Type}

namespace Prog

/-- `none` is the outcome of a handler that waits for ever -/
def eval (ans : ∀ q, A q) : Prog σ Q A E α → σ → σ × Option (Except E α)
  | pure a, s => (s, some (.ok a))
  | throw e, s => (s, some (.error e))
  | step upd k, s => (k s).eval ans (upd s)
  | wait ready k, s => if ready s then k.eval ans s else (s, none)
  | call q k, s => (k (ans q)).eval ans s
  | stuck, s => (s, none)

variable {ans : ∀ q, A q}

/-- what comes behind a handler that has ended -/
def andThen (f : α → Prog σ Q A E β) (ans : ∀ q, A q) :
    σ × Option (Except E α) → σ × Option (Except E β)
  | (s, some (.ok a)) => (f a).eval ans s
  | (s, some (.error e)) => (s, some (.error e))
  | (s, none) => (s, none)

def orElse (h : E → Prog σ Q A E α) (ans : ∀ q, A q) :
    σ × Option (Except E α) → σ × Option (Except E α)
  | (s, some (.error e)) => (h e).eval ans s
  | r => r

theorem eval_bind (f : α → Prog σ Q A E β) :
    ∀ (p : Prog σ Q A E α) (s : σ), (p >>= f).eval ans s = andThen f ans (p.eval ans s)
  | pure _, _ => rfl
  | throw _, _ => rfl
  | step upd k, s => eval_bind f (k s) (upd s)
  | wait ready k, s => by
    by_cases hr : ready s = true
    · show (if ready s then (k >>= f).eval ans s else (s, none)) = _
      rw [if_pos hr, eval_bind f k s, eval, if_pos hr]
    · show (if ready s then (k >>= f).eval ans s else (s, none)) = _
      rw [if_neg hr, eval, if_neg hr]
      rfl
  | call q k, s => eval_bind f (k (ans q)) s
  | stuck, _ => rfl

theorem eval_rescue (h : E → Prog σ Q A E α) :
    ∀ (p : Prog σ Q A E α) (s : σ), (p.rescue h).eval ans s = orElse h ans (p.eval ans s)
  | pure _, _ => rfl
  | throw _, _ => rfl
  | step upd k, s => eval_rescue h (k s) (upd s)
  | wait ready k, s => by
    by_cases hr : ready s = true
    · show (if ready s then (k.rescue h).eval ans s else (s, none)) = _
      rw [if_pos hr, eval_rescue h k s, eval, if_pos hr]
    · show (if ready s then (k.rescue h).eval ans s else (s, none)) = _
      rw [if_neg hr, eval, if_neg hr]
      rfl
  | call q k, s => eval_rescue h (k (ans q)) s
  | stuck, _ => rfl

theorem eval_bind_ok {f : α → Prog σ Q A E β} {p : Prog σ Q A E α} {s s' : σ} {a : α}
    (h : p.eval ans s = (s', some (.ok a))) : (p >>= f).eval ans s = (f a).eval ans s' := by
  rw [eval_bind, h]
  rfl

theorem eval_bind_error {f : α → Prog σ Q A E β} {p : Prog σ Q A E α} {s s' : σ} {e : E}
    (h : p.eval ans s = (s', some (.error e))) : (p >>= f).eval ans s = (s', some (.error e)) := by
  rw [eval_bind, h]
  rfl

theorem eval_rescue_ok {h : E → Prog σ Q A E α} {p : Prog σ Q A E α} {s s' : σ} {a : α}
    (hp : p.eval ans s = (s', some (.ok a))) : (p.rescue h).eval ans s = (s', some (.ok a)) := by
  rw [eval_rescue, hp]
  rfl

theorem eval_rescue_error {h : E → Prog σ Q A E α} {p : Prog σ Q A E α} {s s' : σ} {e : E}
    (hp : p.eval ans s = (s', some (.error e))) : (p.rescue h).eval ans s = (h e).eval ans s' := by
  rw [eval_rescue, hp]
  rfl

theorem eval_transact_ok {f : σ → Except E (α × σ)} {s s' : σ} {a : α} (h : f s = .ok (a, s')) :
    (transact f : Prog σ Q A E α).eval ans s = (s', some (.ok a)) := by
  simp only [transact, eval, h]

theorem eval_ofExcept_ok {x : Except E α} {s : σ} {a : α} (h : x = .ok a) :
    (ofExcept x : Prog σ Q A E α).eval ans s = (s, some (.ok a)) := by
  rw [h]
  rfl

end Prog

/-! ## runs of the object -/

section
variable {R X : Type} {S : System σ Q A E α R X} {ans : ∀ q, A q} {s' : σ} {a : α}

/-- a handler at work is resumed until it has ended -/
theorem System.resume_eval (hans : ∀ q, S.answers q (ans q) = true) (i : Nat) (r : R)
    (p : Prog σ Q A E α) : ∀ (s : σ) (c : Config σ Q A E α R) (k : Nat),
      c.threads[i]? = some ⟨r, k, (p.advance s).2⟩ → c.store = (p.advance s).1 →
      p.eval ans s = (s', some (.ok a)) →
        ∃ n, (S.run c (List.replicate n (.run (.resume i ans)))).store = s' := by
  have step : ∀ (p q : Prog σ Q A E α) (s : σ) (c : Config σ Q A E α R) (k : Nat),
      (∀ c k, c.threads[i]? = some ⟨r, k, (p.advance s).2⟩ → c.store = (p.advance s).1 →
        ∃ n, (S.run c (List.replicate n (.run (.resume i ans)))).store = s') →
      c.threads[i]? = some ⟨r, k, q⟩ → c.store = s → q.wake S.answers ans s = some p →
        ∃ n, (S.run c (List.replicate n (.run (.resume i ans)))).store = s' := by
    intro p q s c k ih ht hs hw
    have hwoken : S.woken c i ans = some ⟨r, k + 1, p⟩ := by
      unfold System.woken
      rw [ht]
      show Option.map _ (q.wake S.answers ans c.store) = _
      rw [hs, hw]
      rfl
    have hlt : i < c.threads.length := (List.getElem?_eq_some_iff.mp ht).1
    obtain ⟨n, hn⟩ := ih (S.next c (.run (.resume i ans))) (k + 1)
      (by rw [S.next_resume hwoken, hs]; exact List.getElem?_set_self hlt)
      (by rw [S.next_resume hwoken, hs])
    exact ⟨n + 1, hn⟩
  induction p with
  | pure b =>
    intro s c k ht hs h
    cases h
    exact ⟨0, hs⟩
  | throw e => exact fun s c k ht hs h => absurd h (by simp [Prog.eval])
  | step upd k' ih => exact fun s c k ht hs h => ih s (upd s) c k ht hs h
  | wait ready k' ih =>
    intro s c k ht hs h
    by_cases hr : ready s = true
    · rw [Prog.eval, if_pos hr] at h
      exact step k' (.wait ready k') s c k (fun c k ht hs => ih s c k ht hs h) ht hs
        (by rw [Prog.wake, if_pos hr])
    · rw [Prog.eval, if_neg hr] at h
      exact absurd h (by simp)
  | call q k' ih =>
    intro s c k ht hs h
    exact step (k' (ans q)) (.call q k') s c k (fun c k ht hs => ih (ans q) s c k ht hs h) ht hs
      (by rw [Prog.wake, if_pos (hans q)])
  | stuck => exact fun s c k ht hs h => absurd h (by simp [Prog.eval])

/-- **a handler that runs to its end alone does so in a run of the object** -/
theorem System.run_eval (hans : ∀ q, S.answers q (ans q) = true) (c : Config σ Q A E α R) (r : R)
    (h : (S.handler r).eval ans c.store = (s', some (.ok a))) :
    ∃ xs, (S.run c xs).store = s' := by
  obtain ⟨n, hn⟩ := System.resume_eval (S := S) hans c.threads.length r (S.handler r) c.store
    (S.next c (.run (.arrive r))) 0 (by simp [System.next]) rfl h
  exact ⟨.run (.arrive r) :: List.replicate n (.run (.resume c.threads.length ans)), hn⟩

end
end Async
