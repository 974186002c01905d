import Mathlib.Logic.Basic

/-!
# Handlers of a single-threaded object

An object owns a store `σ` and runs any number of handlers on it.  A handler has the store to itself
from one await to the next; other handlers, the clock and crashes come in only at an await.

* `Prog σ Q A E α`   a handler: sections, awaits of an internal promise, awaited questions;
* `Prog.advance`     a handler up to its next await, `Prog.cut` the store when it crashes before;
* `Protocol σ G`     what a handler whose own state is `g : G` may do and may rely on;
* `Keeps`            a handler follows a protocol and ends with its postcondition;
* `Keeps.bind`, `Keeps.rescue`, `Keeps.mono`, `Keeps.inv_post`   the rules a handler is proved by.
-/

namespace Async

/-- a handler over the store `σ` that asks questions `q : Q`, gets answers `A q` and throws `E` -/
inductive Prog (σ Q : Type) (A : Q → Type) (E α : Type) : Type where
  | pure (a : α)
  | throw (e : E)
  /-- a section: the store becomes `upd s`, the rest sees the store `s` from before it -/
  | step (upd : σ → σ) (k : σ → Prog σ Q A E α)
  /-- await of an internal promise that is resolved when `ready` holds -/
  | wait (ready : σ → Bool) (k : Prog σ Q A E α)
  /-- await of an answer from outside -/
  | call (q : Q) (k : A q → Prog σ Q A E α)
  /-- await of a promise that is never resolved -/
  | stuck

namespace Prog
variable {σ Q : Type} {A : Q → Type} {E α β : Type}

def bind : Prog σ Q A E α → (α → Prog σ Q A E β) → Prog σ Q A E β
  | pure a, f => f a
  | throw e, _ => throw e
  | step upd k, f => step upd (fun s => (k s).bind f)
  | wait ready k, f => wait ready (k.bind f)
  | call q k, f => call q (fun a => (k a).bind f)
  | stuck, _ => stuck

instance : Monad (Prog σ Q A E) where
  pure := Prog.pure
  bind := Prog.bind

/-- `try p catch h` -/
def rescue : Prog σ Q A E α → (E → Prog σ Q A E α) → Prog σ Q A E α
  | pure a, _ => pure a
  | throw e, h => h e
  | step upd k, h => step upd (fun s => (k s).rescue h)
  | wait ready k, h => wait ready (k.rescue h)
  | call q k, h => call q (fun a => (k a).rescue h)
  | stuck, _ => stuck

/-- the outcome of `p` as a value -/
def attempt (p : Prog σ Q A E α) : Prog σ Q A E (Except E α) :=
  (p.bind fun a => pure (Except.ok a)).rescue fun e => pure (Except.error e)

def ofExcept : Except E α → Prog σ Q A E α
  | .ok a => pure a
  | .error e => throw e

/-- the store as the current section sees it -/
def read : Prog σ Q A E σ := step id pure

def modify (upd : σ → σ) : Prog σ Q A E Unit := step upd (fun _ => pure ())

/-- a section that takes effect as a whole, or throws and leaves the store as it was -/
def transact (f : σ → Except E (α × σ)) : Prog σ Q A E α :=
  step (fun s => match f s with | .ok r => r.2 | .error _ => s)
    (fun s => match f s with | .ok r => pure r.1 | .error e => throw e)

def ask (q : Q) : Prog σ Q A E (A q) := call q pure

/-- an await that nothing else decides -/
def pause : Prog σ Q A E Unit := wait (fun _ => true) (pure ())

/-- `try { return await p } finally { fin }` -/
def andFinally (p : Prog σ Q A E α) (fin : σ → σ) : Prog σ Q A E α :=
  p.attempt.bind fun r => (modify fin).bind fun _ => ofExcept r

/-- `try { return p } finally { fin }`: `fin` runs where `p` first awaits, or where it ends -/
def unawaited (fin : σ → σ) : Prog σ Q A E α → Prog σ Q A E α
  | step upd k => step upd (fun s => unawaited fin (k s))
  | p => step fin (fun _ => p)

/-! ## running -/

/-- runs a handler up to its next await -/
def advance : Prog σ Q A E α → σ → σ × Prog σ Q A E α
  | step upd k, s => (k s).advance (upd s)
  | p, s => (s, p)

/-- the store after at most `n` sections of the burst that `advance` runs -/
def cut : Prog σ Q A E α → Nat → σ → σ
  | step upd k, n + 1, s => (k s).cut n (upd s)
  | _, _, s => s

/-- the continuation of a suspended handler, when what it awaits is there -/
def wake (ok : ∀ q, A q → Bool) (ans : ∀ q, A q) (s : σ) :
    Prog σ Q A E α → Option (Prog σ Q A E α)
  | wait ready k => if ready s then some k else none
  | call q k => if ok q (ans q) then some (k (ans q)) else none
  | _ => none

def finished : Prog σ Q A E α → Bool
  | pure _ => true
  | throw _ => true
  | _ => false

@[simp] theorem pure_eq (a : α) : (Pure.pure a : Prog σ Q A E α) = pure a := rfl
@[simp] theorem bind_eq (p : Prog σ Q A E α) (f : α → Prog σ Q A E β) : p >>= f = p.bind f := rfl

end Prog

/-! ## protocols -/

/-- `inv` holds of every store; a handler whose own state is `g` may go from `s` to `s'` and from `g`
to `g'` when `move g s s' g'`, and while it is suspended the store changes only within `env g` -/
structure Protocol (σ G : Type) where
  inv : σ → Prop
  move : G → σ → σ → G → Prop
  env : G → σ → σ → Prop
  env_refl : ∀ g s, env g s s
  env_trans : ∀ {g s s' s''}, env g s s' → env g s' s'' → env g s s''
  inv_move : ∀ {g s s' g'}, inv s → move g s s' g' → inv s'

/-- **the handler follows the protocol from `g` and `s` on**, when all answers are `ok` in the store
they come into, and ends with `post` or throws `epost` -/
def Keeps {σ Q : Type} {A : Q → Type} {E G α : Type} (P : Protocol σ G) (ok : ∀ q, A q → σ → Prop)
    (post : α → G → σ → Prop) (epost : E → G → σ → Prop) : Prog σ Q A E α → G → σ → Prop
  | .pure a, g, s => post a g s
  | .throw e, g, s => epost e g s
  | .step upd k, g, s => ∃ g', P.move g s (upd s) g' ∧ Keeps P ok post epost (k s) g' (upd s)
  | .wait ready k, g, s => ∀ s', P.env g s s' → P.inv s' → ready s' → Keeps P ok post epost k g s'
  | .call q k, g, s => ∀ s', P.env g s s' → P.inv s' → ∀ a, ok q a s' →
      Keeps P ok post epost (k a) g s'
  | .stuck, _, _ => True

namespace Keeps
variable {σ Q : Type} {A : Q → Type} {E G α β : Type} {P : Protocol σ G} {ok : ∀ q, A q → σ → Prop}
  {post post' : α → G → σ → Prop} {epost epost' : E → G → σ → Prop}

theorem mono (hp : ∀ a g s, post a g s → post' a g s) (he : ∀ e g s, epost e g s → epost' e g s) :
    ∀ {p : Prog σ Q A E α} {g s}, Keeps P ok post epost p g s → Keeps P ok post' epost' p g s
  | .pure a, g, s, h => hp a g s h
  | .throw e, g, s, h => he e g s h
  | .step _ _, _, _, ⟨g', hm, hk⟩ => ⟨g', hm, mono hp he hk⟩
  | .wait _ _, _, _, h => fun s' hs' hi hr => mono hp he (h s' hs' hi hr)
  | .call _ _, _, _, h => fun s' hs' hi a ha => mono hp he (h s' hs' hi a ha)
  | .stuck, _, _, _ => trivial

theorem bind {qpost : β → G → σ → Prop} {f : α → Prog σ Q A E β}
    (hf : ∀ a g s, post a g s → Keeps P ok qpost epost (f a) g s) :
    ∀ {p : Prog σ Q A E α} {g s}, Keeps P ok post epost p g s →
      Keeps P ok qpost epost (p.bind f) g s
  | .pure a, g, s, h => hf a g s h
  | .throw _, _, _, h => h
  | .step _ _, _, _, ⟨g', hm, hk⟩ => ⟨g', hm, bind hf hk⟩
  | .wait _ _, _, _, h => fun s' hs' hi hr => bind hf (h s' hs' hi hr)
  | .call _ _, _, _, h => fun s' hs' hi a ha => bind hf (h s' hs' hi a ha)
  | .stuck, _, _, _ => trivial

theorem rescue {h : E → Prog σ Q A E α}
    (hh : ∀ e g s, epost e g s → Keeps P ok post epost' (h e) g s) :
    ∀ {p : Prog σ Q A E α} {g s}, Keeps P ok post epost p g s →
      Keeps P ok post epost' (p.rescue h) g s
  | .pure _, _, _, h => h
  | .throw e, g, s, h => hh e g s h
  | .step _ _, _, _, ⟨g', hm, hk⟩ => ⟨g', hm, Keeps.rescue hh hk⟩
  | .wait _ _, _, _, h => fun s' hs' hi hr => Keeps.rescue hh (h s' hs' hi hr)
  | .call _ _, _, _, h => fun s' hs' hi a ha => Keeps.rescue hh (h s' hs' hi a ha)
  | .stuck, _, _, _ => trivial

/-- the postconditions of a handler that starts from a store with the invariant may use it -/
theorem inv_post : ∀ {p : Prog σ Q A E α} {g s}, P.inv s → Keeps P ok post epost p g s →
    Keeps P ok (fun a g s => post a g s ∧ P.inv s) (fun e g s => epost e g s ∧ P.inv s) p g s
  | .pure _, _, _, hi, h => ⟨h, hi⟩
  | .throw _, _, _, hi, h => ⟨h, hi⟩
  | .step _ _, _, _, hi, ⟨g', hm, hk⟩ => ⟨g', hm, inv_post (P.inv_move hi hm) hk⟩
  | .wait _ _, _, _, _, h => fun s' hs' hi hr => inv_post hi (h s' hs' hi hr)
  | .call _ _, _, _, _, h => fun s' hs' hi a ha => inv_post hi (h s' hs' hi a ha)
  | .stuck, _, _, _, _ => trivial

/-- a preorder that moves and waiting keep relates the start of a handler to its end -/
theorem history (hist : σ → σ → Prop) (trans : ∀ {s s' s''}, hist s s' → hist s' s'' → hist s s'')
    (move : ∀ {g s s' g'}, P.move g s s' g' → hist s s')
    (env : ∀ {g s s'}, P.env g s s' → hist s s') (s₀ : σ) :
    ∀ {p : Prog σ Q A E α} {g s}, hist s₀ s → Keeps P ok post epost p g s →
      Keeps P ok (fun a g s => post a g s ∧ hist s₀ s) epost p g s
  | .pure _, _, _, hs, h => ⟨h, hs⟩
  | .throw _, _, _, _, h => h
  | .step _ _, _, _, hs, ⟨g', hm, hk⟩ =>
    ⟨g', hm, history hist trans move env s₀ (trans hs (move hm)) hk⟩
  | .wait _ _, _, _, hs, h => fun s' hs' hi hr =>
    history hist trans move env s₀ (trans hs (env hs')) (h s' hs' hi hr)
  | .call _ _, _, _, hs, h => fun s' hs' hi a ha =>
    history hist trans move env s₀ (trans hs (env hs')) (h s' hs' hi a ha)
  | .stuck, _, _, _, _ => trivial

theorem attempt {apost : Except E α → G → σ → Prop} (h : ∀ a g s, post a g s → apost (.ok a) g s)
    (h' : ∀ e g s, epost e g s → apost (.error e) g s) {epost'' : E → G → σ → Prop}
    {p : Prog σ Q A E α} {g s} (hp : Keeps P ok post epost p g s) :
    Keeps P ok apost epost'' p.attempt g s := by
  have hp' : Keeps P ok apost epost (p.bind fun a => .pure (.ok a)) g s := bind h hp
  exact rescue h' hp'

end Keeps
end Async
