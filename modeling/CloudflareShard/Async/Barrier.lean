import Mathlib.Tactic.Common
import CloudflareShard.Async.Run

/-!
# A chain of promises as a lock

Each handler that asks for the barrier puts its own promise at the end of the chain and waits for the
one before it; it resolves its own promise when it leaves.  Promises are numbered from 1, and the
handler's own state is the number of its promise.

* `Barrier`                    the chain;
* `Holds`, `Holds.unique`      who is inside, and that nobody else is;
* `Guarded`, `Guarded.proto`   what the one inside may do, what others may do next to it;
* `Guarded.governs`            **handlers that keep to this may run side by side**;
* `acquire`, `Held`            the program that joins the chain; a piece of a handler inside;
* `Stays`                      a piece of a handler that keeps its promise, and its rules.
-/

namespace Async

/-- `tail` is the newest promise of the chain -/
structure Barrier where
  tail : Nat
  released : List Nat

namespace Barrier

def fresh : Barrier := { tail := 0, released := [0] }

def take (b : Barrier) : Barrier := { b with tail := b.tail + 1 }

def release (n : Nat) (b : Barrier) : Barrier := { b with released := n :: b.released }

/-- promises are resolved in their order -/
def Ordered (b : Barrier) : Prop := ∀ n ∈ b.released, n ≤ b.tail ∧ ∀ m ≤ n, m ∈ b.released

/-- the promise `g` is there and not resolved -/
def Owns (g : Option Nat) (b : Barrier) : Prop := ∀ n, g = some n → n ≤ b.tail ∧ n ∉ b.released

/-- all promises before `g` are resolved -/
def Holds (g : Option Nat) (b : Barrier) : Prop :=
  ∃ n, g = some (n + 1) ∧ n ∈ b.released ∧ n + 1 ∉ b.released ∧ n + 1 ≤ b.tail

section
variable {b b' : Barrier} {g h : Option Nat} {n : Nat}

theorem Ordered.fresh : Ordered .fresh := by
  intro n hn
  have hn : n = 0 := by simpa [Barrier.fresh] using hn
  subst hn
  exact ⟨Nat.le_refl _, fun m hm => by simpa [Barrier.fresh] using hm⟩

theorem Ordered.take (hb : b.Ordered) : b.take.Ordered := by
  intro n hn
  have h := hb n hn
  exact ⟨Nat.le_succ_of_le h.1, h.2⟩

theorem Ordered.release (hb : b.Ordered) (hn : Holds (some n) b) : (b.release n).Ordered := by
  obtain ⟨m, hm, hprev, _, htail⟩ := hn
  cases hm
  intro k hk
  rcases List.mem_cons.mp hk with rfl | hk
  · refine ⟨htail, fun j hj => ?_⟩
    rcases Nat.lt_or_ge j (m + 1) with h | h
    · exact List.mem_cons_of_mem _ ((hb m hprev).2 j (by omega))
    · have : j = m + 1 := by omega
      simp [Barrier.release, this]
  · have h := hb k hk
    exact ⟨h.1, fun j hj => List.mem_cons_of_mem _ (h.2 j hj)⟩

theorem Holds.owns (h : Holds g b) : Owns g b := by
  obtain ⟨m, rfl, _, hnot, htail⟩ := h
  intro n hn
  cases hn
  exact ⟨htail, hnot⟩

/-- **nobody else is inside** -/
theorem Holds.unique (hb : b.Ordered) (hg : Holds g b) (hh : Holds h b) : g = h := by
  obtain ⟨m, rfl, hm, hm', _⟩ := hg
  obtain ⟨n, rfl, hn, hn', _⟩ := hh
  rcases Nat.lt_trichotomy m n with hlt | rfl | hlt
  · exact absurd ((hb n hn).2 (m + 1) hlt) hm'
  · rfl
  · exact absurd ((hb m hm).2 (n + 1) hlt) hn'

theorem Owns.take (h : Owns g b) : Owns g b.take := by
  intro n hn
  have := h n hn
  exact ⟨Nat.le_succ_of_le this.1, this.2⟩

theorem Holds.take (h : Holds g b) : Holds g b.take := by
  obtain ⟨m, hg, hm, hm', htail⟩ := h
  exact ⟨m, hg, hm, hm', Nat.le_succ_of_le htail⟩

theorem Owns.release (h : Owns g b) (hne : g ≠ some n) : Owns g (b.release n) := by
  intro m hm
  have hm' := h m hm
  refine ⟨hm'.1, fun hmem => ?_⟩
  rcases List.mem_cons.mp hmem with rfl | hmem
  · exact hne hm
  · exact hm'.2 hmem

theorem owns_new (hb : b.Ordered) : Owns (some (b.tail + 1)) b.take := by
  intro n hn
  cases hn
  refine ⟨Nat.le_refl _, fun hmem => ?_⟩
  have := (hb _ hmem).1
  omega

/-- a promise at the end of the chain holds the barrier once the one before it is resolved -/
theorem Owns.holds (h : Owns (some (n + 1)) b) (hn : n ∈ b.released) : Holds (some (n + 1)) b :=
  ⟨n, rfl, hn, (h _ rfl).2, (h _ rfl).1⟩

end
end Barrier

open Barrier

/-- a store with a barrier: `work` is done inside it, `side` at any time; the one inside sees others
change the store by `quiet` only, the ones outside see it change by `later` -/
structure Guarded (σ : Type) where
  barrier : σ → Barrier
  inv : σ → Prop
  work : σ → σ → Prop
  side : σ → σ → Prop
  quiet : σ → σ → Prop
  later : σ → σ → Prop
  quiet_refl : ∀ s, quiet s s
  quiet_trans : ∀ {s s' s''}, quiet s s' → quiet s' s'' → quiet s s''
  later_refl : ∀ s, later s s
  later_trans : ∀ {s s' s''}, later s s' → later s' s'' → later s s''
  side_quiet : ∀ {s s'}, side s s' → quiet s s'
  quiet_later : ∀ {s s'}, quiet s s' → later s s'
  work_later : ∀ {s s'}, inv s → work s s' → later s s'
  inv_work : ∀ {s s'}, inv s → work s s' → inv s'
  inv_side : ∀ {s s'}, inv s → side s s' → inv s'

namespace Guarded
variable {σ : Type} (W : Guarded σ)

inductive Move : Option Nat → σ → σ → Option Nat → Prop
  | side {g s s'} (h : W.side s s') (hb : W.barrier s' = W.barrier s) : Move g s s' g
  | work {g s s'} (hg : Holds g (W.barrier s)) (h : W.work s s') (hb : W.barrier s' = W.barrier s) :
      Move g s s' g
  /-- work of a handler that never took the barrier, while nobody is inside -/
  | alone {g s s'} (hfree : ∀ h, ¬Holds h (W.barrier s)) (h : W.work s s')
      (hb : W.barrier s' = W.barrier s) : Move g s s' g
  | take {s s'} (h : W.side s s') (hb : W.barrier s' = (W.barrier s).take) :
      Move none s s' (some ((W.barrier s).tail + 1))
  | release {n s s'} (hg : Holds (some n) (W.barrier s)) (h : W.side s s')
      (hb : W.barrier s' = (W.barrier s).release n) : Move (some n) s s' none

/-- what a handler with the promise `g` sees of the others -/
structure Env (g : Option Nat) (s s' : σ) : Prop where
  later : W.later s s'
  owns : Owns g (W.barrier s) → Owns g (W.barrier s')
  holds : Holds g (W.barrier s) → Holds g (W.barrier s') ∧ W.quiet s s'

variable {W}

theorem Move.inv {g s s' g'} (hs : (W.barrier s).Ordered ∧ W.inv s) (h : W.Move g s s' g') :
    (W.barrier s').Ordered ∧ W.inv s' := by
  obtain ⟨hb, hi⟩ := hs
  cases h with
  | side h he => exact ⟨he ▸ hb, W.inv_side hi h⟩
  | work _ h he => exact ⟨he ▸ hb, W.inv_work hi h⟩
  | alone _ h he => exact ⟨he ▸ hb, W.inv_work hi h⟩
  | take h he => exact ⟨he ▸ hb.take, W.inv_side hi h⟩
  | release hg h he => exact ⟨he ▸ hb.release hg, W.inv_side hi h⟩

variable (W)

def proto : Protocol σ (Option Nat) where
  inv s := (W.barrier s).Ordered ∧ W.inv s
  move := W.Move
  env := W.Env
  env_refl _ s := ⟨W.later_refl s, id, fun h => ⟨h, W.quiet_refl s⟩⟩
  env_trans h h' :=
    ⟨W.later_trans h.later h'.later, h'.owns ∘ h.owns, fun hg =>
      have hq := h.holds hg
      have hq' := h'.holds hq.1
      ⟨hq'.1, W.quiet_trans hq.2 hq'.2⟩⟩
  inv_move := Move.inv

/-- the handlers at work have promises of their own -/
structure Share (gs : List (Option Nat)) (s : σ) : Prop where
  owns : ∀ (i : Nat) (g : Option Nat), gs[i]? = some g → Owns g (W.barrier s)
  distinct : ∀ i j n : Nat, gs[i]? = some (some n) → gs[j]? = some (some n) → i = j

variable {W}

theorem Share.new {gs : List (Option Nat)} {s : σ} (h : W.Share gs s) : W.Share (gs ++ [none]) s := by
  have hget : ∀ i n : Nat, (gs ++ [none])[i]? = some (some n) → gs[i]? = some (some n) := by
    intro i n hi
    rcases Nat.lt_or_ge i gs.length with hlt | hge
    · rwa [List.getElem?_append_left hlt] at hi
    · rw [List.getElem?_append_right hge] at hi
      have hz : i - gs.length = 0 := by
        by_contra hne
        rw [List.getElem?_eq_none (by simp; omega)] at hi
        cases hi
      rw [hz] at hi
      cases hi
  refine ⟨fun i g hi => ?_, fun i j n hi hj => h.distinct i j n (hget i n hi) (hget j n hj)⟩
  cases g with
  | none => exact nofun
  | some n => exact h.owns i _ (hget i n hi)

theorem env_of_side {g s s'} (h : W.side s s') (hb : W.barrier s' = W.barrier s) :
    W.Env g s s' :=
  ⟨W.quiet_later (W.side_quiet h), fun ho => hb ▸ ho, fun hg => ⟨hb ▸ hg, W.side_quiet h⟩⟩

theorem env_of_take {g s s'} (h : W.side s s') (hb : W.barrier s' = (W.barrier s).take) :
    W.Env g s s' :=
  ⟨W.quiet_later (W.side_quiet h), fun ho => hb ▸ ho.take, fun hg => ⟨hb ▸ hg.take, W.side_quiet h⟩⟩

/-- **a move of one handler is in the environment of every other one** -/
theorem Share.move {gs : List (Option Nat)} {i g s s' g'} (hs : (W.barrier s).Ordered ∧ W.inv s)
    (h : W.Share gs s) (hi : gs[i]? = some g) (hm : W.Move g s s' g') :
    W.Share (gs.set i g') s' ∧ ∀ j h, j ≠ i → gs[j]? = some h → W.Env h s s' := by
  have hlt : i < gs.length := (List.getElem?_eq_some_iff.mp hi).1
  have hother : ∀ j h', j ≠ i → gs[j]? = some h' → Holds g (W.barrier s) →
      ¬Holds h' (W.barrier s) := by
    intro j h' hj hgj hg hh
    have heq := hg.unique hs.1 hh
    obtain ⟨n, rfl, _⟩ := hg
    exact hj (h.distinct j i (n + 1) (heq ▸ hgj) hi)
  have same : g' = g → (∀ g, Owns g (W.barrier s) → Owns g (W.barrier s')) →
      W.Share (gs.set i g') s' := by
    rintro rfl ho
    have hset : gs.set i g' = gs := by
      obtain ⟨_, rfl⟩ := List.getElem?_eq_some_iff.mp hi
      exact List.set_getElem_self hlt
    rw [hset]
    exact ⟨fun j g hj => ho g (h.owns j g hj), h.distinct⟩
  cases hm with
  | side hside hb =>
    exact ⟨same rfl fun g ho => hb ▸ ho, fun _ _ _ _ => env_of_side hside hb⟩
  | work hg hwork hb =>
    refine ⟨same rfl fun g ho => hb ▸ ho, fun j h' hj hgj => ?_⟩
    exact ⟨W.work_later hs.2 hwork, fun ho => hb ▸ ho,
      fun hh => absurd hh (hother j h' hj hgj hg)⟩
  | alone hfree hwork hb =>
    refine ⟨same rfl fun g ho => hb ▸ ho, fun j h' _ _ => ?_⟩
    exact ⟨W.work_later hs.2 hwork, fun ho => hb ▸ ho, fun hh => absurd hh (hfree h')⟩
  | take hside hb =>
    refine ⟨⟨fun j g hj => ?_, fun j k n hj hk => ?_⟩, fun _ _ _ _ => env_of_take hside hb⟩
    · rw [List.getElem?_set] at hj
      split_ifs at hj with hij
      · cases hj
        exact hb ▸ owns_new hs.1
      · exact hb ▸ (h.owns j g hj).take
    · have hold : ∀ j, j ≠ i → gs[j]? = some (some n) → n ≤ (W.barrier s).tail := fun j _ hj =>
        (h.owns j _ hj n rfl).1
      have hnew : ∀ j, (gs.set i (some ((W.barrier s).tail + 1)))[j]? = some (some n) →
          j = i ∧ n = (W.barrier s).tail + 1 ∨ j ≠ i ∧ gs[j]? = some (some n) := by
        intro j hj
        rw [List.getElem?_set] at hj
        split_ifs at hj with hij
        · cases hj
          exact .inl ⟨hij.symm, rfl⟩
        · exact .inr ⟨fun h => hij h.symm, hj⟩
      rcases hnew j hj with ⟨rfl, hn⟩ | ⟨hji, hgj⟩
      · rcases hnew k hk with ⟨rfl, _⟩ | ⟨hki, hgk⟩
        · rfl
        · have := hold k hki hgk
          omega
      · rcases hnew k hk with ⟨rfl, hn⟩ | ⟨hki, hgk⟩
        · have := hold j hji hgj
          omega
        · exact h.distinct j k n hgj hgk
  | release hg hside hb =>
    rename_i n
    have hne : ∀ j h', j ≠ i → gs[j]? = some h' → h' ≠ some n := by
      rintro j h' hj hgj rfl
      exact hj (h.distinct j i n hgj hi)
    refine ⟨⟨fun j g hj => ?_, fun j k m hj hk => ?_⟩, fun j h' hj hgj => ?_⟩
    · rw [List.getElem?_set] at hj
      split_ifs at hj with hij
      · cases hj
        exact nofun
      · exact hb ▸ (h.owns j g hj).release (hne j g (fun h => hij h.symm) hj)
    · have hget : ∀ j : Nat, (gs.set i none)[j]? = some (some m) → gs[j]? = some (some m) := by
        intro j hj
        rw [List.getElem?_set] at hj
        split_ifs at hj
        · cases hj
        · exact hj
      exact h.distinct j k m (hget j hj) (hget k hk)
    · refine ⟨W.quiet_later (W.side_quiet hside), fun ho => hb ▸ ho.release (hne j h' hj hgj), ?_⟩
      exact fun hh => absurd hh (hother j h' hj hgj hg)

/-- **handlers that keep to the barrier may run side by side** -/
theorem governs {Q : Type} {A : Q → Type} {E α R X : Type} {S : System σ Q A E α R X}
    {T : Terms σ Q A R X}
    (handler : ∀ r s, T.accept r → W.proto.inv s →
      Keeps W.proto (T.ok r) (fun _ _ _ => True) (fun _ _ _ => True) (S.handler r) none s)
    (event : ∀ x s, T.event x s → W.side s (S.event x s) ∧ W.barrier (S.event x s) = W.barrier s)
    (restart : ∀ s, W.inv s → W.inv (S.restart s) ∧ W.barrier (S.restart s) = .fresh) :
    Governs W.proto S T W.Share none fun _ => True where
  handler := handler
  share_new := Share.new
  share_move := Share.move
  event x gs s hx hs h := by
    obtain ⟨hside, hb⟩ := event x s hx
    refine ⟨⟨hb ▸ hs.1, W.inv_side hs.2 hside⟩, ⟨fun i g hi => hb ▸ h.owns i g hi, h.distinct⟩, ?_⟩
    exact fun g => env_of_side hside hb
  restart {s} hs := by
    obtain ⟨hi, hb⟩ := restart s hs.2
    exact ⟨⟨hb ▸ .fresh, hi⟩, ⟨by simp, by simp⟩⟩

/-! ## pieces of handlers -/

/-- `p` makes moves that leave the handler its promise `g`, from any store where `pre` holds, and
ends with `post` -/
def Stays {σ Q : Type} {A : Q → Type} {E α : Type} (W : Guarded σ) (ok : ∀ q, A q → σ → Prop)
    (pre : σ → Prop) (g : Option Nat) (p : Prog σ Q A E α) (post : α → σ → Prop) (s : σ) : Prop :=
  pre s → W.proto.inv s → Keeps W.proto ok (fun a g' s => g' = g ∧ pre s ∧ post a s)
    (fun _ g' s => g' = g ∧ pre s) p g s

/-- a piece that is run inside the barrier -/
abbrev Inside {σ Q : Type} {A : Q → Type} {E α : Type} (W : Guarded σ) (ok : ∀ q, A q → σ → Prop)
    (g : Option Nat) (p : Prog σ Q A E α) (post : α → σ → Prop) (s : σ) : Prop :=
  W.Stays ok (fun s => Holds g (W.barrier s)) g p post s

/-- a piece that is run without the barrier -/
abbrev Outside {σ Q : Type} {A : Q → Type} {E α : Type} (W : Guarded σ) (ok : ∀ q, A q → σ → Prop)
    (p : Prog σ Q A E α) (post : α → σ → Prop) (s : σ) : Prop :=
  W.Stays ok (fun _ => True) none p post s

namespace Stays
variable {Q : Type} {A : Q → Type} {E α β : Type} {ok : ∀ q, A q → σ → Prop} {pre : σ → Prop}
  {g : Option Nat} {p : Prog σ Q A E α} {post : α → σ → Prop} {post' : β → σ → Prop} {s : σ}

theorem mono {post₂ : α → σ → Prop} (hp : W.Stays ok pre g p post s)
    (h : ∀ a s', post a s' → post₂ a s') : W.Stays ok pre g p post₂ s :=
  fun hpre hs => Keeps.mono (fun a _ s' ⟨hg, hpre', ha⟩ => ⟨hg, hpre', h a s' ha⟩)
    (fun _ _ _ he => he) (hp hpre hs)

theorem done (hp : W.Stays ok pre g p post s) : W.Stays ok pre g p (fun _ _ => True) s :=
  hp.mono fun _ _ _ => trivial

/-- a piece that keeps more than is asked of it -/
theorem strengthen {pre' : σ → Prop} (hp : W.Stays ok pre' g p post s) (h : ∀ s, pre' s → pre s)
    (hs : pre s → pre' s) : W.Stays ok pre g p (fun a s' => post a s' ∧ pre' s') s :=
  fun hpre hi => Keeps.mono (fun _ _ s' ⟨hg, hpre', ha⟩ => ⟨hg, h s' hpre', ha, hpre'⟩)
    (fun _ _ s' ⟨hg, hpre'⟩ => ⟨hg, h s' hpre'⟩) (hp (hs hpre) hi)

/-- a piece starts from a store with the invariant -/
theorem start (h : pre s → W.inv s → W.Stays ok pre g p post s) : W.Stays ok pre g p post s :=
  fun hpre hs => h hpre hs.2 hpre hs

/-- the rest of a function starts from what the part before it left -/
theorem bind {f : α → Prog σ Q A E β} (hp : W.Stays ok pre g p post s)
    (hf : ∀ a s', post a s' → W.Stays ok pre g (f a) post' s') :
    W.Stays ok pre g (p >>= f) post' s := fun hpre hs =>
  Keeps.bind (fun a g' s' h => by
    obtain ⟨⟨rfl, hpre', ha⟩, hs'⟩ := h
    exact hf a s' ha hpre' hs')
    (Keeps.mono (fun _ _ _ => id) (fun _ _ _ h => h.1) (Keeps.inv_post hs (hp hpre hs)))

theorem pure {a : α} (h : post a s) : W.Stays ok pre g (Pure.pure a : Prog σ Q A E α) post s :=
  fun hpre _ => ⟨rfl, hpre, h⟩

theorem throw {e : E} : W.Stays ok pre g (.throw e : Prog σ Q A E α) post s :=
  fun hpre _ => ⟨rfl, hpre⟩

theorem stuck : W.Stays ok pre g (.stuck : Prog σ Q A E α) post s := fun _ _ => trivial

theorem step {upd : σ → σ} {k : σ → Prog σ Q A E α}
    (h : pre s → W.inv s → W.Move g s (upd s) g ∧ pre (upd s))
    (hk : W.Stays ok pre g (k s) post (upd s)) : W.Stays ok pre g (.step upd k) post s := by
  intro hpre hs
  obtain ⟨hm, hpre'⟩ := h hpre hs.2
  exact ⟨g, hm, hk hpre' (hm.inv hs)⟩

theorem attempt (hp : W.Stays ok pre g p post s) :
    W.Stays ok pre g p.attempt (fun r s' => ∀ a, r = .ok a → post a s') s := by
  intro hpre hs
  refine Keeps.attempt ?_ ?_ (hp hpre hs)
  · rintro a _ s' ⟨rfl, hpre', h⟩
    refine ⟨rfl, hpre', fun b hb => ?_⟩
    cases hb
    exact h
  · rintro e _ s' ⟨rfl, hpre'⟩
    exact ⟨rfl, hpre', nofun⟩

theorem rescue {h : E → Prog σ Q A E α} (hp : W.Stays ok pre g p post s)
    (hh : ∀ e s', W.Stays ok pre g (h e) post s') : W.Stays ok pre g (p.rescue h) post s :=
  fun hpre hs =>
    Keeps.rescue (fun e g' s' he => by
      obtain ⟨⟨rfl, hpre'⟩, hs'⟩ := he
      exact hh e s' hpre' hs')
      (Keeps.mono (fun _ _ _ h => h.1) (fun _ _ _ => id) (Keeps.inv_post hs (hp hpre hs)))

theorem wait {ready : σ → Bool} {k : Prog σ Q A E α} (hpre : ∀ {s s'}, pre s → W.Env g s s' → pre s')
    (hk : ∀ s', pre s → W.Env g s s' → W.Stays ok pre g k post s') :
    W.Stays ok pre g (.wait ready k) post s :=
  fun h _ s' he hs' _ => hk s' h he (hpre h he) hs'

theorem call {q : Q} {k : A q → Prog σ Q A E α} (hpre : ∀ {s s'}, pre s → W.Env g s s' → pre s')
    (hk : ∀ s' a, pre s → W.Env g s s' → ok q a s' → W.Stays ok pre g (k a) post s') :
    W.Stays ok pre g (.call q k) post s :=
  fun h _ s' he hs' a ha => hk s' a h he ha (hpre h he) hs'

end Stays

/-- `acquire` in the barrier that `upd` joins: the handler goes on inside -/
theorem acquire_keeps {Q : Type} {A : Q → Type} {E α : Type} {ok : ∀ q, A q → σ → Prop}
    {post : α → Option Nat → σ → Prop} {epost : E → Option Nat → σ → Prop} {upd : σ → σ}
    {k : Nat → Prog σ Q A E α} {s : σ} (hs : W.proto.inv s) (hside : W.side s (upd s))
    (hb : W.barrier (upd s) = (W.barrier s).take)
    (hk : ∀ n s', Holds (some n) (W.barrier s') → W.proto.inv s' →
      Keeps W.proto ok post epost (k n) (some n) s') :
    Keeps W.proto ok post epost (.step upd fun s =>
      .wait (fun s' => (W.barrier s').released.contains (W.barrier s).tail)
        (k ((W.barrier s).tail + 1))) none s := by
  refine ⟨_, .take hside hb, fun s' he hs' hready => hk _ _ ?_ hs'⟩
  have howns : Owns (some ((W.barrier s).tail + 1)) (W.barrier (upd s)) := hb ▸ owns_new hs.1
  exact (he.owns howns).holds (by simpa using hready)

end Guarded

end Async
