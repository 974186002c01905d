import CloudflareShard.Async.Run

/-!
# Objects that are described by their moves

Every section of every handler, every event and every crash is one of the object's moves; a handler
relies on nothing across an await but on what no move takes away.

* `Rules`               the invariant of an object and its moves;
* `Rules.Later`, `Rules.Stable`   what others can make of a store, the facts that outlast it;
* `Rules.Does`          a piece of a handler only makes moves; the rules it is proved by;
* `Obeys`               the whole object does, on given terms;
* `Obeys.reachable`, `Obeys.history`   **what holds then in every run**.
-/

namespace Async

/-- an object whose moves all keep `inv` -/
structure Rules (σ : Type) where
  inv : σ → Prop
  move : σ → σ → Prop
  move_refl : ∀ s, move s s
  inv_move : ∀ {s s'}, inv s → move s s' → inv s'

namespace Rules
variable {σ : Type} (R : Rules σ)

/-- moves in a row -/
def Later : σ → σ → Prop := Relation.ReflTransGen fun s s' => R.inv s ∧ R.move s s'

/-- a fact that no move takes away -/
def Stable (F : σ → Prop) : Prop := ∀ {s s'}, R.inv s → R.move s s' → F s → F s'

variable {R} {F : σ → Prop} {s s' : σ}

theorem Later.refl {s : σ} : R.Later s s := Relation.ReflTransGen.refl

theorem Later.trans {s'' : σ} (h : R.Later s s') (h' : R.Later s' s'') : R.Later s s'' :=
  Relation.ReflTransGen.trans h h'

theorem Later.of_move (hi : R.inv s) (h : R.move s s') : R.Later s s' :=
  Relation.ReflTransGen.single ⟨hi, h⟩

theorem Later.inv (h : R.Later s s') (hi : R.inv s) : R.inv s' := by
  induction h with
  | refl => exact hi
  | tail _ hm _ => exact R.inv_move hm.1 hm.2

theorem Stable.later (hF : R.Stable F) (h : R.Later s s') (hs : F s) : F s' := by
  induction h with
  | refl => exact hs
  | tail _ hm ih => exact hF hm.1 hm.2 ih

/-- a preorder that every move keeps -/
theorem Later.history {hist : σ → σ → Prop} (refl : ∀ s, hist s s)
    (trans : ∀ {s s' s''}, hist s s' → hist s' s'' → hist s s'')
    (move : ∀ {s s'}, R.inv s → R.move s s' → hist s s') (h : R.Later s s') : hist s s' := by
  induction h with
  | refl => exact refl s
  | tail _ hm ih => exact trans ih (move hm.1 hm.2)

variable (R) in
def protocol : Protocol σ Unit where
  inv := R.inv
  move _ s s' _ := R.inv s ∧ R.move s s'
  env _ := R.Later
  env_refl _ _ := .refl
  env_trans := .trans
  inv_move hi hm := R.inv_move hi hm.2

/-! ## pieces of handlers -/

variable {Q : Type} {A : Q → Type} {E α β : Type}

variable (R) in
/-- a piece of a handler only makes moves from `s` on, and ends with `post` -/
def Does (ok : ∀ q, A q → σ → Prop) (p : Prog σ Q A E α) (post : α → σ → Prop) (s : σ) : Prop :=
  R.inv s → Keeps R.protocol ok (fun a _ s => post a s) (fun _ _ _ => True) p () s

namespace Does
variable {ok : ∀ q, A q → σ → Prop} {p : Prog σ Q A E α} {post : α → σ → Prop}
  {post' : β → σ → Prop}

theorem mono {post₂ : α → σ → Prop} (hp : R.Does ok p post s)
    (h : ∀ a s', post a s' → post₂ a s') : R.Does ok p post₂ s :=
  fun hs => Keeps.mono (fun a _ s' => h a s') (fun _ _ _ => id) (hp hs)

theorem done (hp : R.Does ok p post s) : R.Does ok p (fun _ _ => True) s :=
  hp.mono fun _ _ _ => trivial

/-- the store a piece starts from has the invariant -/
theorem of_inv (h : R.inv s → R.Does ok p post s) : R.Does ok p post s := fun hs => h hs hs

theorem later (hp : R.Does ok p post s) :
    R.Does ok p (fun a s' => post a s' ∧ R.Later s s') s := by
  intro hs
  refine Keeps.history R.Later Later.trans ?_ ?_ s Later.refl (hp hs)
  · exact fun h => Later.of_move (And.left h) (And.right h)
  · exact fun h => h

/-- the rest of a handler starts from what the part before it left -/
theorem bind {f : α → Prog σ Q A E β} (hp : R.Does ok p post s)
    (hf : ∀ a s', R.Later s s' → post a s' → R.Does ok (f a) post' s') :
    R.Does ok (p >>= f) post' s := fun hs =>
  Keeps.bind (fun a _ s' h => hf a s' h.1.2 h.1.1 h.2)
    (Keeps.mono (fun _ _ _ => id) (fun _ _ _ h => h.1) (Keeps.inv_post hs (hp.later hs)))

/-- `bind` where nothing is known of what the part before left -/
theorem seq {f : α → Prog σ Q A E β} (hp : R.Does ok p (fun _ _ => True) s)
    (hf : ∀ a s', R.Later s s' → R.Does ok (f a) post' s') : R.Does ok (p >>= f) post' s :=
  hp.bind fun a s' hl _ => hf a s' hl

theorem pure {a : α} (h : post a s) : R.Does ok (Pure.pure a : Prog σ Q A E α) post s :=
  fun _ => h

theorem throw {e : E} : R.Does ok (.throw e : Prog σ Q A E α) post s := fun _ => trivial

theorem stuck : R.Does ok (.stuck : Prog σ Q A E α) post s := fun _ => trivial

theorem step {upd : σ → σ} {k : σ → Prog σ Q A E α} (h : R.inv s → R.move s (upd s))
    (hk : R.Does ok (k s) post (upd s)) : R.Does ok (.step upd k) post s :=
  fun hs => ⟨(), ⟨hs, h hs⟩, hk (R.inv_move hs (h hs))⟩

theorem modify {upd : σ → σ} (h : R.inv s → R.move s (upd s)) :
    R.Does ok (.modify upd : Prog σ Q A E Unit) (fun _ s' => s' = upd s) s :=
  step h (pure rfl)

theorem read : R.Does ok (.read : Prog σ Q A E σ) (fun a s' => s' = s ∧ a = s) s :=
  step (fun _ => R.move_refl s) (pure ⟨rfl, rfl⟩)

theorem transact {f : σ → Except E (α × σ)}
    (h : ∀ a s', R.inv s → f s = .ok (a, s') → R.move s s') :
    R.Does ok (.transact f) (fun a s' => f s = .ok (a, s')) s := by
  cases hf : f s with
  | ok r =>
    refine step (fun hi => ?_) ?_
    · simpa only [hf] using h r.1 r.2 hi hf
    · simp only [hf]
      exact pure rfl
  | error e =>
    refine step (fun _ => ?_) ?_
    · simpa only [hf] using R.move_refl s
    · simp only [hf]
      exact throw

theorem wait {ready : σ → Bool} {k : Prog σ Q A E α}
    (hk : ∀ s', R.Later s s' → ready s' → R.Does ok k post s') :
    R.Does ok (.wait ready k) post s := fun _ s' hl hs' hr => hk s' hl hr hs'

theorem call {q : Q} {k : A q → Prog σ Q A E α}
    (hk : ∀ s' a, R.Later s s' → ok q a s' → R.Does ok (k a) post s') :
    R.Does ok (.call q k) post s := fun _ s' hl hs' a ha => hk s' a hl ha hs'

theorem ask {q : Q} : R.Does ok (.ask q : Prog σ Q A E (A q)) (fun a s' => ok q a s') s :=
  call fun _ _ _ ha => pure ha

theorem pause : R.Does ok (.pause : Prog σ Q A E Unit) (fun _ _ => True) s :=
  wait fun _ _ _ => pure trivial

theorem ofExcept {x : Except E α} :
    R.Does ok (.ofExcept x : Prog σ Q A E α) (fun a s' => s' = s ∧ x = .ok a) s := by
  cases x with
  | ok a => exact pure ⟨rfl, rfl⟩
  | error e => exact throw

theorem attempt (hp : R.Does ok p post s) :
    R.Does ok p.attempt (fun r s' => ∀ a, r = .ok a → post a s') s := by
  intro hs
  refine Keeps.attempt ?_ (fun e _ s' _ a h => nomatch h) (hp hs)
  intro a _ s' h b hb
  cases hb
  exact h

theorem rescue {h : E → Prog σ Q A E α} (hp : R.Does ok p post s)
    (hh : ∀ e s', R.Does ok (h e) post s') : R.Does ok (p.rescue h) post s := fun hs =>
  Keeps.rescue (fun e _ s' h => hh e s' h.2)
    (Keeps.mono (fun _ _ _ h => h.1) (fun _ _ _ => id) (Keeps.inv_post hs (hp hs)))

end Does
end Rules

/-! ## whole objects -/

section
variable {σ Q : Type} {A : Q → Type} {E α R X : Type}

/-- on the terms `T` everything that happens to the object is one of its moves -/
structure Obeys (M : Rules σ) (S : System σ Q A E α R X) (T : Terms σ Q A R X) : Prop where
  handler : ∀ r s, T.accept r → M.Does (T.ok r) (S.handler r) (fun _ _ => True) s
  event : ∀ x s, T.event x s → M.inv s → M.move s (S.event x s)
  restart : ∀ s, M.inv s → M.move s (S.restart s)

namespace Obeys
variable {M : Rules σ} {S : System σ Q A E α R X} {T : Terms σ Q A R X}

theorem governs (h : Obeys M S T) :
    Governs M.protocol S T (fun _ _ => True) () (fun _ => True) where
  handler r s hr hi := h.handler r s hr hi
  share_new _ := trivial
  share_move hi _ _ hm := ⟨trivial, fun _ _ _ _ => .of_move hi hm.2⟩
  event x _ _ hx hi _ :=
    have hm := h.event x _ hx hi
    ⟨M.inv_move hi hm, trivial, fun _ => .of_move hi hm⟩
  restart hi := ⟨M.inv_move hi (h.restart _ hi), trivial⟩

theorem hist (h : Obeys M S T) : Hist M.protocol S T M.Later where
  refl _ := .refl
  trans := .trans
  move _ hm := .of_move hm.1 hm.2
  event x s hx hi := .of_move hi (h.event x s hx hi)
  restart hi := .of_move hi (h.restart _ hi)

/-- an object that no request has come to -/
theorem follows {s : σ} (hi : M.inv s) :
    Follows M.protocol T (fun _ _ => True) (fun _ => True)
      (⟨s, []⟩ : Config σ Q A E α R) [] := ⟨hi, trivial, rfl, by simp⟩

/-- **every run stays within the moves**, up to any point and from there on -/
theorem reachable (h : Obeys M S T) {s : σ} (hi : M.inv s) {xs ys : List (Choice Q A R X)}
    (hxs : S.Meets (fun c x => x.Allowed S T c) ⟨s, []⟩ (xs ++ ys)) :
    M.inv (S.run ⟨s, []⟩ xs).store ∧
      M.Later (S.run ⟨s, []⟩ xs).store (S.run ⟨s, []⟩ (xs ++ ys)).store := by
  obtain ⟨hxs, hys⟩ := S.meets_append.mp hxs
  obtain ⟨gs, hf⟩ := h.governs.run xs (follows hi) hxs
  rw [S.run_append]
  exact ⟨hf.inv, h.hist.run h.governs ys hf hys⟩

end Obeys
end
end Async
