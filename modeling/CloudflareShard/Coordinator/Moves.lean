import Mathlib.Logic.Relation
import CloudflareShard.Coordinator.Handlers

/-!
# What one section of a coordinator can do

Every section of every handler leaves the durable state alone or makes one of the moves listed here,
and every message it sends speaks about a row that was durable at some time.

* `Move`             the changes of the row and its recovery work, one for each statement;
* `Regime`           which rows a run starts from, and whether handlers may enter a drain;
* `Was`, `Later`     a row that was durable once, and what stays true of it;
* `Authorized`       what a message to a shard is sent on;
* `Section`, `proto` a section, and the protocol of all handlers;
* `Ok`               a piece of a handler keeps to it; the rules it is proved by.
-/

namespace Coordinator
open Async Contracts

/-! ## moves of the row -/

structure Durable where
  row : TxRow
  queue : Option QueueRow

def queued (action : RecoveryAction) (at_ : Nat) : Option QueueRow :=
  some { action, nextAttemptAt := at_, attemptCount := 0 }

/-- a queue without the two routes that only the predecessor queued -/
def Plain (queue : Option QueueRow) : Prop :=
  ∀ work, queue = some work → work.action ≠ .commitRoute ∧ work.action ≠ .abortRoute

theorem plain_of {work : QueueRow} (h : work.action ≠ .commitRoute ∧ work.action ≠ .abortRoute) :
    Plain work := by
  intro work' hw
  cases hw
  exact h

theorem plain_none : Plain none := nofun

/-- the row as `/begin` inserts it -/
structure NewRow (txId : TxId) (row : TxRow) : Prop where
  txId : row.txId = txId
  status : row.status = .manifestReserving
  stateModelVersion : row.stateModelVersion = 2
  decision : row.decision = .undecided
  finalize : row.manifestFinalizeRequestJson = none
  cancel : row.manifestCancelRequestJson = none
  registration : row.manifestRegistrationJson = none
  record : row.manifestRecordJson = none
  commitDecidedAtMs : row.commitDecidedAtMs = none

inductive Move : Durable → Durable → Prop where
  | start {d} (h : d.row.status = .manifestReserving) :
      Move d ⟨{ d.row with status := .preparing }, none⟩
  | reject {d} (error) (h : d.row.status = .manifestReserving) :
      Move d ⟨recordRejected error { d.row with status := .aborted }, none⟩
  | abort {d} (cancel action at_) (ha : Plain (queued action at_))
      (h : d.row.status = .manifestReserving ∨ d.row.status = .preparing ∨
        d.row.status = .prepared) :
      Move d ⟨recordAbort cancel { d.row with status := .abortDecided }, queued action at_⟩
  | aborting {d} (h : d.row.status = .abortDecided) :
      Move d ⟨{ d.row with status := .aborting }, d.queue⟩
  | cancelPending {d} (at_) (h : d.row.status = .aborting) :
      Move d ⟨{ d.row with status := .abortedPendingManifestCancel }, queued .cancel at_⟩
  | aborted {d} (h : d.row.status = .aborting ∨ d.row.status = .abortedPendingManifestCancel) :
      Move d ⟨recordAborted { d.row with status := .aborted }, none⟩
  | quarantine {d} (error)
      (h : d.row.status = .abortedPendingManifestCancel ∨ d.row.status = .commitDeciding ∨
        d.row.status = .commitDecided ∨ d.row.status = .commitPendingManifest) :
      Move d ⟨recordQuarantine error { d.row with status := .quarantined }, none⟩
  | park {d} (error) (h : d.row.status = .abortedPendingManifestCancel) :
      Move d ⟨recordError error d.row, none⟩
  | prepared {d} (h : d.row.status = .preparing) :
      Move d ⟨{ d.row with status := .prepared }, d.queue⟩
  | commitV1 {d} (envelope registration at_) (h : d.row.status = .prepared) :
      Move d ⟨recordCommitV1 envelope registration { d.row with status := .commitDecided },
        queued .manifest at_⟩
  | commitV2 {d} (intent request at_) (h : d.row.status = .prepared) :
      Move d ⟨recordCommitV2 intent request { d.row with status := .commitDeciding },
        queued .finalize at_⟩
  | pend {d} (h : d.row.status = .commitDeciding ∨ d.row.status = .commitDecided) :
      Move d ⟨{ d.row with status := .commitPendingManifest }, d.queue⟩
  | finalized {d} (envelope record recordHash at_)
      (h : d.row.status = .commitDeciding ∨ d.row.status = .commitPendingManifest) :
      Move d ⟨recordFinalized envelope record recordHash
        { d.row with status := .manifestRegistered }, queued .commit at_⟩
  | registered {d} (at_)
      (h : d.row.status = .commitDecided ∨ d.row.status = .commitPendingManifest) :
      Move d ⟨{ d.row with status := .manifestRegistered }, queued .commit at_⟩
  | committing {d} (h : d.row.status = .manifestRegistered) :
      Move d ⟨{ d.row with status := .committing }, d.queue⟩
  | committed {d} (at_)
      (h : d.row.status = .committing ∨ d.row.status = .committedPendingAck) :
      Move d ⟨{ d.row with status := .committed, resultJson := some .committed },
        queued .release at_⟩
  | pendingAck {d} (at_) (h : d.row.status = .committing) :
      Move d ⟨{ d.row with status := .committedPendingAck }, queued .commit at_⟩
  | bridge {d} (request reservation reservationHash at_)
      (h : d.row.status = .commitDecided ∨ d.row.status = .commitPendingManifest)
      (hv : d.row.stateModelVersion = 1) :
      Move d ⟨recordBridge request reservation reservationHash d.row, queued .reserve at_⟩
  | bridgeFinalize {d} (intent request at_) (h : d.row.status = .commitPendingManifest)
      (hv : d.row.stateModelVersion = 2) :
      Move d ⟨recordBridgeFinalize intent request d.row, queued .finalize at_⟩
  | adopt {d} (operationHash)
      (h : d.row.status = .preparing ∨ d.row.status = .prepared) :
      Move d ⟨recordAdopted operationHash d.row, d.queue⟩
  /-- the row still has the finalize request the resolution was authorized by -/
  | resolveCommit {d} (envelope record recordHash q) (hq : q = d.queue ∨ Plain q)
      (hf : d.row.manifestFinalizeRequestJson.isSome)
      (ht : isTransactionTransitionAllowed d.row.status (commitNext d.row.status)) :
      Move d ⟨recordResolvedCommit (commitNext d.row.status) envelope record recordHash d.row, q⟩
  /-- the row still has the cancel request the resolution was authorized by -/
  | resolveAbort {d} (q) (hq : Plain q) (hc : d.row.manifestCancelRequestJson.isSome)
      (ht : isTransactionTransitionAllowed d.row.status (abortNext d.row.status)) :
      Move d ⟨recordResolvedAbort (abortNext d.row.status) d.row, q⟩
  | discard {d} (restoreId generation) :
      Move d ⟨recordDiscard restoreId generation d.row, none⟩
  | reschedule {d} (q) (hq : Plain q) : Move d ⟨d.row, q⟩
  | releaseError {d} (error) : Move d ⟨recordError error d.row, d.queue⟩
  | dropQueue {d} : Move d ⟨d.row, none⟩

/-! ## rows that were durable once -/

/-- the rows a run starts from, and whether a handler may enter a drain -/
structure Regime (txId : TxId) where
  drains : Bool
  start : TxRow → Prop
  new : ∀ {row}, NewRow txId row → start row

section
variable {txId : TxId} {d : Regime txId} {row : TxRow} {s s' s'' : Store}

/-- what moves made of a row that a run starts from -/
def Born (d : Regime txId) (x : Durable) : Prop :=
  ∃ x₀ : Durable, d.start x₀.row ∧ Relation.ReflTransGen Move x₀ x

theorem Born.step {x x' : Durable} (h : Born d x) (hm : Move x x') : Born d x' := by
  obtain ⟨x₀, h₀, hpath⟩ := h
  exact ⟨x₀, h₀, hpath.tail hm⟩

theorem Born.of_start {queue : Option QueueRow} (h : d.start row) : Born d ⟨row, queue⟩ :=
  ⟨⟨row, queue⟩, h, .refl⟩

def Rooted (d : Regime txId) (s : Store) : Prop :=
  ∀ row, s.transaction = some row → Born d ⟨row, s.queue⟩

/-- `x` was durable, and what is durable now comes from it -/
def Was (d : Regime txId) (x : Durable) (s : Store) : Prop :=
  Born d x ∧ ∃ cur, s.transaction = some cur ∧ Relation.ReflTransGen Move x ⟨cur, s.queue⟩

def Seen (d : Regime txId) (row : TxRow) (s : Store) : Prop := ∃ q, Was d ⟨row, q⟩ s

/-- what was durable in `s` was durable in `s'` -/
def Later (d : Regime txId) (s s' : Store) : Prop := ∀ x, Was d x s → Was d x s'

theorem Was.of_eq (hs : Rooted d s) (h : s.transaction = some row) : Was d ⟨row, s.queue⟩ s :=
  ⟨hs row h, row, h, .refl⟩

theorem Seen.of_eq (hs : Rooted d s) (h : s.transaction = some row) : Seen d row s :=
  ⟨s.queue, .of_eq hs h⟩

theorem Seen.some : Seen d row s → ∃ cur, s.transaction = some cur :=
  fun ⟨_, _, cur, h, _⟩ => ⟨cur, h⟩

theorem Later.refl (s : Store) : Later d s s := fun _ h => h

theorem Later.trans (h : Later d s s') (h' : Later d s' s'') : Later d s s'' :=
  fun x hx => h' x (h x hx)

theorem Seen.later : Seen d row s → Later d s s' → Seen d row s' :=
  fun ⟨q, h⟩ hl => ⟨q, hl _ h⟩

end

/-- what a request to a shard is sent on: a row that was durable when it was read -/
inductive Authorized {txId : TxId} (C : ContractLib) (d : Regime txId) (s : Store) :
    ShardRequest → Prop where
  | prepare {row} (hr : Seen d row s) (intents) :
      Authorized C d s (.prepare (participantMessage row .prepare) intents)
  | adopt {row} (hr : Seen d row s) (intents) :
      Authorized C d s (.prepare (participantMessage (legacyMessageRow C row) .prepare) intents)
  | commit {row} (hr : Seen d row s)
      (h : row.status = .committing ∨ row.status = .committedPendingAck) :
      Authorized C d s (.commit (participantMessage row .commit))
  | abort {row} (hr : Seen d row s) (h : row.status = .aborting) (legacy) :
      Authorized C d s (.abort (participantMessage row .abort) legacy)
  | legacyAbort {row} (hr : Seen d row s) (h : row.status = .aborting) :
      Authorized C d s (.abort (participantMessage (legacyMessageRow C row) .abort) true)
  | recover {row} (hr : Seen d row s) (claim) :
      Authorized C d s (.recoverAbort (participantMessage row .recover) claim)
  | commitRoute {row} {work : QueueRow} (hr : Was d ⟨row, work⟩ s)
      (h : work.action = .commitRoute) : Authorized C d s (.legacyCommit row.txId)
  | abortRoute {row} {work : QueueRow} (hr : Was d ⟨row, work⟩ s)
      (h : work.action = .abortRoute) : Authorized C d s (.legacyAbort row.txId)

/-- what `/tx-status` answers was durable when the request came in -/
def Truthful {txId : TxId} (d : Regime txId) (s : Store) (reply : TxStatusReply) : Prop :=
  ∃ row, Seen d row s ∧ reply.status = row.status ∧ reply.decision = row.decision ∧
    reply.epoch = row.epoch ∧ reply.operationHash = row.operationHash ∧
    reply.commitAuthorized = commitSide.contains row.status

/-! ## sections -/

inductive DurableStep (txId : TxId) (s s' : Store) : Prop where
  | same (ht : s'.transaction = s.transaction) (hq : s'.queue = s.queue)
  | absent (ht : s.transaction = none) (ht' : s'.transaction = none)
  | begin (row) (hrow : NewRow txId row) (ht : s.transaction = none)
      (ht' : s'.transaction = some row)
  | move (row row') (ht : s.transaction = some row) (ht' : s'.transaction = some row')
      (hm : Move ⟨row, s.queue⟩ ⟨row', s'.queue⟩)

/-- with no drain waiting, none is entered and none resolves -/
def Undrained (s s' : Store) : Prop :=
  s.mutationDrainWaiters = [] → s'.mutationDrainWaiters = [] ∧ s'.drained = s.drained

structure Section {txId : TxId} (C : ContractLib) (d : Regime txId) (s s' : Store) : Prop where
  durable : DurableStep txId s s'
  sent : ∃ messages, s'.sent = s.sent ++ messages ∧ ∀ m ∈ messages, Authorized C d s m.2
  replies : ∃ replies, s'.replies = s.replies ++ replies ∧ ∀ r ∈ replies, Truthful d s r
  drain : d.drains = true ∨ Undrained s s'

section
variable {txId : TxId} {d : Regime txId} {s s' : Store}

theorem DurableStep.later (h : DurableStep txId s s') : Later d s s' := by
  intro x hx
  obtain ⟨hborn, cur, hc, hm⟩ := hx
  refine ⟨hborn, ?_⟩
  cases h with
  | same ht hq => exact ⟨cur, ht.trans hc, hq ▸ hm⟩
  | absent ht ht' => rw [ht] at hc; cases hc
  | begin row' hrow ht ht' => rw [ht] at hc; cases hc
  | move r r' ht ht' hm' =>
    rw [ht] at hc
    cases hc
    exact ⟨r', ht', hm.tail hm'⟩

theorem DurableStep.rooted (h : DurableStep txId s s') (hs : Rooted d s) : Rooted d s' := by
  intro row hrow
  cases h with
  | same ht hq =>
    rw [hq]
    exact hs row (ht ▸ hrow)
  | absent ht ht' => rw [ht'] at hrow; cases hrow
  | begin row' hnew ht ht' =>
    rw [ht'] at hrow
    cases hrow
    exact .of_start (d.new hnew)
  | move r r' ht ht' hm =>
    rw [ht'] at hrow
    cases hrow
    exact (hs r ht).step hm

end

/-- the protocol of all handlers: they make sections, and rely on nothing but what was durable -/
def proto {txId : TxId} (C : ContractLib) (d : Regime txId) : Protocol Store Unit where
  inv := Rooted d
  move _ s s' _ := Section C d s s'
  env _ s s' := Later d s s'
  env_refl _ s := .refl s
  env_trans := Later.trans
  inv_move hs hm := hm.durable.rooted hs

def Possible (q : Ask) (a : q.Answer) (_ : Store) : Prop := Ask.possible q a

/-- a piece of a handler makes only sections from `s` on, and ends with `post` -/
def Ok {txId : TxId} {α : Type} (C : ContractLib) (d : Regime txId) (p : Coord α)
    (post : α → Store → Prop) (s : Store) : Prop :=
  Rooted d s → Keeps (proto C d) Possible (fun a _ s => post a s) (fun _ _ _ => True) p () s

namespace Section
variable {txId : TxId} {C : ContractLib} {d : Regime txId} {s s' : Store}

theorem quiet (ht : s'.transaction = s.transaction) (hq : s'.queue = s.queue)
    (hs : s'.sent = s.sent) (hr : s'.replies = s.replies)
    (hw : s'.mutationDrainWaiters = s.mutationDrainWaiters) (hd : s'.drained = s.drained) :
    Section C d s s' :=
  ⟨.same ht hq, ⟨[], by simp [hs]⟩, ⟨[], by simp [hr]⟩, .inr fun h => ⟨hw.trans h, hd⟩⟩

theorem refl : Section C d s s := quiet rfl rfl rfl rfl rfl rfl

/-- a section that makes one move and sends nothing -/
theorem move {row row' : TxRow} (ht : s.transaction = some row) (ht' : s'.transaction = some row')
    (hm : Move ⟨row, s.queue⟩ ⟨row', s'.queue⟩) (hs : s'.sent = s.sent)
    (hr : s'.replies = s.replies) (hw : s'.mutationDrainWaiters = s.mutationDrainWaiters)
    (hd : s'.drained = s.drained) : Section C d s s' :=
  ⟨.move row row' ht ht' hm, ⟨[], by simp [hs]⟩, ⟨[], by simp [hr]⟩,
    .inr fun h => ⟨hw.trans h, hd⟩⟩

end Section

namespace Ok
variable {txId : TxId} {C : ContractLib} {d : Regime txId} {α β : Type} {p : Coord α}
  {post : α → Store → Prop} {post' : β → Store → Prop} {s : Store}

theorem mono {post₂ : α → Store → Prop} (hp : Ok C d p post s)
    (h : ∀ a s', post a s' → post₂ a s') : Ok C d p post₂ s :=
  fun hs => Keeps.mono (fun a _ s' => h a s') (fun _ _ _ => id) (hp hs)

theorem done (hp : Ok C d p post s) : Ok C d p (fun _ _ => True) s := hp.mono fun _ _ _ => trivial

/-- the store a piece starts from is rooted -/
theorem rooted (h : Rooted d s → Ok C d p post s) : Ok C d p post s := fun hs => h hs hs

theorem later (hp : Ok C d p post s) : Ok C d p (fun a s' => post a s' ∧ Later d s s') s := by
  intro hs
  refine Keeps.history (Later d) Later.trans ?_ ?_ s (Later.refl s) (hp hs)
  · exact fun h => DurableStep.later (Section.durable h)
  · exact fun h => h

/-- the rest of a function starts from what the part before it left -/
theorem bind {f : α → Coord β} (hp : Ok C d p post s)
    (hf : ∀ a s', Later d s s' → post a s' → Ok C d (f a) post' s') :
    Ok C d (p >>= f) post' s := fun hs =>
  Keeps.bind (fun a _ s' h => hf a s' h.1.2 h.1.1 h.2)
    (Keeps.mono (fun _ _ _ => id) (fun _ _ _ h => h.1) (Keeps.inv_post hs (hp.later hs)))

/-- `bind` where nothing is known of what the part before left -/
theorem seq {f : α → Coord β} (hp : Ok C d p (fun _ _ => True) s)
    (hf : ∀ a s', Later d s s' → Ok C d (f a) post' s') : Ok C d (p >>= f) post' s :=
  hp.bind fun a s' hl _ => hf a s' hl

/-- what is durable at the end of a piece was durable once -/
theorem seen {row : α → TxRow} (hp : Ok C d p post s)
    (h : ∀ a s', post a s' → s'.transaction = some (row a)) :
    Ok C d p (fun a s' => Seen d (row a) s') s := fun hs =>
  Keeps.mono (fun _ _ _ h' => .of_eq h'.2 (h _ _ h'.1)) (fun _ _ _ h => h.1)
    (Keeps.inv_post hs (hp hs))

theorem pure {a : α} (h : post a s) : Ok C d (Pure.pure a) post s := fun _ => h

theorem throw {e : CoordinatorError} : Ok C d (.throw e : Coord α) post s := fun _ => trivial

theorem stuck : Ok C d (.stuck : Coord α) post s := fun _ => trivial

theorem step {upd : Store → Store} {k : Store → Coord α} (h : Section C d s (upd s))
    (hk : Ok C d (k s) post (upd s)) : Ok C d (.step upd k) post s :=
  fun hs => ⟨(), h, hk (h.durable.rooted hs)⟩

theorem modify {upd : Store → Store} (h : Section C d s (upd s)) :
    Ok C d (.modify upd) (fun _ s' => s' = upd s) s := step h fun _ => rfl

theorem transact {f : Store → Except CoordinatorError (α × Store)}
    (h : ∀ a s', f s = .ok (a, s') → Section C d s s') :
    Ok C d (.transact f) (fun a s' => f s = .ok (a, s')) s := by
  cases hf : f s with
  | ok r => exact step (by simpa [hf] using h r.1 r.2 hf) (by simp only [hf]; exact fun _ => rfl)
  | error e => exact step (by simpa [hf] using Section.refl) (by simp only [hf]; exact throw)

theorem gets {f : Store → α} : Ok C d (gets f) (fun a s' => s' = s ∧ a = f s) s :=
  step .refl fun _ => ⟨rfl, rfl⟩

theorem read : Ok C d .read (fun a s' => s' = s ∧ a = s) s := step .refl fun _ => ⟨rfl, rfl⟩

theorem wait {ready : Store → Bool} {k : Coord α} (hk : ∀ s', Later d s s' → Ok C d k post s') :
    Ok C d (.wait ready k) post s := fun _ s' hl hs' _ => hk s' hl hs'

theorem call {q : Ask} {k : q.Answer → Coord α}
    (hk : ∀ s' a, Later d s s' → Ask.possible q a → Ok C d (k a) post s') :
    Ok C d (.call q k) post s := fun _ s' hl hs' a ha => hk s' a hl ha hs'

theorem pause : Ok C d .pause (fun _ _ => True) s := wait fun _ _ _ => trivial

theorem attempt (hp : Ok C d p post s) :
    Ok C d p.attempt (fun r s' => ∀ a, r = .ok a → post a s') s := by
  intro hs
  refine Keeps.attempt ?_ (fun e _ s' _ a h => nomatch h) (hp hs)
  intro a _ s' h b hb
  cases hb
  exact h

theorem rescue {h : CoordinatorError → Coord α} (hp : Ok C d p post s)
    (hh : ∀ e s', Ok C d (h e) post s') : Ok C d (p.rescue h) post s := fun hs =>
  Keeps.rescue (fun e _ s' h => hh e s' h.2)
    (Keeps.mono (fun _ _ _ h => h.1) (fun _ _ _ => id) (Keeps.inv_post hs (hp hs)))

theorem tryCas {lost : TransactionState → Coord β} {k : α → Coord β} (hp : Ok C d p post s)
    (hlost : ∀ st s', Later d s s' → Ok C d (lost st) post' s')
    (hk : ∀ a s', Later d s s' → post a s' → Ok C d (k a) post' s') :
    Ok C d (tryCas p lost k) post' s := by
  refine hp.attempt.bind fun r s' hl h => ?_
  cases r with
  | ok a => exact hk a s' hl (h a rfl)
  | error e =>
    cases e with
    | casLost st => exact hlost st s' hl
    | _ => exact throw

theorem liftContract {x : Except TransactionProtocolError α} :
    Ok C d (liftContract x) (fun a s' => s' = s ∧ x = .ok a) s := by
  cases x with
  | ok a => exact pure ⟨rfl, rfl⟩
  | error e => exact throw

theorem andFinally {fin : Store → Store} (hp : Ok C d p post s)
    (hfin : ∀ s', Section C d s' (fin s')) :
    Ok C d (p.andFinally fin) (fun a s' => ∃ s₀, post a s₀ ∧ s' = fin s₀) s := by
  refine hp.attempt.bind fun r s' _ h => ?_
  refine (modify (hfin s')).bind fun _ s'' _ hs => ?_
  cases r with
  | ok a => exact pure ⟨s', h a rfl, hs⟩
  | error e => exact throw

/-- `fin` runs at the first await of `p`, or where `p` ends -/
theorem unawaited {fin : Store → Store} (hfin : ∀ s', Section C d s' (fin s'))
    (hpost : ∀ a s', post a s' → post a (fin s')) :
    ∀ {p : Coord α} {s : Store}, Ok C d p post s → Ok C d (p.unawaited fin) post s
  | .step _ _, _, h => fun hs =>
    have ⟨_, hm, hk⟩ := h hs
    ⟨(), hm, unawaited hfin hpost (fun _ => hk) (hm.durable.rooted hs)⟩
  | .pure _, s, h => fun hs => step (hfin s) (fun _ => hpost _ _ (h hs)) hs
  | .throw _, s, _ => step (hfin s) fun _ => trivial
  | .wait _ _, s, h => fun hs =>
    ⟨(), hfin s, fun s' hl => h hs s' ((hfin s).durable.later.trans hl)⟩
  | .call _ _, s, h => fun hs =>
    ⟨(), hfin s, fun s' hl => h hs s' ((hfin s).durable.later.trans hl)⟩
  | .stuck, s, _ => step (hfin s) fun _ => trivial

end Ok

/-! ## reading and scheduling -/

section
variable {E : Bindings} {txId : TxId} {C : ContractLib} {d : Regime txId} {s : Store}

theorem loadTx_ok : Ok C d loadTx (fun row s' => s' = s ∧ row = s.transaction) s := Ok.gets

theorem dateNow_ok : Ok C d dateNow (fun _ s' => s' = s) s := Ok.gets.mono fun _ _ h => h.1

theorem loadTxOrThrow_ok {message : String} :
    Ok C d (loadTxOrThrow message) (fun row s' => s' = s ∧ s.transaction = some row) s := by
  refine loadTx_ok.bind ?_
  rintro row _ _ ⟨rfl, rfl⟩
  cases Store.transaction _ with
  | none => exact Ok.throw
  | some row => exact Ok.pure ⟨rfl, rfl⟩

theorem stateOf_ok {row : TxRow} {state : TransactionState} (h : stateOf row = .ok state) :
    state = row.status := by
  unfold stateOf at h
  cases h₁ : assertReadableProtocolVersion row.protocolVersion with
  | error e => simp [h₁, Bind.bind, Except.bind] at h
  | ok _ =>
    cases h₂ : assertReadableTransactionStateModelVersion row.stateModelVersion with
    | error e => simp [h₁, h₂, Bind.bind, Except.bind] at h
    | ok _ =>
      simp only [h₁, h₂, Bind.bind, Except.bind] at h
      split at h
      · simp [fail] at h
      · simpa [Pure.pure, Except.pure, eq_comm] using h

theorem setAlarm_ok {at_ : Nat} : Ok C d (setAlarm at_) (fun _ _ => True) s :=
  (Ok.modify (.quiet rfl rfl rfl rfl rfl rfl)).bind fun _ _ _ _ => Ok.pause

theorem ensureAlarmScheduled_ok {at_ : Nat} :
    Ok C d (ensureAlarmScheduled at_) (fun _ _ => True) s := by
  refine Ok.gets.bind fun _ _ _ _ => Ok.pause.bind fun _ _ _ _ => ?_
  split
  · exact setAlarm_ok
  · exact Ok.pure trivial

theorem updateTx_transaction {f : TxRow → TxRow} {row : TxRow} (h : s.transaction = some row) :
    (s.updateTx f).transaction = some (f row) := by simp [Store.updateTx, h]

/-- what the transaction of `transition` did when it went through -/
theorem transitionSync_ok {expected : List TransactionState} {next : TransactionState}
    {extra : Store → Store} {u : Unit} {s' : Store}
    (h : transitionSync expected next extra s = .ok (u, s')) :
    ∃ row, s.transaction = some row ∧ row.status ∈ expected ∧
      isTransactionTransitionAllowed row.status next ∧
      s' = extra (s.updateTx ({ · with status := next })) := by
  unfold transitionSync at h
  split at h
  · cases h
  · rename_i row hrow
    split at h
    · cases h
    · rename_i state hstate
      cases stateOf_ok hstate
      split at h
      · cases h
      · rename_i hexp
        split at h
        · cases h
        · rename_i hallowed
          cases h
          exact ⟨row, hrow, by simpa using hexp, by simpa using hallowed, rfl⟩

theorem transition_ok {expected : List TransactionState} {next : TransactionState}
    {extra : Store → Store}
    (h : ∀ row, s.transaction = some row → row.status ∈ expected →
      isTransactionTransitionAllowed row.status next →
      Section C d s (extra (s.updateTx ({ · with status := next })))) :
    Ok C d (transition expected next extra)
      (fun row s' => s'.transaction = some row ∧
        s' = extra (s.updateTx ({ · with status := next }))) s := by
  have hsync : Ok C d (.transact (transitionSync expected next extra))
      (fun _ s' => s' = extra (s.updateTx ({ · with status := next }))) s := by
    refine (Ok.transact fun _ s' hs' => ?_).mono fun _ s' hs' => ?_
    · obtain ⟨row, hrow, hexp, hall, rfl⟩ := transitionSync_ok hs'
      exact h row hrow hexp hall
    · exact (transitionSync_ok hs').choose_spec.2.2.2
  refine hsync.bind fun _ s' _ hs' => loadTxOrThrow_ok.mono ?_
  rintro row _ ⟨rfl, hrow⟩
  exact ⟨hrow, hs'⟩

theorem casTx_ok {expected : TxRow → TransactionState → Bool} {upd : Store → Store} {u : Unit}
    {s' : Store} (h : casTx expected upd s = .ok (u, s')) :
    ∃ row, s.transaction = some row ∧ expected row row.status ∧ s' = upd s := by
  unfold casTx at h
  split at h
  · cases h
  · rename_i row hrow
    split at h
    · cases h
    · rename_i state hstate
      cases stateOf_ok hstate
      split at h
      · rename_i hexp
        cases h
        exact ⟨row, hrow, hexp, rfl⟩
      · cases h

theorem resolveSync_ok {attested : CoordinatorStateAttestation} {sameRequest : TxRow → Bool}
    {next : TransactionState → TransactionState} {f : TransactionState → Store → Store}
    {state : TransactionState} {s' : Store}
    (h : resolveSync attested sameRequest next f s = .ok (state, s')) :
    ∃ row, s.transaction = some row ∧ sameRequest row ∧
      isTransactionTransitionAllowed row.status (next row.status) ∧ state = next row.status ∧
      s' = f (next row.status) s := by
  unfold resolveSync at h
  split at h
  · cases h
  · rename_i row hrow
    split at h
    · cases h
    · rename_i current hstate
      cases stateOf_ok hstate
      split at h
      · cases h
      · rename_i hsame
        split at h
        · cases h
        · rename_i hallowed
          cases h
          have hsame : sameIdentity attested row row.status = true ∧ sameRequest row = true := by
            simpa using hsame
          exact ⟨row, hrow, hsame.2, by simpa using hallowed, rfl, rfl⟩

theorem reschedule_ok {action : RecoveryAction} {onlyWhile : Option (List TransactionState)}
    {row : TxRow} (ha : action ≠ .commitRoute ∧ action ≠ .abortRoute) (hrow : Seen d row s) :
    Ok C d (reschedule action onlyWhile) (fun _ _ => True) s := by
  obtain ⟨cur, hcur⟩ := hrow.some
  refine (Ok.transact fun due s' h => ?_).bind fun due s' _ _ => ?_
  · have hq : Section C d s (s.queueRecovery action (s.now + recoveryDelay
        ((s.queue.map (·.attemptCount)).getD 0)) ((s.queue.map (·.attemptCount)).getD 0 + 1)) :=
      .move hcur hcur (.reschedule _ (plain_of ha)) rfl rfl rfl rfl
    unfold rescheduleSync at h
    split at h
    · cases h; exact hq
    · split at h
      · cases h; exact .refl
      · split at h
        · cases h
        · split at h <;> cases h
          · exact hq
          · exact .refl
  · cases due with
    | none => exact Ok.pure trivial
    | some due => exact setAlarm_ok.bind fun _ _ _ _ => Ok.pure trivial

end

end Coordinator
