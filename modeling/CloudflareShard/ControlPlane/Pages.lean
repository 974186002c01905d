import CloudflareShard.Async.Answers
import CloudflareShard.Async.Only
import CloudflareShard.ControlPlane.ExactSeals
import CloudflareShard.ControlPlane.SealedWindow
import CloudflareShard.ControlPlane.Terminal

/-!
# Pages of a bucket under retention

* `Publication.window`      the reservations of a window that were decided when a seal was published;
* `PageReads`               a page holds the next records of the window behind its cursor;
* `Enumeration`             calls that go on from one cursor to the next, up to a complete page;
* `DeletesOnly`             a section of a sweep deletes only what was released, due and not leased;
* `pages_exact`             **what an enumeration of a bucket has read, and what a sweep deletes**.
-/

namespace JournalManifest
open Async Contracts Keyset

variable {L : BucketLib} {d : Regime} {s s' : Store} {p : Publication} {request : LocalPageRequest}
  {page : LocalPage}

/-! ## windows -/

/-- the reservations of the window when the seal was published, in decision order -/
def Publication.window (startMs cutoffMs : Nat) (p : Publication) : List ReservationRow :=
  p.reservations.ordered (·.finalizedIn startMs cutoffMs) ReservationRow.key

/-- what a page shows of a row -/
def ReservationRow.view (row : ReservationRow) : MemberKey × Option PublishedRecord :=
  (row.key, row.published)

theorem finalizedIn_iff {row : ReservationRow} {startMs cutoffMs : Nat} :
    row.finalizedIn startMs cutoffMs ↔
      row.finalizedBy cutoffMs ∧ ∃ intentHash decidedAtMs sequence published,
        row.state = .finalized intentHash decidedAtMs sequence published ∧ startMs ≤ decidedAtMs := by
  unfold ReservationRow.finalizedIn ReservationRow.finalizedBy
  cases hstate : row.state with
  | finalized intentHash decidedAtMs sequence published =>
    simp only [Bool.and_eq_true, decide_eq_true_eq]
    constructor
    · rintro ⟨hstart, hcutoff⟩
      exact ⟨hcutoff, _, _, _, _, rfl, hstart⟩
    · rintro ⟨hcutoff, _, _, _, _, he, hstart⟩
      cases he
      exact ⟨hstart, hcutoff⟩
  | _ => simp

/-- rows of a table that are sorted by their keys are sorted strictly -/
theorem ordered_sorted {t : Keyed TxId ReservationRow ReservationRow.txId}
    {q : ReservationRow → Bool} :
    (t.ordered q ReservationRow.key).Pairwise fun a b => a.key < b.key := by
  have hne : (t.ordered q ReservationRow.key).Pairwise fun a b => a.key ≠ b.key := by
    refine List.Pairwise.imp_of_mem ?_ Keyed.ordered_nodup
    intro a b ha hb hab hkey
    have htx : a.txId = b.txId := by rw [← a.key_txId, ← b.key_txId, hkey]
    have hfound := Keyed.find_of_mem (Keyed.mem_ordered.mp ha).1
    rw [htx, Keyed.find_of_mem (Keyed.mem_ordered.mp hb).1] at hfound
    exact hab (Option.some.inj hfound).symm
  exact (Keyed.ordered_pairwise.and hne).imp fun h => lt_of_le_of_ne h.1 h.2

/-- no time that is given out is `0` -/
structure Dated (s : Store) : Prop where
  assigned : ∀ a ∈ s.assigned, 0 < a.decidedAtMs
  published : ∀ p ∈ s.publications, ∀ row ∈ p.reservations.rows, row.finalizedBy 0 = false

theorem Dated.row (h : Dated s) (hc : Clocked s) {row : ReservationRow}
    (hrow : row ∈ s.reservations.rows) : row.finalizedBy 0 = false := by
  unfold ReservationRow.finalizedBy
  cases hstate : row.state with
  | finalized intentHash decidedAtMs sequence published =>
    have hpos : 0 < decidedAtMs := h.assigned _ (hc.decided row hrow _ _ _ _ hstate)
    exact decide_eq_false (Nat.not_le.mpr hpos)
  | _ => rfl

theorem dated_stable : (rules L d).Stable Dated := by
  refine stable_of_move fun {s s'} hi hm h => ?_
  cases hm with
  | assign txId intentHash row =>
    refine ⟨fun a ha => ?_, h.published⟩
    rcases List.mem_append.mp ha with ha | ha
    · exact h.assigned a ha
    · obtain rfl := List.mem_singleton.mp ha
      exact (Nat.zero_le _).trans_lt decisionTime_gt
  | publishSeal row receipt =>
    refine ⟨h.assigned, fun p hp => ?_⟩
    rcases List.mem_append.mp hp with hp | hp
    · exact h.published p hp
    · obtain rfl := List.mem_singleton.mp hp
      exact fun row hrow => h.row hi.clocked hrow
  | _ => exact ⟨h.assigned, h.published⟩

/-- what a window shows while no sweep has come to it is what was published -/
theorem Sees.window {cutoffMs startMs : Nat} (h : Sees s cutoffMs p)
    (hzero : ∀ row ∈ p.reservations.rows, row.finalizedBy 0 = false)
    (hwatermark : ¬ (s.bucket.recordsDeletedThroughMs > 0 ∧
      startMs ≤ s.bucket.recordsDeletedThroughMs)) :
    (s.reservations.ordered (fun row => row.finalizedIn startMs cutoffMs && row.published.isSome)
      ReservationRow.key).map ReservationRow.view =
      (p.window startMs cutoffMs).map ReservationRow.view := by
  have hirrefl : Std.Irrefl fun a b : MemberKey × Option PublishedRecord => a.1 < b.1 :=
    ⟨fun a => lt_irrefl _⟩
  have hasymm : Std.Antisymm fun a b : MemberKey × Option PublishedRecord => a.1 < b.1 :=
    ⟨fun a b h h' => absurd (h.trans h') (lt_irrefl _)⟩
  have hsorted : ∀ {t : Keyed TxId ReservationRow ReservationRow.txId} {q : ReservationRow → Bool},
      ((t.ordered q ReservationRow.key).map ReservationRow.view).Pairwise fun a b => a.1 < b.1 :=
    List.pairwise_map.mpr ordered_sorted
  have hview : ∀ {row row' : ReservationRow}, row.SameRecord row' → row'.view = row.view := by
    intro row row' he
    unfold ReservationRow.view
    rw [he.key, he.published]
  refine hsorted.eq_of_mem_iff hsorted fun e => ?_
  constructor
  · intro he
    obtain ⟨row, hrow, rfl⟩ := List.mem_map.mp he
    obtain ⟨hrow, hin⟩ := Keyed.mem_ordered.mp hrow
    obtain ⟨hin, -⟩ := Bool.and_eq_true_iff.mp hin
    obtain ⟨row₀, hrow₀, hsame⟩ := h.origin row hrow (finalizedIn_iff.mp hin).1
    rw [hview hsame]
    refine List.mem_map_of_mem (Keyed.mem_ordered.mpr ⟨hrow₀, ?_⟩)
    rw [← hsame.finalizedIn]
    exact hin
  · intro he
    obtain ⟨row₀, hrow₀, rfl⟩ := List.mem_map.mp he
    obtain ⟨hrow₀, hin⟩ := Keyed.mem_ordered.mp hrow₀
    obtain ⟨hfin, intentHash, decidedAtMs, sequence, published, hstate, hstart⟩ :=
      finalizedIn_iff.mp hin
    have hleft : row₀.finalizedBy s.bucket.recordsDeletedThroughMs = false := by
      have hpos := hzero row₀ hrow₀
      unfold ReservationRow.finalizedBy at hpos ⊢
      rw [hstate] at hpos ⊢
      have hpos := of_decide_eq_false hpos
      refine decide_eq_false fun hle => hwatermark ?_
      omega
    obtain ⟨row, hrow, hsame⟩ := h.kept row₀ hrow₀ hfin hleft
    rw [← hview hsame]
    refine List.mem_map_of_mem (Keyed.mem_ordered.mpr ⟨hrow, ?_⟩)
    rw [hsame.finalizedIn, hin]
    exact h.published row hrow ((hsame.finalizedBy cutoffMs).trans hfin)

/-! ## one page -/

/-- where a page starts -/
def startOf (cursor : Option LocalPageCursor) : WithBot MemberKey :=
  match cursor with
  | some cursor => cursor.last
  | none => ⊥

/-- the key of a row, behind which a page starts -/
abbrev ReservationRow.bound (row : ReservationRow) : WithBot MemberKey := row.key

/-- the reservations that a page of the window holds -/
def Publication.pageRows (request : LocalPageRequest) (p : Publication) : List ReservationRow :=
  Keyset.page ReservationRow.bound (p.window request.coverageStartMs request.cutoffMs) request.limit
    (startOf request.cursor)

/-- The page holds the next records of the window behind the cursor of its request, it is complete
when nothing is behind them, and its cursor is the last of them. -/
structure PageReads (request : LocalPageRequest) (page : LocalPage) (p : Publication) : Prop where
  generation : p.generation = request.sealGeneration
  receiptHash : p.receipt.receiptHash = request.sealReceiptHash
  records : page.records.map some =
    (p.pageRows request).map fun row => row.published.map (·.record)
  complete : page.complete → ((p.window request.coverageStartMs request.cutoffMs).filter
    fun row => startOf request.cursor < row.bound).length ≤ request.limit
  next : ∀ cursor, page.nextCursor = some cursor →
    ∃ last, (p.pageRows request).getLast? = some last ∧ cursor.last = last.key

theorem pageSeal_ok {requestHash : Hash} {now : Nat} {receipt : SealReceipt}
    (h : pageSeal request requestHash now s = .ok receipt) :
    ¬ (s.bucket.recordsDeletedThroughMs > 0 ∧
      request.coverageStartMs ≤ s.bucket.recordsDeletedThroughMs) ∧
    ∃ g, s.seals.find request.sealGeneration = some g ∧ g.status = .complete receipt ∧
      g.cutoffMs = request.cutoffMs ∧ receipt.receiptHash = request.sealReceiptHash := by
  unfold pageSeal at h
  split at h
  · cases h
  split at h
  · cases h
  split at h
  · cases h
  split at h
  · cases h
  rename_i hwatermark
  refine ⟨hwatermark, ?_⟩
  split at h
  · cases h
  rename_i found hfound
  split at h
  · cases h
  rename_i hhash
  split at h
  · cases h
  split at h
  · cases h
  cases h
  obtain ⟨g, hg, hreceipt⟩ := Option.bind_eq_some_iff.mp hfound
  obtain ⟨hreceipt, hcutoff⟩ := Option.filter_eq_some_iff.mp hreceipt
  refine ⟨g, hg, ?_, eq_of_beq hcutoff, not_not.mp hhash⟩
  unfold SealRow.receipt at hreceipt
  split at hreceipt
  · rename_i hstatus
    cases hreceipt
    exact hstatus
  · cases hreceipt

theorem pageSeal_error {requestHash : Hash} {now : Nat} {refusal : LocalPageResult}
    (h : pageSeal request requestHash now s = .error refusal) : refusal ≠ .page page := by
  unfold pageSeal pageRefused at h
  repeat' split at h
  all_goals
    cases h
    try
      intro hno
      cases hno

theorem filterMap_some {rows : List ReservationRow} (h : ∀ row ∈ rows, row.published.isSome) :
    (rows.filterMap fun row => row.published.map (·.record)).map some =
      rows.map fun row => row.published.map (·.record) := by
  induction rows with
  | nil => rfl
  | cons row rows ih =>
    obtain ⟨published, hp⟩ := Option.isSome_iff_exists.mp (h row List.mem_cons_self)
    have ih := ih fun row hrow => h row (List.mem_cons_of_mem _ hrow)
    simp only [List.filterMap_cons, List.map_cons, hp, Option.map_some]
    rw [ih]

/-- a page that is given in a bucket with such seals reads from the publication of its seal -/
theorem localPageSync_reads {requestHash : Hash} {now lease : Nat} (hi : Inv L d s)
    (hok : SealedOk s) (hdated : Dated s)
    (h : localPageSync request requestHash now lease s = (.page page, s')) :
    ∃ p ∈ s.publications, PageReads request page p := by
  unfold localPageSync at h
  cases hseal : pageSeal request requestHash now s with
  | error refusal =>
    rw [hseal] at h
    exact absurd (congrArg Prod.fst h) (pageSeal_error hseal)
  | ok receipt =>
    rw [hseal] at h
    obtain ⟨hwatermark, g, hg, hstatus, hcutoff, hhash⟩ := pageSeal_ok hseal
    have hmem := Keyed.mem_of_find hg
    have hgen : g.generation = request.sealGeneration := Keyed.key_find hg
    obtain ⟨p, hp, hpgen, hreceipt, hexact⟩ := (hi.seals g hmem).complete receipt hstatus
    obtain ⟨-, hsees⟩ := hok.sees p hp g hmem hpgen.symm
    rw [hcutoff] at hsees
    have hwindow := hsees.window (hdated.published p hp) hwatermark
    -- the rows that the statement returns, and those of the publication
    have hrows : (pageRows request s).map ReservationRow.view =
        (Keyset.page ReservationRow.bound (p.window request.coverageStartMs request.cutoffMs)
          (request.limit + 1) (startOf request.cursor)).map ReservationRow.view := by
      have hpage := fun items : List ReservationRow =>
        (@page_map _ _ Prod.fst _ _ ReservationRow.view items (request.limit + 1)
          (startOf request.cursor)).symm
      refine (hpage _).trans ?_
      rw [hwindow]
      exact (hpage _).symm
    have htaken : ((pageRows request s).take request.limit).map ReservationRow.view =
        (p.pageRows request).map ReservationRow.view := by
      rw [List.map_take, hrows, ← List.map_take]
      unfold Publication.pageRows Keyset.page
      rw [List.take_take, Nat.min_eq_left (Nat.le_succ _)]
    have hpublished : ∀ row ∈ (pageRows request s).take request.limit, row.published.isSome := by
      intro row hrow
      have hitem := (Keyset.mem_page _ _ _ (List.mem_of_mem_take hrow)).1
      exact (Bool.and_eq_true_iff.mp (Keyed.mem_ordered.mp hitem).2).2
    obtain ⟨hpage, -⟩ := Prod.mk.inj h
    cases hpage
    refine ⟨p, hp, hpgen.trans hgen, hreceipt ▸ hhash, ?_, fun hcomplete => ?_, fun cursor hc => ?_⟩
    · have hview := congrArg (List.map fun e : MemberKey × Option PublishedRecord =>
        e.2.map (·.record)) htaken
      rw [List.map_map, List.map_map] at hview
      exact (filterMap_some hpublished).trans hview
    · have hlength := congrArg List.length hrows
      unfold Keyset.page at hlength
      rw [List.length_map, List.length_map, List.length_take] at hlength
      have hshort : ¬ (pageRows request s).length > request.limit := by simpa using hcomplete
      omega
    · dsimp only at hc
      split at hc
      · obtain ⟨last, hlast, rfl⟩ := Option.map_eq_some_iff.mp hc
        have hview := congrArg List.getLast? htaken
        rw [List.getLast?_map, List.getLast?_map, hlast] at hview
        obtain ⟨last', hlast', he⟩ := Option.map_eq_some_iff.mp hview.symm
        exact ⟨last', hlast', (congrArg Prod.fst he).symm⟩
      · cases hc

/-! ## enumerations -/

structure PageCall where
  request : LocalPageRequest
  page : LocalPage

/-- some handler of the run has answered the request with the page -/
def PageCall.AnsweredIn (L : BucketLib) (now : Nat) (xs : List (Choice Ask Ask.Answer Request Event))
    (call : PageCall) : Prop :=
  ∃ ys x zs i, xs = ys ++ x :: zs ∧ Answers (system L) ((system L).run ⟨.initial now, []⟩ ys) x i
    (.localPage call.request) (.page (.page call.page))

/-- the calls ask for the same pages from `cursor` on, each with the cursor that the page before it
gave, and the last page is complete -/
inductive Enumeration (request : LocalPageRequest) :
    Option LocalPageCursor → List PageCall → Prop where
  | last {cursor call} (h : call.request = { request with cursor })
      (hcomplete : call.page.complete = true) : Enumeration request cursor [call]
  | next {cursor call next rest} (h : call.request = { request with cursor })
      (hnext : call.page.nextCursor = some next) (hrest : Enumeration request (some next) rest) :
      Enumeration request cursor (call :: rest)

namespace Enumeration
variable {cursor : Option LocalPageCursor} {calls : List PageCall}

theorem requests (h : Enumeration request cursor calls) : ∀ call ∈ calls, ∃ cursor,
    call.request = { request with cursor } := by
  induction h with
  | last h =>
    intro call hcall
    obtain rfl := List.mem_singleton.mp hcall
    exact ⟨_, h⟩
  | next h _ _ ih =>
    intro call hcall
    rcases List.mem_cons.mp hcall with rfl | hcall
    · exact ⟨_, h⟩
    · exact ih call hcall

theorem exists_mem (h : Enumeration request cursor calls) : ∃ call, call ∈ calls := by
  cases h with
  | last => exact ⟨_, List.mem_cons_self⟩
  | next => exact ⟨_, List.mem_cons_self⟩

end Enumeration

/-- pages that go on from one cursor to the next hold all that is behind the first -/
theorem enumeration_records {cursor : Option LocalPageCursor} {calls : List PageCall}
    (h : Enumeration request cursor calls)
    (hreads : ∀ call ∈ calls, PageReads call.request call.page p) :
    (calls.flatMap (·.page.records)).map some =
      ((p.window request.coverageStartMs request.cutoffMs).filter
        fun row => startOf cursor < row.bound).map fun row => row.published.map (·.record) := by
  induction h with
  | last h hcomplete =>
    have hpage := hreads _ List.mem_cons_self
    rw [h] at hpage
    rw [List.flatMap_cons, List.flatMap_nil, List.append_nil, hpage.records]
    unfold Publication.pageRows Keyset.page
    rw [List.take_of_length_le (hpage.complete hcomplete)]
  | @next cursor call next rest h hnext hrest ih =>
    have hpage := hreads _ List.mem_cons_self
    rw [h] at hpage
    obtain ⟨last, hlast, hcursor⟩ := hpage.next _ hnext
    have hstart : startOf (some next) = last.bound := congrArg WithBot.some hcursor
    have ih := ih fun call hcall => hreads call (List.mem_cons_of_mem _ hcall)
    rw [List.flatMap_cons, List.map_append, hpage.records, ih, ← List.map_append, hstart]
    have hsorted : (p.window request.coverageStartMs request.cutoffMs).Pairwise
        fun a b => a.bound < b.bound := ordered_sorted.imp WithBot.coe_lt_coe.mpr
    exact congrArg _ (page_append hsorted hlast)

/-! ## answers -/

/-- a page that is answered reads from a publication -/
def PageAnswer (request : Request) (response : Response) (s : Store) : Prop :=
  ∀ r page, request = .localPage r → response = .page (.page page) → SealedOk s → Dated s →
    ∃ p ∈ s.publications, PageReads r page p

theorem localPage_reads : Ok L d (localPage L request)
    (fun result s => ∀ page, result = .page page → SealedOk s → Dated s →
      ∃ p ∈ s.publications, PageReads request page p) s := by
  refine Rules.Does.rescue ?_ fun _ _ => .pure nofun
  refine liftContract_ok.bind fun requestHash _ _ _ => digest_ok.bind fun _ s₂ _ _ => ?_
  have page : ∀ s₂, Ok L d (do
      let now ← gets (·.now)
      let leaseExpiresAtMs := now + manifestCursorLeaseMs
      ensureAlarmAtOrBefore leaseExpiresAtMs
      sync (localPageSync request requestHash now leaseExpiresAtMs))
      (fun result s => ∀ page, result = .page page → SealedOk s → Dated s →
        ∃ p ∈ s.publications, PageReads request page p) s₂ := by
    intro s₂
    refine gets_ok.bind fun now _ _ _ => ensureAlarm_ok.bind fun _ s₃ _ _ => ?_
    refine Rules.Does.of_inv fun hi => ?_
    refine (sync_ok fun _ => localPageSync_section).mono fun result s₄ he page hresult hok hdated => ?_
    obtain rfl := hresult
    have hsame : ∃ pageCursors, s₄ = { s₃ with pageCursors } := by
      have hstore := congrArg Prod.snd he
      unfold localPageSync at hstore
      split at hstore
      · exact ⟨s₃.pageCursors, hstore.symm⟩
      · exact ⟨_, hstore.symm⟩
    obtain ⟨pageCursors, rfl⟩ := hsame
    have hok₃ : SealedOk s₃ := by
      refine ⟨hok.generation, hok.once, fun p hp g hg hk => ?_⟩
      obtain ⟨hstatus, hsees⟩ := hok.sees p hp g hg hk
      exact ⟨hstatus, hsees.still rfl le_rfl⟩
    have hdated₃ : Dated s₃ := ⟨hdated.assigned, hdated.published⟩
    exact localPageSync_reads (s := s₃) hi hok₃ hdated₃ he
  split
  · exact liftContract_ok.bind fun _ s₃ _ _ => page s₃
  · exact page s₂

theorem handle_answers (request : Request) :
    Ok L d (handle L request) (PageAnswer request) s := by
  cases request with
  | localPage request =>
    refine localPage_reads.bind fun result s' _ h => .pure fun r page hr hpage => ?_
    cases hr
    cases hpage
    exact h page rfl
  | _ => exact (handle_ok _).mono fun _ _ _ _ _ hr => by cases hr

/-! ## sweeps -/

/-- released, due at `now`, not in dispute, and covered by no lease that is still live then -/
structure Deletable (now : Nat) (s : Store) (row : ReservationRow) : Prop where
  released : row.lifecycleReleased = true
  due : ∃ published, row.published = some published ∧ published.retentionDeadlineMs ≤ now
  resolved : row.unresolved = false
  unleased : ∀ lease ∈ s.pageCursors.rows, now < lease.leaseExpiresAtMs →
    ¬ (lease.coverageStartMs ≤ row.key.1 ∧ row.key.1 ≤ lease.cutoffMs)

/-- what is deleted may be deleted, and the watermark moves past it -/
def DeletesOnly (now : Nat) (s s' : Store) : Prop :=
  ∀ row ∈ s.reservations.rows, s'.reservations.find row.txId = none →
    Deletable now s row ∧ row.key.1 ≤ s'.bucket.recordsDeletedThroughMs

theorem DeletesOnly.still {now : Nat} (h : s'.reservations = s.reservations) :
    DeletesOnly now s s' := by
  intro row hrow hnone
  rw [h, Keyed.find_of_mem hrow] at hnone
  cases hnone

theorem find_drops {now : Nat} {txId : TxId} (rows : List ReservationRow)
    (h : ∀ row ∈ rows, row.txId ≠ txId) : ∀ s : Store,
      (rows.foldl (fun s row => s.dropReservation now row) s).reservations.find txId =
        s.reservations.find txId := by
  induction rows with
  | nil => exact fun _ => rfl
  | cons row rows ih =>
    intro s
    refine (ih (fun r hr => h r (List.mem_cons_of_mem _ hr)) _).trans ?_
    exact Keyed.find_erase_ne fun hk => h row List.mem_cons_self hk.symm

/-- rows sorted by the ledger are decided from the time of the first one on -/
theorem decided_from_first {now : Nat} {row : ReservationRow} (h : row ∈ retentionCandidates now s) :
    ∃ first, (retentionCandidates now s).head? = some first ∧ first.key.1 ≤ row.key.1 := by
  have hsorted : (retentionCandidates now s).Pairwise fun a b => a.key ≤ b.key :=
    (Keyed.ordered_pairwise (t := s.reservations)).sublist (List.take_sublist _ _)
  cases hrows : retentionCandidates now s with
  | nil =>
    rw [hrows] at h
    cases h
  | cons first rest =>
    rw [hrows] at h hsorted
    refine ⟨first, rfl, ?_⟩
    rcases List.mem_cons.mp h with rfl | h
    · exact le_rfl
    · exact Prod.Lex.monotone_fst _ _ ((List.pairwise_cons.mp hsorted).1 row h)

/-- no live lease reaches into the candidates -/
theorem unleased_of_blocks {now : Nat} {row : ReservationRow} (h : row ∈ retentionCandidates now s)
    (hfree : ¬ s.pageCursors.count (·.blocks ((retentionCandidates now s).map .ofRow) now) > 0) :
    ∀ lease ∈ s.pageCursors.rows, now < lease.leaseExpiresAtMs →
      ¬ (lease.coverageStartMs ≤ row.key.1 ∧ row.key.1 ≤ lease.cutoffMs) := by
  intro lease hlease hlive hcovers
  obtain ⟨first, hfirst, hge⟩ := decided_from_first h
  obtain ⟨last, hlast, hle⟩ := decided_by_last h
  have hblocks : lease.blocks ((retentionCandidates now s).map .ofRow) now = true := by
    unfold PageCursorRow.blocks
    rw [List.head?_map, List.getLast?_map, hfirst, hlast]
    exact decide_eq_true ⟨hlive, hcovers.1.trans hle, hge.trans hcovers.2⟩
  apply hfree
  unfold Keyed.count
  exact List.length_pos_of_mem (List.mem_filter.mpr ⟨hlease, hblocks⟩)

theorem retentionSync_deletes {now : Nat} {candidates : List RetentionCandidate} {root : Hash} :
    DeletesOnly now s (retentionSync now candidates root s).2 := by
  unfold retentionSync
  split
  · exact .still rfl
  rename_i hfree
  split
  · exact .still rfl
  dsimp only
  split
  · exact .still rfl
  rename_i hsame
  obtain rfl := not_not.mp hsame
  intro row hrow hnone
  have hmem : row ∈ retentionCandidates now s := by
    by_contra hne
    have hkeys : ∀ r ∈ retentionCandidates now s, r.txId ≠ row.txId := by
      intro r hr hk
      have hfound := Keyed.find_of_mem (Keyed.mem_ordered.mp (List.mem_of_mem_take hr)).1
      rw [hk, Keyed.find_of_mem hrow] at hfound
      exact hne (Option.some.inj hfound ▸ hr)
    have hgone : s.reservations.find row.txId = none := (find_drops _ hkeys s).symm.trans hnone
    rw [Keyed.find_of_mem hrow] at hgone
    cases hgone
  have hdue := (Keyed.mem_ordered.mp (List.mem_of_mem_take hmem)).2
  obtain ⟨hdue, hpublished⟩ := Bool.and_eq_true_iff.mp hdue
  obtain ⟨hreleased, hresolved⟩ := Bool.and_eq_true_iff.mp hdue
  obtain ⟨published, hp, hdeadline⟩ := (Option.any_eq_true _ _).mp hpublished
  refine ⟨⟨hreleased, ⟨published, hp, of_decide_eq_true hdeadline⟩, ?_, ?_⟩, ?_⟩
  · simpa using hresolved
  · exact unleased_of_blocks hmem hfree
  · obtain ⟨last, hlast, hle⟩ := decided_by_last hmem
    show row.key.1 ≤ max _ _
    rw [List.getLast?_map, hlast]
    exact le_max_of_le_right hle

/-- **every section of a sweep**, whatever happens between them -/
theorem sweepV2Retention_deletes (now : Nat) :
    (sweepV2Retention L now).Only (DeletesOnly now) fun _ => True := by
  refine .step (fun _ => .still rfl) fun _ => .step (fun _ => .still rfl) fun s₁ => ?_
  show Prog.Only _ _ (ite _ _ _)
  split
  · exact .pure trivial
  show Prog.Only _ _ (ite _ _ _)
  split
  · exact .pure trivial
  split
  · exact .pure trivial
  refine .call fun _ => .step (fun s => retentionSync_deletes) fun _ => ?_
  exact .step (fun _ => .still rfl) fun _ => .pure trivial

/-! ## whole runs -/

/-- what is known of a bucket after any run -/
theorem run_sealed (L : BucketLib) (now : Nat) (xs : List (Choice Ask Ask.Answer Request Event)) :
    let s := ((system L).run ⟨.initial now, []⟩ xs).store
    Inv L anyRun s ∧ SealedOk s ∧ Dated s ∧ SweptBehind s := by
  intro s
  have hmeets : (system L).Meets (fun c x => x.Allowed (system L) (terms anyRun) c)
      ⟨Store.initial now, []⟩ ([] ++ xs) := System.meets_of_forall _ allowed_anyRun
  obtain ⟨hi, hl⟩ := (obeys L anyRun).reachable (Inv.initial now) hmeets
  refine ⟨hl.inv hi, sealedOk_stable.later hl (.initial now), dated_stable.later hl ⟨nofun, nofun⟩,
    sweptBehind_stable.later hl nofun⟩

/-- what a run has published stays published -/
theorem run_publications (L : BucketLib) (now : Nat)
    (xs ys : List (Choice Ask Ask.Answer Request Event)) {p : Publication}
    (hp : p ∈ ((system L).run ⟨.initial now, []⟩ xs).store.publications) :
    p ∈ ((system L).run ⟨.initial now, []⟩ (xs ++ ys)).store.publications := by
  have hmeets : (system L).Meets (fun c x => x.Allowed (system L) (terms anyRun) c)
      ⟨Store.initial now, []⟩ (xs ++ ys) := System.meets_of_forall _ allowed_anyRun
  have hl := ((obeys L anyRun).reachable (Inv.initial now) hmeets).2
  have hstays : (rules L anyRun).Stable fun s => p ∈ s.publications :=
    stable_of_move fun _ hm h => publications_mono hm p h
  exact hstays.later hl hp

/-- a step that answers a page leaves the publication that the page reads from -/
theorem answered_reads {now : Nat} {ys : List (Choice Ask Ask.Answer Request Event)}
    {x : Choice Ask Ask.Answer Request Event} {i : Nat}
    (h : Answers (system L) ((system L).run ⟨.initial now, []⟩ ys) x i (.localPage request)
      (.page (.page page))) :
    ∃ p ∈ ((system L).run ⟨.initial now, []⟩ (ys ++ [x])).store.publications,
      PageReads request page p := by
  have hgoverns := (obeys L anyRun).governs
  have hpost : ∀ r s, (terms anyRun).accept r → (rules L anyRun).protocol.inv s →
      Promise (rules L anyRun).protocol ((terms anyRun).ok r) (PageAnswer r)
        ((system L).handler r) s := fun r s _ hi => handle_answers r hi
  have hnone : Promises (rules L anyRun).protocol (terms anyRun) PageAnswer
      (⟨Store.initial now, []⟩ : Config Store Ask Ask.Answer BucketError Response Request) := by
    intro i t ht
    cases ht
  obtain ⟨gs, hf, hp⟩ := hgoverns.run_promises hpost ys (Obeys.follows (Inv.initial now)) hnone
    (System.meets_of_forall _ allowed_anyRun)
  have hsaid := hgoverns.answered hpost hf hp (allowed_anyRun _ x) h
  obtain ⟨-, hok, hdated, -⟩ := run_sealed L now (ys ++ [x])
  rw [System.run_append] at hok hdated ⊢
  exact hsaid request page rfl rfl hok hdated

/-- a page that a run has answered reads from a publication -/
theorem PageCall.reads {now : Nat} {xs : List (Choice Ask Ask.Answer Request Event)}
    {call : PageCall} (h : call.AnsweredIn L now xs) :
    ∃ p ∈ ((system L).run ⟨.initial now, []⟩ xs).store.publications,
      PageReads call.request call.page p := by
  obtain ⟨ys, x, zs, i, rfl, hanswer⟩ := h
  obtain ⟨p, hp, hreads⟩ := answered_reads hanswer
  refine ⟨p, ?_, hreads⟩
  rw [List.append_cons]
  exact run_publications L now (ys ++ [x]) zs hp

/-- **Pages of a bucket under retention.**  Whatever happens to a bucket between the calls of
`localPage` and around them: an enumeration that ends with a complete page has read, each once and
in decision order, the records of exactly the reservations of its window that were decided when its
seal was published, which happened once.  A sweep of the retention deletes only records that are
released, due and under no live lease, and what was ever deleted was decided by the watermark. -/
theorem pages_exact (L : BucketLib) (now : Nat) (xs : List (Choice Ask Ask.Answer Request Event))
    (request : LocalPageRequest) (calls : List PageCall)
    (hcalls : ∀ call ∈ calls, call.AnsweredIn L now xs) (h : Enumeration request none calls) :
    let s := ((system L).run ⟨.initial now, []⟩ xs).store
    (∃ p ∈ s.publications, p.generation = request.sealGeneration ∧
      p.receipt.receiptHash = request.sealReceiptHash ∧
      (∀ p' ∈ s.publications, p'.generation = request.sealGeneration → p' = p) ∧
      (calls.flatMap (·.page.records)).map some =
        (p.window request.coverageStartMs request.cutoffMs).map
          fun row => row.published.map (·.record)) ∧
    (∀ sweepMs, (sweepV2Retention L sweepMs).Only (DeletesOnly sweepMs) fun _ => True) ∧
    ∀ e ∈ s.swept, e.row.isFinalized → e.row.finalizedBy s.bucket.recordsDeletedThroughMs := by
  intro s
  obtain ⟨-, hok, -, hswept⟩ := run_sealed L now xs
  refine ⟨?_, sweepV2Retention_deletes, hswept⟩
  have hnamed : ∀ call ∈ calls, call.request.sealGeneration = request.sealGeneration ∧
      call.request.sealReceiptHash = request.sealReceiptHash := by
    intro call hcall
    obtain ⟨cursor, hrequest⟩ := h.requests call hcall
    rw [hrequest]
    exact ⟨rfl, rfl⟩
  obtain ⟨first, hfirst⟩ := h.exists_mem
  obtain ⟨hgeneration, hhash⟩ := hnamed first hfirst
  obtain ⟨p, hp, hread⟩ := PageCall.reads (hcalls first hfirst)
  have hp' : p.generation = request.sealGeneration := hread.generation.trans hgeneration
  have hsame : ∀ call ∈ calls, PageReads call.request call.page p := by
    intro call hcall
    obtain ⟨p', hmem, hreads⟩ := PageCall.reads (hcalls call hcall)
    have hgen := hreads.generation.trans ((hnamed call hcall).1.trans hp'.symm)
    rwa [hok.once p' hmem p hp hgen] at hreads
  refine ⟨p, hp, hp', hread.receiptHash.trans hhash,
    fun p' hmem hgen => hok.once p' hmem p hp (hgen.trans hp'.symm), ?_⟩
  rw [enumeration_records h hsame]
  refine congrArg _ (List.filter_eq_self.mpr fun row _ => ?_)
  exact decide_eq_true (WithBot.bot_lt_coe row.key)

/-! ## a run -/

deriving instance DecidableEq for LocalPageIdentity
deriving instance DecidableEq for LocalPageRequest

def secondReservation : ManifestReservation :=
  { exampleReservation with txId := "t2", coordinatorId := "t2" }

def exampleSeal : SealRequest :=
  { fleetId := "default", route := exampleRoute, cutoffMs := 20, idempotencyKey := "seal" }

/-- two reservations are decided, and a seal is published over them -/
def sealedBoth : List Step :=
  arrives (.reserve exampleReservation (hex 'a') 0) :: resumes 0 4 ++
    arrives (.finalize exampleFinalize) :: resumes 1 4 ++
    arrives (.reserve secondReservation (hex 'a') 0) :: resumes 2 4 ++
    arrives (.finalize { exampleFinalize with txId := "t2" }) :: resumes 3 4 ++
    .event (.clock 50) :: arrives (.closeThrough exampleSeal) :: resumes 4 10

def examplePage (cursor : Option LocalPageCursor) : LocalPageRequest :=
  { fleetId := "default", route := exampleRoute, coverageStartMs := 5, cutoffMs := 20
    sealGeneration := 1, sealReceiptHash := hex '4', limit := 1, expectedRetentionEpoch := 0, cursor }

def exampleCursor : LocalPageCursor :=
  { requestHash := hex '8', retentionEpoch := 0, sealGeneration := 1, sealReceiptHash := hex '4'
    last := toLex (10, toLex (1, "t1")) }

/-- the first page up to its answer, then the second one -/
def firstPage : List Step := sealedBoth ++ arrives (.localPage (examplePage none)) :: resumes 5 1

def secondPage : List Step :=
  firstPage ++ resumes 5 1 ++ arrives (.localPage (examplePage (some exampleCursor))) :: resumes 6 1

/-- the page that a handler of the request has answered -/
def pageOf (request : LocalPageRequest)
    (t : Thread Store Ask Ask.Answer BucketError Response Request) : Option LocalPage :=
  match t.req, t.prog with
  | .localPage r, .pure (.page (.page page)) => if r = request then some page else none
  | _, _ => none

theorem of_pageOf {t : Thread Store Ask Ask.Answer BucketError Response Request}
    (h : pageOf request t = some page) :
    t.req = .localPage request ∧ t.prog = .pure (.page (.page page)) := by
  unfold pageOf at h
  split at h
  · rename_i r page' hreq hprog
    split at h
    · rename_i hsame
      cases h
      exact ⟨hsame ▸ hreq, hprog⟩
    · cases h
  · cases h

theorem answers_of_pageOf (ys : List Step) (x : Step) (i : Nat) (request : LocalPageRequest)
    (q : LocalPage → Bool)
    (hpage : ((((system exampleLib).run ⟨.initial 10, []⟩ (ys ++ [x])).threads[i]?).bind
      (pageOf request)).any q)
    (hbefore : (((system exampleLib).run ⟨.initial 10, []⟩ ys).threads[i]?).all
      fun t => !t.prog.finished) :
    ∃ page, q page ∧ Answers (system exampleLib) ((system exampleLib).run ⟨.initial 10, []⟩ ys) x i
      (.localPage request) (.page (.page page)) := by
  obtain ⟨page, hpage, hq⟩ := (Option.any_eq_true _ _).mp hpage
  obtain ⟨t, ht, hpage⟩ := Option.bind_eq_some_iff.mp hpage
  rw [System.run_append] at ht
  refine ⟨page, hq, ⟨t, ht, of_pageOf hpage⟩, fun t ht => ?_⟩
  rw [ht] at hbefore
  simpa using hbefore

/-- two pages of one record each hold both -/
theorem both_pages_exact : ∃ calls : List PageCall, calls.length = 2 ∧
    ∃ p ∈ ((system exampleLib).run ⟨.initial 10, []⟩ (secondPage ++ resumes 6 1)).store.publications,
      (calls.flatMap (·.page.records)).map some =
        (p.window 5 20).map fun row => row.published.map (·.record) := by
  obtain ⟨page, hcursor, hanswer⟩ := answers_of_pageOf firstPage
    (.run (.resume 5 fun _ => ())) 5 (examplePage none)
    (fun page => page.nextCursor = some exampleCursor) (by decide +kernel) (by decide +kernel)
  obtain ⟨page', hcomplete, hanswer'⟩ := answers_of_pageOf secondPage
    (.run (.resume 6 fun _ => ())) 6 (examplePage (some exampleCursor))
    (fun page => page.complete) (by decide +kernel) (by decide +kernel)
  let calls : List PageCall := [⟨examplePage none, page⟩, ⟨examplePage (some exampleCursor), page'⟩]
  have henum : Enumeration (examplePage none) none calls :=
    .next rfl (of_decide_eq_true hcursor) (.last rfl hcomplete)
  have hcalls : ∀ call ∈ calls, call.AnsweredIn exampleLib 10 (secondPage ++ resumes 6 1) := by
    intro call hcall
    rcases List.mem_cons.mp hcall with rfl | hcall
    · refine ⟨firstPage, _, arrives (.localPage (examplePage (some exampleCursor))) ::
        resumes 6 1 ++ resumes 6 1, 5, ?_, hanswer⟩
      unfold secondPage
      rw [List.append_assoc, List.append_assoc]
      rfl
    · obtain rfl := List.mem_singleton.mp hcall
      exact ⟨secondPage, _, [], 6, rfl, hanswer'⟩
  obtain ⟨⟨p, hp, -, -, -, hrecords⟩, -, -⟩ := pages_exact exampleLib 10 _ _ calls hcalls henum
  exact ⟨calls, rfl, p, hp, hrecords⟩

end JournalManifest
