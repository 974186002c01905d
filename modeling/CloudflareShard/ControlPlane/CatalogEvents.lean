import CloudflareShard.ControlPlane.CatalogMoves

/-!
# The history of the buckets

* `EventsOk`         the tables of the buckets against the events there were;
* `EventsOk.activeAt`   a snapshot that is being taken finds its members in the history;
* `EventsOk.move`    every move keeps it.
-/

namespace FleetCatalog
open Async Contracts Keyset

variable {L : CatalogLib} {d : Regime} {s s' : Store}

def Store.nextSequence (s : Store) : Nat := (s.metadata.map (·.nextEventSequence)).getD 0

def Store.generation (s : Store) : Nat := (s.metadata.map (·.currentSnapshotGeneration)).getD 0

def Store.floorMs (s : Store) : Nat := (s.metadata.map (·.decisionFloorMs)).getD 0

theorem nextSequence_eq {m : Metadata} (h : s.metadata = some m) :
    s.nextSequence = m.nextEventSequence := by simp [Store.nextSequence, h]

theorem generation_eq {m : Metadata} (h : s.metadata = some m) :
    s.generation = m.currentSnapshotGeneration := by simp [Store.generation, h]

theorem floorMs_eq {m : Metadata} (h : s.metadata = some m) : s.floorMs = m.decisionFloorMs := by
  simp [Store.floorMs, h]

/-- the tables of the buckets against the events there were -/
structure EventsOk (s : Store) : Prop where
  positive : ∀ e ∈ s.events, 0 < e.sequence
  bound : ∀ e ∈ s.events, e.sequence ≤ s.nextSequence
  fence : ∀ row ∈ s.snapshots.rows, row.fenceSequence ≤ s.nextSequence
  active : ∀ row ∈ s.active.rows, row.retired = none → ∃ h,
    s.history.find row.activationSequence = some h ∧ h.entry.bucket = row.entry.bucket ∧
      h.deactivated = none
  standing : ∀ h ∈ s.history.rows, h.deactivated = none → ∃ row,
    s.active.find h.entry.bucket = some row ∧ row.retired = none ∧
      row.activationSequence = h.activationSequence
  activated : ∀ h ∈ s.history.rows, .activated h.activationSequence h.entry ∈ s.events
  followed : ∀ h ∈ s.history.rows, ∀ e ∈ s.events, e.bucket = h.entry.bucket →
    h.activationSequence < e.sequence →
      ∃ deactivated, h.deactivated = some deactivated ∧ deactivated.sequence ≤ e.sequence
  retired : ∀ h ∈ s.history.rows, ∀ deactivated, h.deactivated = some deactivated →
    h.activationSequence < deactivated.sequence ∧
      ∃ e ∈ s.events, e.bucket = h.entry.bucket ∧ e.sequence = deactivated.sequence
  latest : ∀ sequence entry, .activated sequence entry ∈ s.events →
    (∀ e ∈ s.events, e.bucket = entry.bucket → e.sequence ≤ sequence) →
      ∃ h ∈ s.history.rows, h.member = ⟨sequence, entry⟩
  held : ∀ row ∈ s.snapshots.rows, row.isBuilding → ∀ m ∈ live s.events row.fenceSequence,
    ∃ h ∈ s.history.rows, h.member = m

namespace EventsOk

/-- the rows that a snapshot with this fence selects are its members -/
theorem activeAt (h : EventsOk s) {row : HistoryRow} (hrow : row ∈ s.history.rows) {fence : Nat} :
    row.activeAt fence ↔ row.member ∈ live s.events fence := by
  simp only [HistoryRow.activeAt, Bool.and_eq_true, decide_eq_true_eq, Option.all_eq_true]
  constructor
  · rintro ⟨hle, hde⟩
    refine ⟨h.activated row hrow, hle, fun e he hb hf => ?_⟩
    by_contra hlt
    obtain ⟨deactivated, hd, hle'⟩ := h.followed row hrow e he hb (not_le.mp hlt)
    have := hde deactivated hd
    omega
  · rintro ⟨-, hle, hlast⟩
    refine ⟨hle, fun deactivated hd => ?_⟩
    obtain ⟨hlt, e, he, hb, hq⟩ := h.retired row hrow deactivated hd
    by_contra hn
    have := hlast e he hb (by omega)
    have hm : row.member.activationSequence = row.activationSequence := rfl
    omega

/-- nothing but the fences and these tables matters -/
theorem congr (h : EventsOk s) (hn : s'.nextSequence = s.nextSequence)
    (ha : s'.active = s.active) (hh : s'.history = s.history) (he : s'.events = s.events)
    (hs : ∀ row' ∈ s'.snapshots.rows, ∃ row ∈ s.snapshots.rows,
      row'.fenceSequence = row.fenceSequence ∧ (row'.isBuilding → row.isBuilding)) :
    EventsOk s' := by
  have fence : ∀ row ∈ s'.snapshots.rows, row.fenceSequence ≤ s'.nextSequence := by
    intro row' hrow'
    obtain ⟨row, hrow, hf, -⟩ := hs row' hrow'
    rw [hf, hn]
    exact h.fence row hrow
  have held : ∀ row ∈ s'.snapshots.rows, row.isBuilding →
      ∀ m ∈ live s.events row.fenceSequence, ∃ r ∈ s.history.rows, r.member = m := by
    intro row' hrow' hb
    obtain ⟨row, hrow, hf, hb'⟩ := hs row' hrow'
    rw [hf]
    exact h.held row hrow (hb' hb)
  constructor
  all_goals simp only [hn, ha, hh, he] at *
  · exact h.positive
  · exact h.bound
  · exact fence
  · exact h.active
  · exact h.standing
  · exact h.activated
  · exact h.followed
  · exact h.retired
  · exact h.latest
  · exact held

/-- an activation has a number of its own -/
theorem history_le (h : EventsOk s) {row : HistoryRow} (hrow : row ∈ s.history.rows) :
    row.activationSequence ≤ s.nextSequence := h.bound _ (h.activated row hrow)

/-- the next event, for a bucket that is not active -/
theorem activate (h : EventsOk s) {m : Metadata} {row : ActiveRow} {entry : Entry}
    (hm : s.metadata = some m)
    (ho : ∀ old, s.active.find entry.bucket = some old → old.retired.isSome)
    (hb : row.entry.bucket = entry.bucket)
    (hq : row.activationSequence = m.nextEventSequence + 1) (hact : row.retired = none) :
    EventsOk { s with
      metadata := some { m with nextEventSequence := m.nextEventSequence + 1 }
      active := s.active.put row
      history := s.history.put
        { activationSequence := m.nextEventSequence + 1, entry, deactivated := none }
      events := s.events ++ [.activated (m.nextEventSequence + 1) entry] } := by
  have hn : s.nextSequence = m.nextEventSequence := nextSequence_eq hm
  -- rows of the history that are there already stand for other buckets or are deactivated
  have old : ∀ r ∈ s.history.rows, r.activationSequence ≠ m.nextEventSequence + 1 := by
    intro r hr
    have := h.history_le hr
    omega
  have off : ∀ r ∈ s.history.rows, r.entry.bucket = entry.bucket → r.deactivated ≠ none := by
    intro r hr hrb hd
    obtain ⟨a, ha, hret, -⟩ := h.standing r hr hd
    have := ho a (hrb ▸ ha)
    simp [hret] at this
  have keep : ∀ r ∈ s.history.rows, r ∈ (s.history.put
      { activationSequence := m.nextEventSequence + 1, entry, deactivated := none }).rows :=
    fun r hr => Keyed.mem_put.mpr (.inr ⟨hr, old r hr⟩)
  constructor
  · intro e he
    rcases List.mem_append.mp he with he | he
    · exact h.positive e he
    · obtain rfl := List.mem_singleton.mp he
      exact Nat.succ_pos _
  · intro e he
    show e.sequence ≤ m.nextEventSequence + 1
    rcases List.mem_append.mp he with he | he
    · have := h.bound e he
      omega
    · obtain rfl := List.mem_singleton.mp he
      exact le_rfl
  · intro r hr
    show r.fenceSequence ≤ m.nextEventSequence + 1
    have := h.fence r hr
    omega
  · intro r hr hret
    rcases Keyed.mem_put.mp hr with rfl | ⟨hr, hne⟩
    · refine ⟨{ activationSequence := m.nextEventSequence + 1, entry, deactivated := none }, ?_,
        hb.symm, rfl⟩
      rw [hq]
      exact Keyed.find_put_self
    · obtain ⟨x, hx, hxb, hxd⟩ := h.active r hr hret
      refine ⟨x, ?_, hxb, hxd⟩
      have hmem := Keyed.mem_of_find hx
      have := Keyed.find_of_mem (keep x hmem)
      rwa [Keyed.key_find hx] at this
  · intro r hr hd
    rcases Keyed.mem_put.mp hr with rfl | ⟨hr, -⟩
    · refine ⟨row, ?_, ?_, hq⟩
      · rw [← hb]
        exact Keyed.find_put_self
      · exact hact
    · obtain ⟨a, ha, hret, hseq⟩ := h.standing r hr hd
      refine ⟨a, ?_, hret, hseq⟩
      rw [Keyed.find_put_ne]
      · exact ha
      · intro hk
        exact off r hr (hk.trans hb) hd
  · intro r hr
    rcases Keyed.mem_put.mp hr with rfl | ⟨hr, -⟩
    · exact List.mem_append_right _ (List.mem_singleton.mpr rfl)
    · exact List.mem_append_left _ (h.activated r hr)
  · intro r hr e he heb hlt
    rcases Keyed.mem_put.mp hr with rfl | ⟨hr, -⟩
    · rcases List.mem_append.mp he with he | he
      · have := h.bound e he
        simp only at hlt
        omega
      · obtain rfl := List.mem_singleton.mp he
        exact absurd hlt (lt_irrefl _)
    · rcases List.mem_append.mp he with he | he
      · exact h.followed r hr e he heb hlt
      · obtain rfl := List.mem_singleton.mp he
        obtain ⟨deactivated, hd⟩ := Option.ne_none_iff_exists'.mp (off r hr heb.symm)
        refine ⟨deactivated, hd, ?_⟩
        obtain ⟨-, e, he, -, hseq⟩ := h.retired r hr deactivated hd
        have := h.bound e he
        show deactivated.sequence ≤ m.nextEventSequence + 1
        omega
  · intro r hr deactivated hd
    rcases Keyed.mem_put.mp hr with rfl | ⟨hr, -⟩
    · cases hd
    · obtain ⟨hlt, e, he, hseq⟩ := h.retired r hr deactivated hd
      exact ⟨hlt, e, List.mem_append_left _ he, hseq⟩
  · intro sequence entry' he hlast
    rcases List.mem_append.mp he with he | he
    · obtain ⟨r, hr, hrm⟩ := h.latest sequence entry' he fun e he' =>
        hlast e (List.mem_append_left _ he')
      exact ⟨r, keep r hr, hrm⟩
    · cases List.mem_singleton.mp he
      exact ⟨_, Keyed.mem_put.mpr (.inl rfl), rfl⟩
  · intro r hr hbuild x hx
    have hf : r.fenceSequence < m.nextEventSequence + 1 := by
      have := h.fence r hr
      omega
    rw [live_append hf] at hx
    obtain ⟨y, hy, hym⟩ := h.held r hr hbuild x hx
    exact ⟨y, keep y hy, hym⟩

/-- the next event, for a bucket that is active -/
theorem retire (h : EventsOk s) {m : Metadata} {bucket : Bucket} {row : ActiveRow}
    {certificateHash : Hash} {nowMs : Nat} (hm : s.metadata = some m)
    (hrow : s.active.find bucket = some row) (hr : row.retired = none) :
    EventsOk { s with
      metadata := some { m with nextEventSequence := m.nextEventSequence + 1 }
      active := s.active.put
        { row with retired := some ⟨m.nextEventSequence + 1, certificateHash⟩ }
      history := s.history.modify row.activationSequence
        ({ · with deactivated := some ⟨m.nextEventSequence + 1, nowMs⟩ })
      events := s.events ++ [.retired (m.nextEventSequence + 1) bucket] } := by
  have hn : s.nextSequence = m.nextEventSequence := nextSequence_eq hm
  have hbucket : row.entry.bucket = bucket := by simpa using Keyed.key_find hrow
  obtain ⟨x, hx, hxb, hxd⟩ := h.active row (Keyed.mem_of_find hrow) hr
  have hxm := Keyed.mem_of_find hx
  have hxq : x.activationSequence = row.activationSequence := Keyed.key_find hx
  -- a row of the history is the one that is deactivated, or stays as it is
  have split : ∀ r', r' ∈ (s.history.modify row.activationSequence
      ({ · with deactivated := some ⟨m.nextEventSequence + 1, nowMs⟩ })).rows →
      r' = { x with deactivated := some ⟨m.nextEventSequence + 1, nowMs⟩ } ∨
        r' ∈ s.history.rows ∧ r'.activationSequence ≠ row.activationSequence := by
    intro r' hr'
    rcases (Keyed.mem_modify (by exact fun _ => rfl)).mp hr' with ⟨r, hr, hk, rfl⟩ | hr
    · have := Keyed.find_of_mem hr
      rw [hk, hx] at this
      cases this
      exact .inl rfl
    · exact .inr hr
  have keep : ∀ r ∈ s.history.rows, ∃ r' ∈ (s.history.modify row.activationSequence
      ({ · with deactivated := some ⟨m.nextEventSequence + 1, nowMs⟩ })).rows,
      r'.member = r.member := by
    intro r hr
    by_cases hk : r.activationSequence = row.activationSequence
    · exact ⟨_, (Keyed.mem_modify (by exact fun _ => rfl)).mpr (.inl ⟨r, hr, hk, rfl⟩), rfl⟩
    · exact ⟨r, (Keyed.mem_modify (by exact fun _ => rfl)).mpr (.inr ⟨hr, hk⟩), rfl⟩
  constructor
  · intro e he
    rcases List.mem_append.mp he with he | he
    · exact h.positive e he
    · obtain rfl := List.mem_singleton.mp he
      exact Nat.succ_pos _
  · intro e he
    show e.sequence ≤ m.nextEventSequence + 1
    rcases List.mem_append.mp he with he | he
    · have := h.bound e he
      omega
    · obtain rfl := List.mem_singleton.mp he
      exact le_rfl
  · intro r hr
    show r.fenceSequence ≤ m.nextEventSequence + 1
    have := h.fence r hr
    omega
  · intro a ha hret
    rcases Keyed.mem_put.mp ha with rfl | ⟨ha, hne⟩
    · cases hret
    · obtain ⟨y, hy, hyb, hyd⟩ := h.active a ha hret
      refine ⟨y, ?_, hyb, hyd⟩
      rw [Keyed.find_modify (by exact fun _ => rfl), if_neg]
      · exact hy
      · -- two active buckets have activations of their own
        intro hk
        rw [hk, hx] at hy
        cases hy
        exact hne (hyb.symm.trans (hxb.trans rfl))
  · intro r hr hd
    rcases split r hr with rfl | ⟨hr, hk⟩
    · cases hd
    · obtain ⟨a, ha, hret, hseq⟩ := h.standing r hr hd
      refine ⟨a, ?_, hret, hseq⟩
      rw [Keyed.find_put_ne]
      · exact ha
      · intro hb
        have hb : r.entry.bucket = bucket := hb.trans hbucket
        rw [hb, hrow] at ha
        cases ha
        exact hk hseq.symm
  · intro r hr
    rcases split r hr with rfl | ⟨hr, -⟩
    · exact List.mem_append_left _ (h.activated x hxm)
    · exact List.mem_append_left _ (h.activated r hr)
  · intro r hr e he heb hlt
    rcases split r hr with rfl | ⟨hr, hk⟩
    · rcases List.mem_append.mp he with he | he
      · obtain ⟨_, hd, -⟩ := h.followed x hxm e he heb hlt
        rw [hxd] at hd
        cases hd
      · obtain rfl := List.mem_singleton.mp he
        exact ⟨_, rfl, le_rfl⟩
    · rcases List.mem_append.mp he with he | he
      · exact h.followed r hr e he heb hlt
      · obtain rfl := List.mem_singleton.mp he
        cases hd : r.deactivated with
        | none =>
          obtain ⟨a, ha, -, hseq⟩ := h.standing r hr hd
          have heb : bucket = r.entry.bucket := heb
          rw [← heb, hrow] at ha
          cases ha
          exact absurd hseq.symm hk
        | some deactivated =>
          refine ⟨deactivated, rfl, ?_⟩
          obtain ⟨-, e, he, -, hseq⟩ := h.retired r hr deactivated hd
          have := h.bound e he
          show deactivated.sequence ≤ m.nextEventSequence + 1
          omega
  · intro r hr deactivated hd
    rcases split r hr with rfl | ⟨hr, -⟩
    · cases hd
      refine ⟨?_, _, List.mem_append_right _ (List.mem_singleton.mpr rfl), ?_, rfl⟩
      · show x.activationSequence < m.nextEventSequence + 1
        have := h.history_le hxm
        omega
      · exact (hxb.trans hbucket).symm
    · obtain ⟨hlt, e, he, hseq⟩ := h.retired r hr deactivated hd
      exact ⟨hlt, e, List.mem_append_left _ he, hseq⟩
  · intro sequence entry he hlast
    rcases List.mem_append.mp he with he | he
    · obtain ⟨r, hr, hrm⟩ := h.latest sequence entry he fun e he' =>
        hlast e (List.mem_append_left _ he')
      obtain ⟨r', hr', hm'⟩ := keep r hr
      exact ⟨r', hr', hm'.trans hrm⟩
    · cases List.mem_singleton.mp he
  · intro r hr hbuild y hy
    have hf : r.fenceSequence < m.nextEventSequence + 1 := by
      have := h.fence r hr
      omega
    rw [live_append hf] at hy
    obtain ⟨z, hz, hzm⟩ := h.held r hr hbuild y hy
    obtain ⟨z', hz', hm'⟩ := keep z hz
    exact ⟨z', hz', hm'.trans hzm⟩

/-- a new snapshot is fenced by all events, so that its members are the latest activations -/
theorem beginSnapshot (h : EventsOk s) {m : Metadata} {request : SnapshotRequest} {nowMs floor : Nat}
    (hm : s.metadata = some m) :
    EventsOk { s with
      metadata := some { m with
        decisionFloorMs := floor, currentSnapshotGeneration := m.currentSnapshotGeneration + 1 }
      snapshots := s.snapshots.put (newSnapshot request nowMs m)
      begun := s.begun ++ [newSnapshot request nowMs m] } := by
  have hn : s.nextSequence = m.nextEventSequence := nextSequence_eq hm
  have fence : ∀ row ∈ (s.snapshots.put (newSnapshot request nowMs m)).rows,
      row.fenceSequence ≤ m.nextEventSequence := by
    intro row hrow
    rcases Keyed.mem_put.mp hrow with rfl | ⟨hrow, -⟩
    · exact le_rfl
    · exact hn ▸ h.fence row hrow
  refine ⟨h.positive, ?_, fence, h.active, h.standing, h.activated, h.followed, h.retired, h.latest,
    ?_⟩
  · intro e he
    exact (h.bound e he).trans hn.le
  · intro row hrow hb x hx
    rcases Keyed.mem_put.mp hrow with rfl | ⟨hrow, -⟩
    · refine h.latest _ _ hx.1 fun e he heb => hx.2.2 e he heb ?_
      exact (h.bound e he).trans hn.le
    · exact h.held row hrow hb x hx

/-- a purge leaves what a snapshot that is being taken needs -/
theorem dropActivation (h : EventsOk s) {row : HistoryRow} {now : Nat} (hrow : row ∈ s.history.rows)
    (hs : staleActivation now s row) :
    EventsOk { s with history := s.history.erase row.activationSequence } := by
  obtain ⟨deactivated, hd, hneed⟩ : ∃ deactivated, row.deactivated = some deactivated ∧
      ∀ snapshot ∈ s.snapshots.rows, snapshot.isBuilding →
        row.activationSequence ≤ snapshot.fenceSequence →
          deactivated.sequence ≤ snapshot.fenceSequence := by
    unfold staleActivation at hs
    cases hd : row.deactivated with
    | none => simp [hd] at hs
    | some deactivated =>
      refine ⟨deactivated, rfl, fun snapshot hsn hb hle => ?_⟩
      simp only [hd, Bool.and_eq_true, Bool.not_eq_true', List.any_eq_false] at hs
      have hno := hs.2 snapshot hsn
      simp only [hb, hle, decide_eq_true_eq, true_and] at hno
      exact not_lt.mp hno
  obtain ⟨hlt, e, he, heb, hseq⟩ := h.retired row hrow deactivated hd
  have same : ∀ r ∈ s.history.rows, r.activationSequence = row.activationSequence → r = row := by
    intro r hr hk
    have := Keyed.find_of_mem hr
    rw [hk, Keyed.find_of_mem hrow] at this
    exact (Option.some.inj this).symm
  refine ⟨h.positive, h.bound, h.fence, ?_, ?_, ?_, ?_, ?_, ?_, ?_⟩
  · intro a ha hret
    obtain ⟨x, hx, hxb, hxd⟩ := h.active a ha hret
    refine ⟨x, ?_, hxb, hxd⟩
    rw [Keyed.find_erase_ne]
    · exact hx
    · intro hk
      rw [hk, Keyed.find_of_mem hrow] at hx
      cases hx
      rw [hd] at hxd
      cases hxd
  · exact fun r hr => h.standing r (Keyed.mem_erase.mp hr).1
  · exact fun r hr => h.activated r (Keyed.mem_erase.mp hr).1
  · exact fun r hr => h.followed r (Keyed.mem_erase.mp hr).1
  · exact fun r hr => h.retired r (Keyed.mem_erase.mp hr).1
  · intro sequence entry hin hlast
    obtain ⟨r, hr, hrm⟩ := h.latest sequence entry hin hlast
    refine ⟨r, Keyed.mem_erase.mpr ⟨hr, fun hk => ?_⟩, hrm⟩
    obtain rfl := same r hr hk
    obtain ⟨rfl, rfl⟩ := Member.mk.inj hrm
    have := hlast e he heb
    omega
  · intro snapshot hsn hb m hm
    obtain ⟨r, hr, rfl⟩ := h.held snapshot hsn hb m hm
    refine ⟨r, Keyed.mem_erase.mpr ⟨hr, fun hk => ?_⟩, rfl⟩
    obtain rfl := same r hr hk
    have := hm.2.2 e he heb (hseq ▸ hneed snapshot hsn hb hm.2.1)
    have hmem : r.member.activationSequence = r.activationSequence := rfl
    omega

theorem move (h : EventsOk s) (hm : Move L d s s') : EventsOk s' := by
  cases hm with
  | activate m row entry hmeta ho hb hq hr => exact h.activate hmeta ho hb hq hr
  | retire m bucket row certificateHash nowMs hmeta hrow hr => exact h.retire hmeta hrow hr
  | beginSnapshot m request nowMs hmeta => exact h.beginSnapshot hmeta
  | page current rows finalHash nowMs hfind hb =>
    refine h.congr ?_ rfl rfl rfl fun row' hrow' => ?_
    · cases hmeta : s.metadata <;> simp [Store.nextSequence, hmeta]
    · rcases Keyed.mem_put.mp hrow' with rfl | ⟨hrow', -⟩
      · exact ⟨current, Keyed.mem_of_find hfind, rfl, fun _ => hb⟩
      · exact ⟨row', hrow', rfl, id⟩
  | dropSnapshot generation m =>
    exact h.congr rfl rfl rfl rfl fun row' hrow' =>
      ⟨row', (Keyed.mem_erase.mp hrow').1, rfl, id⟩
  | dropActivation sequence now hs =>
    cases hfind : s.history.find sequence with
    | none =>
      rw [Keyed.erase_of_find_none hfind]
      exact h
    | some row =>
      have hrow := Keyed.mem_of_find hfind
      obtain rfl : row.activationSequence = sequence := Keyed.key_find hfind
      exact h.dropActivation hrow (hs row hfind)
  | create fleetId hash hnone =>
    refine h.congr ?_ rfl rfl rfl fun row hrow => ⟨row, hrow, rfl, id⟩
    simp [Store.nextSequence, hnone, Metadata.initial]
  | configRoot hash =>
    refine h.congr ?_ rfl rfl rfl fun row hrow => ⟨row, hrow, rfl, id⟩
    cases hmeta : s.metadata <;> simp [Store.nextSequence, hmeta]
  | assign txId m boundaryMs hmeta =>
    refine h.congr ?_ rfl rfl rfl fun row hrow => ⟨row, hrow, rfl, id⟩
    simp [Store.nextSequence, hmeta, Metadata.requireSince]
  | grid day m hmeta =>
    refine h.congr ?_ rfl rfl rfl fun row hrow => ⟨row, hrow, rfl, id⟩
    simp [Store.nextSequence, hmeta]
  | scanned day m first hmeta =>
    refine h.congr ?_ rfl rfl rfl fun row hrow => ⟨row, hrow, rfl, id⟩
    simp [Store.nextSequence, hmeta]
  | admitLegacy commitDecidedAtMs m hmeta =>
    refine h.congr ?_ rfl rfl rfl fun row hrow => ⟨row, hrow, rfl, id⟩
    simp [Store.nextSequence, admitThrough, hmeta]
  | _ => exact h.congr rfl rfl rfl rfl fun row hrow => ⟨row, hrow, rfl, id⟩

end EventsOk
end FleetCatalog
