import CloudflareShard.Async.Moves
import CloudflareShard.Sqlite.Cover
import CloudflareShard.ControlPlane.CatalogCloses

/-!
# What one section of the fleet catalog can do

* `Member`, `live`       an activation, and those that stand at a fence;
* `Listed`               a list of the members behind a cursor, up to another;
* `SnapshotRow.Of`, `certifiedHash`   what a snapshot keeps from its creation, and what it certifies;
* `Move`, `Section`      the changes that the statements make, and rows of them.
-/

namespace FleetCatalog
open Async Contracts Keyset

/-! ## members -/

/-- an activation of a bucket -/
structure Member where
  activationSequence : Nat
  entry : Entry

def HistoryRow.member (row : HistoryRow) : Member := ⟨row.activationSequence, row.entry⟩

def SnapshotEntryRow.member (row : SnapshotEntryRow) : Member := ⟨row.activationSequence, row.entry⟩

def BucketEvent.sequence : BucketEvent → Nat
  | .activated sequence _ => sequence
  | .retired sequence _ => sequence

def BucketEvent.bucket : BucketEvent → Bucket
  | .activated _ entry => entry.bucket
  | .retired _ bucket => bucket

/-- the activations that no later event of their bucket up to the fence follows -/
def live (events : List BucketEvent) (fence : Nat) : Set Member :=
  {m | .activated m.activationSequence m.entry ∈ events ∧ m.activationSequence ≤ fence ∧
    ∀ e ∈ events, e.bucket = m.entry.bucket → e.sequence ≤ fence →
      e.sequence ≤ m.activationSequence}

/-- what happens behind the fence does not count -/
theorem live_append {events : List BucketEvent} {fence : Nat} {e : BucketEvent}
    (h : fence < e.sequence) : live (events ++ [e]) fence = live events fence := by
  ext m
  have old : ∀ e' ∈ events ++ [e], e'.sequence ≤ fence → e' ∈ events := by
    intro e' he' hle
    rcases List.mem_append.mp he' with he' | he'
    · exact he'
    · obtain rfl := List.mem_singleton.mp he'
      omega
  constructor
  · rintro ⟨hm, hle, hlast⟩
    exact ⟨old _ hm hle, hle, fun e' he' => hlast e' (List.mem_append_left _ he')⟩
  · rintro ⟨hm, hle, hlast⟩
    exact ⟨List.mem_append_left _ hm, hle, fun e' he' hb hf => hlast e' (old e' he' hf) hb hf⟩

/-- `l` are the members behind `lo` up to `hi`, in the order of their activation -/
abbrev Listed (events : List BucketEvent) (fence : Nat) (lo : Nat) (l : List Member) (hi : Nat) :
    Prop :=
  Covers Member.activationSequence (fun _ => True) (live events fence) (WithBot.some lo) l
    (WithBot.some hi)

/-- a list of all members -/
abbrev All (events : List BucketEvent) (fence : Nat) (l : List Member) : Prop :=
  Listed events fence 0 l fence

/-- where a page that was read behind `cursor` ends -/
def pageEnd (cursor : Nat) (l : List Member) : Nat :=
  (l.getLast?.map (·.activationSequence)).getD cursor

theorem reached_eq (cursor : Nat) (l : List Member) :
    reached (WithBot.some cursor) l Member.activationSequence = WithBot.some (pageEnd cursor l) := by
  unfold reached pageEnd
  cases l.getLast? <;> rfl

/-! ## snapshots -/

/-- the snapshot as it was created -/
structure SnapshotRow.Of (row created : SnapshotRow) : Prop where
  generation : row.generation = created.generation
  cutoffMs : row.cutoffMs = created.cutoffMs
  decisionFloorMs : row.decisionFloorMs = created.decisionFloorMs
  fenceSequence : row.fenceSequence = created.fenceSequence
  partitionConfigRootHash : row.partitionConfigRootHash = created.partitionConfigRootHash
  priorSnapshotHash : row.priorSnapshotHash = created.priorSnapshotHash

theorem SnapshotRow.Of.refl {row : SnapshotRow} : row.Of row := ⟨rfl, rfl, rfl, rfl, rfl, rfl⟩

theorem SnapshotRow.Of.document {row created : SnapshotRow} (h : row.Of created) (count : Nat)
    (root : Hash) : snapshotDocument row count root = snapshotDocument created count root := by
  obtain ⟨h₁, h₂, h₃, h₄, h₅, h₆⟩ := h
  simp only [snapshotDocument, h₁, h₂, h₃, h₄, h₅, h₆]

variable (L : CatalogLib)

def rollMembers (root : Hash) (l : List Member) : Hash :=
  rollEntries L root (l.map (·.entry.entryHash))

theorem rollMembers_append (root : Hash) (l l' : List Member) :
    rollMembers L root (l ++ l') = rollMembers L (rollMembers L root l) l' := by
  rw [rollMembers, List.map_append, rollEntries, List.foldl_append]
  rfl

/-- what a snapshot certifies when its members are `l` -/
def certifiedHash (created : SnapshotRow) (l : List Member) : Hash :=
  L.hash (.snapshot (snapshotDocument created l.length (rollMembers L zeroHash l)))

/-- a close is about a snapshot that was taken: its cutoff, its hash and the number of its members -/
structure CloseRow.About (s : Store) (row : CloseRow) (created : SnapshotRow) (all : List Member) :
    Prop where
  begun : created ∈ s.begun
  generation : row.snapshotGeneration = created.generation
  cutoffMs : row.cutoffMs = created.cutoffMs
  members : All s.events created.fenceSequence all
  totalEntries : row.totalEntries = all.length
  hash : row.snapshotHash = certifiedHash L created all

/-! ## moves -/

/-- what a run promises beyond the code: nothing, or that closes are not exchanged under a digest -/
structure Regime where
  careful : Bool

/-- the boundary from which reservations are required, once it is set -/
def Metadata.requireSince (boundaryMs : Nat) (m : Metadata) : Metadata :=
  { m with
    reservationRequiredSinceDay := some (m.reservationRequiredSinceDay.getD (dayOf boundaryMs))
    reservationRequiredSinceMs := some (m.reservationRequiredSinceMs.getD boundaryMs) }

/-- a day whose partitions all have exact receipts of one complete close -/
def Store.dayCertified (s : Store) (day : Day) : Prop :=
  ∃ config close, s.configFor day = .ok config ∧ close ∈ s.closes.rows ∧
    close.fleetRootHash.isSome ∧ day ≤ dayOf close.cutoffMs ∧
    s.certified close day config = config.partitionCount

/-- one change of the storage; the arguments say when the code makes it -/
inductive Move (d : Regime) (s : Store) : Store → Prop where
  | unseen (configs activationKeys alarmSchedule assignments cursors physicalAlarm now) :
      Move d s { s with configs, activationKeys, alarmSchedule, assignments, cursors, physicalAlarm
                        now }
  | create (fleetId hash) (h : s.metadata = none) :
      Move d s { s with metadata := some (Metadata.initial fleetId hash) }
  | configRoot (hash) :
      Move d s { s with metadata := s.metadata.map ({ · with partitionConfigRootHash := hash }) }
  | assign (txId m boundaryMs) (h : s.metadata = some m)
      (hb : m.legacyAdmittedThroughMs < (boundaryMs : Nat)) :
      Move d s { s with
        metadata := some (m.requireSince boundaryMs), assigned := s.assigned ++ [txId] }
  | grid (day m) (h : s.metadata = some m) :
      Move d s { s with metadata := some { m with legacyGridMaterializedThroughDay := some day } }
  | scanned (day m first) (h : s.metadata = some m)
      (hs : m.reservationRequiredSinceDay = some first)
      (hd : day = nextDay m.legacyScannedThroughDay first) (hc : s.dayCertified day) :
      Move d s { s with metadata := some { m with legacyScannedThroughDay := some day } }
  | admitLegacy (commitDecidedAtMs m) (h : s.metadata = some m)
      (ho : m.reservationRequiredSinceDay = none) :
      Move d s (admitThrough commitDecidedAtMs s)
  | activate (m : Metadata) (row : ActiveRow) (entry : Entry) (h : s.metadata = some m)
      (ho : ∀ old, s.active.find entry.bucket = some old → old.retired.isSome)
      (hb : row.entry.bucket = entry.bucket)
      (hq : row.activationSequence = m.nextEventSequence + 1) (hr : row.retired = none) :
      Move d s { s with
        metadata := some { m with nextEventSequence := m.nextEventSequence + 1 }
        active := s.active.put row
        history := s.history.put
          { activationSequence := m.nextEventSequence + 1, entry, deactivated := none }
        events := s.events ++ [.activated (m.nextEventSequence + 1) entry] }
  | answer (m bucket) (h : s.metadata = some m) :
      Move d s { s with
        floors := s.floors ++
          [{ bucket, requiredDecisionFloorMs := m.requiredDecisionFloorMs
             snapshotGeneration := m.currentSnapshotGeneration }] }
  | retire (m bucket row certificateHash nowMs) (h : s.metadata = some m)
      (hrow : s.active.find bucket = some row) (hr : row.retired = none) :
      Move d s { s with
        metadata := some { m with nextEventSequence := m.nextEventSequence + 1 }
        active := s.active.put
          { row with retired := some ⟨m.nextEventSequence + 1, certificateHash⟩ }
        history := s.history.modify row.activationSequence
          ({ · with deactivated := some ⟨m.nextEventSequence + 1, nowMs⟩ })
        events := s.events ++ [.retired (m.nextEventSequence + 1) bucket] }
  | beginSnapshot (m request nowMs) (h : s.metadata = some m)
      (hb : ∀ row ∈ s.snapshots.rows, row.isBuilding = false) :
      Move d s { s with
        metadata := some { m with
          decisionFloorMs := (newSnapshot request nowMs m).decisionFloorMs
          currentSnapshotGeneration := m.currentSnapshotGeneration + 1 }
        snapshots := s.snapshots.put (newSnapshot request nowMs m)
        begun := s.begun ++ [newSnapshot request nowMs m] }
  | page (current : SnapshotRow) (rows : List HistoryRow) (finalHash : Option Hash) (nowMs : Nat)
      (h : s.snapshots.find current.generation = some current) (hb : current.isBuilding)
      (hc : Listed s.events current.fenceSequence current.cursorSequence (rows.map (·.member))
        (pageEnd current.cursorSequence (rows.map (·.member))))
      (hf : ∀ hash, finalHash = some hash →
        hash = L.hash (.snapshot (snapshotDocument current (current.entryCount + rows.length)
          (rollMembers L current.rollingHash (rows.map (·.member))))) ∧
        ∀ m ∈ live s.events current.fenceSequence,
          m.activationSequence ≤ pageEnd current.cursorSequence (rows.map (·.member))) :
      Move d s { s with
        entries := s.entries.insertAll (rows.map (HistoryRow.entryOf current.generation))
        snapshots := s.snapshots.put
          { current with
            cursorSequence := pageEnd current.cursorSequence (rows.map (·.member))
            entryCount := current.entryCount + rows.length
            rollingHash := rollMembers L current.rollingHash (rows.map (·.member))
            status := finalHash.elim .building fun hash => .complete hash nowMs }
        metadata := s.metadata.map fun m =>
          { m with lastSnapshotHash := finalHash.getD m.lastSnapshotHash } }
  | beginClose (row : CloseRow) (created all) (hn : s.closes.find row.closeKey = none)
      (ha : row.About L s created all)
      (hs : ∀ r ∈ s.snapshots.rows, r.generation = row.snapshotGeneration → r.isBuilding = false)
      (hp : row.isPending) (h₁ : row.progressCursorSequence = 0) (h₂ : row.completedEntries = 0) :
      Move d s { s with closes := s.closes.put row }
  | materialize (current seen : CloseRow) (rows : List SnapshotEntryRow) (nowMs)
      (h : s.closes.find current.closeKey = some current)
      (hk : seen.closeKey = current.closeKey)
      (hc : d.careful → ∀ created ∈ s.begun, created.generation = current.snapshotGeneration →
        Listed s.events created.fenceSequence current.progressCursorSequence (rows.map (·.member))
          (pageEnd current.progressCursorSequence (rows.map (·.member)))) :
      Move d s { s with
        progress := s.progress.insertAll (rows.map (·.progressOf L seen))
        closes := s.closes.put
          { current with
            progressCursorSequence := pageEnd current.progressCursorSequence (rows.map (·.member))
            updatedAtMs := nowMs } }
  | receipt (p : ProgressRow) (receipt nowMs) (h : p ∈ s.progress.rows)
      (hn : p.exactReceiptHash = none) :
      Move d s { s with
        progress := s.progress.put { p with exactReceiptHash := some receipt }
        closes := s.closes.modify p.closeKey fun row =>
          { row with completedEntries := row.completedEntries + 1, updatedAtMs := nowMs } }
  | complete (current : CloseRow) (root nowMs)
      (h : s.closes.find current.closeKey = some current) (hp : current.isPending)
      (hc : (s.progress.count fun p => p.closeKey == current.closeKey && p.exactReceiptHash.isSome) =
        current.totalEntries)
      (hr : d.careful →
        root = L.hash (.fleetRoot (fleetRoot current (s.receipts current.closeKey)))) :
      Move d s { s with
        closes := s.closes.put { current with status := .complete root, updatedAtMs := nowMs } }
  | dropClose (key : Hash) :
      Move d s { s with
        progress := s.progress.deleteWhere (·.closeKey == key), closes := s.closes.erase key }
  | dropSnapshot (generation : Nat) (m) (h : s.metadata = some m)
      (hg : generation < m.currentSnapshotGeneration)
      (hn : ∀ close ∈ s.closes.rows, close.snapshotGeneration ≠ generation) :
      Move d s { s with
        entries := s.entries.deleteWhere (·.generation == generation)
        snapshots := s.snapshots.erase generation }
  | dropActivation (sequence now)
      (h : ∀ row, s.history.find sequence = some row → staleActivation now s row) :
      Move d s { s with history := s.history.erase sequence }

/-- a section makes moves in a row -/
def Section (d : Regime) : Store → Store → Prop := Relation.ReflTransGen (Move L d)

end FleetCatalog
