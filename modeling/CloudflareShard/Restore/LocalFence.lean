import Mathlib.Logic.Function.Basic
import Mathlib.Tactic.Linarith
import CloudflareShard.Async.Only

/-!
# The restore row of a shard

A shard keeps one row about the restore that it takes part in.  `/restore-fence` installs and releases
the fence, the `/pitr-` calls arm a bookmark of the provider and restart the shard from it.  A control
call holds the barrier of the shard only up to its first await, so the calls come in at each other's
awaits.

* `RestoreState`, `FenceStore`              the row, and what the provider holds;
* `matchingRestoreFence`                    does the external authority hold the fence?
* `handleRestoreFence`                      install and release;
* `stagePitrBookmark`, `handlePitrApply`    a bookmark is armed, the session ends;
* `handlePitrRelease`                       the end of a restore;
* `localFence`                              all of them as an object.
-/

namespace LocalFence
open Async

abbrev Bookmark := String

structure FenceId where
  restoreId : String
  generation : Int
  deriving DecidableEq

/-- the row of `__cf_restore_state` -/
structure RestoreState where
  fence : FenceId
  phase : String
  targetBookmark : Option Bookmark
  undoBookmark : Option Bookmark
  closedThroughMs : Option Nat
  closedThroughBookmark : Option Bookmark
  deriving DecidableEq

/-- a release that succeeded; `staged` says that a bookmark had been armed since the fence was
installed -/
structure Release where
  fence : FenceId
  staged : Bool
  deriving DecidableEq

/-- The next session starts from the bookmark `armed`; `history` has the row as it was at each
bookmark.  Under the fences of `staged` a bookmark has been armed, and something else than
`/restore-fence` took the row of the fences of `removed` away.  `reinstalls` has the rows that an
install found next to what it made of them. -/
structure FenceStore where
  restoreState : Option RestoreState
  armed : Option Bookmark
  history : Bookmark → Option RestoreState
  now : Nat
  staged : List FenceId
  removed : List FenceId
  releases : List Release
  reinstalls : List (RestoreState × RestoreState)

/-! ## questions -/

structure GateSnapshot where
  fenced : Bool
  restoreId : Option String
  generation : Int
  phase : Option String
  deriving DecidableEq

inductive GateReply where
  | unconfigured
  | failed
  | snapshot (gate : GateSnapshot)
  deriving DecidableEq

inductive BookmarkUse where
  | preFence
  | closedThrough
  deriving DecidableEq

/-- the provider may arm the bookmark and fail to say so -/
structure Arming where
  armed : Bool
  undoBookmark : Option Bookmark
  deriving DecidableEq

inductive Ask where
  | restoreGateSnapshot (fence : FenceId)
  | getCurrentBookmark (use : BookmarkUse)
  | stageRestoreBookmark (fence : FenceId) (target : Bookmark)

def Ask.Answer : Ask → Type
  | restoreGateSnapshot _ => GateReply
  | getCurrentBookmark _ => Option Bookmark
  | stageRestoreBookmark _ _ => Arming

/-! ## replies -/

structure Refusal where
  status : Nat
  code : Option String
  message : String
  deriving DecidableEq

/-- a refusal, or an error of the provider that nothing catches -/
inductive Failure where
  | refused (refusal : Refusal)
  | provider
  deriving DecidableEq

inductive Reply where
  | released (fence : FenceId)
  | installed (fence : FenceId) (preFenceBookmark : Bookmark) (closedThroughMs : Nat)
      (closedThroughBookmark : Bookmark)
  | staged (fence : FenceId) (targetBookmark : Bookmark) (undoBookmark : Option Bookmark)
      (idempotent rearmed : Bool)
  | pitrReleased (fence : FenceId)
  deriving DecidableEq

abbrev Sh := Prog FenceStore Ask Ask.Answer Failure

def refuse {α : Type} (status : Nat) (code : String) (message : String) : Sh α :=
  .throw (.refused { status, code := some code, message })

def restoreGateUnavailable {α : Type}
    (message : String := "The fleet restore gate is unavailable; writes are denied.") : Sh α :=
  refuse 503 "RESTORE_GATE_UNAVAILABLE" message

def badRequest {α : Type} (message : String) : Sh α :=
  .throw (.refused { status := 400, code := none, message })

def fenceConflict {α : Type} : Sh α :=
  refuse 409 "RESTORE_FENCE_CONFLICT" "A different restore generation is already recorded locally."

def gets {α : Type} (f : FenceStore → α) : Sh α := .step id fun s => .pure (f s)

def getCurrentBookmark (use : BookmarkUse) : Sh Bookmark :=
  .call (.getCurrentBookmark use) fun
    | some bookmark => .pure bookmark
    | none => .throw .provider

/-! ## the fence -/

structure ControlBody where
  restoreId : Option String
  generation : Option Int
  action : Option String
  targetBookmark : Option Bookmark
  deriving DecidableEq

/-- `||` and the truth of a text -/
def nonempty (text : Option String) : Option String := text.filter (· ≠ "")

def isSafeInteger (n : Int) : Bool := n.natAbs ≤ 2 ^ 53 - 1

def ControlBody.fence (body : ControlBody) : Option FenceId :=
  match nonempty body.restoreId, body.generation with
  | some restoreId, some generation =>
    if isSafeInteger generation && 1 ≤ generation then some { restoreId, generation } else none
  | _, _ => none

/-- does the authority hold the fence? -/
def GateSnapshot.holds (gate : GateSnapshot) (fence : FenceId) : Bool :=
  gate.fenced && gate.restoreId == some fence.restoreId && gate.generation == fence.generation

/-- asks the external authority about a fence -/
def askGate (fence : FenceId) : Sh GateSnapshot :=
  .call (.restoreGateSnapshot fence) fun
    | .unconfigured =>
      restoreGateUnavailable "RESTORE_COORDINATOR is not configured for restore control operations."
    | .failed => restoreGateUnavailable
    | .snapshot gate =>
      if gate.holds fence then .pure gate
      else
        refuse 409 "RESTORE_FENCE_MISMATCH"
          "External restore authority does not hold the requested fence."

def matchingRestoreFence (body : ControlBody) : Sh (FenceId × GateSnapshot) :=
  match body.fence with
  | some fence => do return (fence, ← askGate fence)
  | none => badRequest "Missing/invalid restoreId or generation."

/-- does the row belong to another fence? -/
def conflicts (existing : Option RestoreState) (fence : FenceId) : Bool :=
  existing.any (·.fence ≠ fence)

/-- the fence of a row that goes away -/
def fenceOf (row : Option RestoreState) : List FenceId := (row.map (·.fence)).toList

/-- `INSERT OR REPLACE` of some of the columns -/
def writeRestoreState (fence : FenceId) (phase : String) (targetBookmark undoBookmark : Option Bookmark)
    (s : FenceStore) : FenceStore :=
  { s with
    restoreState := some { fence, phase, targetBookmark, undoBookmark
                           closedThroughMs := none, closedThroughBookmark := none }
    removed := s.removed ++ (fenceOf s.restoreState).filter (· ≠ fence) }

/-- the second write of an install -/
def closeThrough (bookmark : Bookmark) (s : FenceStore) : FenceStore :=
  { s with
    restoreState := s.restoreState.map fun row =>
      { row with closedThroughMs := some s.now, closedThroughBookmark := some bookmark } }

/-- a write of an install, recorded -/
def installing (write : FenceStore → FenceStore) (s : FenceStore) : FenceStore :=
  { write s with
    reinstalls := s.reinstalls ++
      (s.restoreState.bind fun row => (write s).restoreState.map (row, ·)).toList }

def recordRelease (fence : FenceId) (s : FenceStore) : FenceStore :=
  { s with
    restoreState := none
    releases := s.releases ++ [{ fence, staged := s.staged.contains fence }] }

def isReleasable (phase : String) : Bool := phase = "fenced" || phase = "install"

def handleRestoreFence (body : ControlBody) : Sh Reply := do
  let (fence, _) ← matchingRestoreFence body
  let existing ← gets (·.restoreState)
  if conflicts existing fence then fenceConflict
  else if body.action = some "release" then
    if existing.any (!isReleasable ·.phase) then
      refuse 409 "RESTORE_RELEASE_REQUIRES_PITR_RELEASE"
        "PITR staging has begun; use /pitr-release after verification."
    else
      .modify (recordRelease fence)
      return .released fence
  else
    let preFenceBookmark ← getCurrentBookmark .preFence
    .modify (installing (writeRestoreState fence ((nonempty body.action).getD "fenced")
      (existing.bind (·.targetBookmark)) (existing.bind (·.undoBookmark))))
    let closedThroughBookmark ← getCurrentBookmark .closedThrough
    let closedThroughMs ← gets (·.now)
    .modify (installing (closeThrough closedThroughBookmark))
    return .installed fence preFenceBookmark closedThroughMs closedThroughBookmark

/-! ## staging -/

inductive Staging where
  | forward
  | undo
  deriving DecidableEq

def Staging.phase : Staging → String
  | forward => "staging"
  | undo => "undo-staging"

def Staging.completedPhase : Staging → String
  | forward => "staged"
  | undo => "undo-staged"

def Staging.allowedExternalPhase : Staging → String
  | forward => "restoring"
  | undo => "rolling_back"

/-- the target of the row may not be replaced by another one -/
def targetConflicts (staging : Staging) (existing : Option RestoreState) (target : Bookmark) : Bool :=
  (staging = .forward || existing.any fun row =>
      row.phase = "undo-staging" || row.phase = "undo-staged") &&
    existing.any fun row => (nonempty row.targetBookmark).any (· ≠ target)

def alreadyStaged (staging : Staging) (target : Bookmark) (row : RestoreState) : Bool :=
  row.phase = staging.completedPhase || (row.phase = "applying" && row.targetBookmark = some target)

/-- the provider has, or has not, armed the bookmark -/
def recordArming (fence : FenceId) (target : Bookmark) (armed : Bool) (s : FenceStore) : FenceStore :=
  if armed then { s with armed := some target, staged := s.staged ++ [fence] } else s

/-- writes the phase, arms the bookmark and asks the authority again -/
def arm (staging : Staging) (body : ControlBody) (fence : FenceId) (target : Bookmark)
    (existing : Option RestoreState) : Sh Reply := do
  .modify (writeRestoreState fence staging.phase (some target) (existing.bind (·.undoBookmark)))
  .call (.stageRestoreBookmark fence target) fun arming : Arming => do
    .modify (recordArming fence target arming.armed)
    match arming.undoBookmark with
    | none => .throw .provider
    | some undoBookmark =>
      let _ ← matchingRestoreFence body
      .modify (writeRestoreState fence staging.completedPhase (some target) (some undoBookmark))
      return .staged fence target (some undoBookmark) false (existing.any (·.phase = staging.phase))

def stagePitrBookmark (staging : Staging) (body : ControlBody) : Sh Reply := do
  let (fence, gate) ← matchingRestoreFence body
  match nonempty body.targetBookmark with
  | none => badRequest "Missing target_bookmark."
  | some target =>
    let existing ← gets (·.restoreState)
    if conflicts existing fence then fenceConflict
    else if targetConflicts staging existing target then
      refuse 409 "RESTORE_TARGET_CONFLICT"
        "A different target is already staged for this restore generation."
    else
      match existing.filter (alreadyStaged staging target) with
      | some row => return .staged fence target row.undoBookmark true false
      | none =>
        if existing.all (·.phase = staging.phase) &&
            (nonempty gate.phase).any (· ≠ staging.allowedExternalPhase) then
          refuse 409 "RESTORE_STAGE_PHASE_INVALID"
            "External restore phase does not permit arming this bookmark."
        else arm staging body fence target existing

def handlePitrStage (body : ControlBody) : Sh Reply := stagePitrBookmark .forward body

def handlePitrUndo (body : ControlBody) : Sh Reply := do
  let state ← gets (·.restoreState)
  let target := (nonempty body.targetBookmark).orElse fun _ => state.bind (·.undoBookmark)
  stagePitrBookmark .undo { body with targetBookmark := target }

/-- the session ends when the bookmark is applied, and the handler with it -/
def handlePitrApply (body : ControlBody) : Sh Reply := do
  let (fence, _) ← matchingRestoreFence body
  let state ← gets (·.restoreState)
  match state.filter fun row =>
      row.fence = fence ∧ (row.phase = "staged" ∨ row.phase = "undo-staged") with
  | none =>
    refuse 409 "RESTORE_NOT_STAGED" "No staged bookmark exists for this restore generation."
  | some row =>
    .modify (writeRestoreState row.fence "applying" row.targetBookmark row.undoBookmark)
    .stuck

/-- the row goes away, whatever it says -/
def removeRestoreState (s : FenceStore) : FenceStore :=
  { s with restoreState := none, removed := s.removed ++ fenceOf s.restoreState }

def handlePitrRelease (body : ControlBody) : Sh Reply := do
  let (fence, _) ← matchingRestoreFence body
  .modify removeRestoreState
  return .pitrReleased fence

/-! ## the object -/

inductive ControlRequest where
  | restoreFence (body : ControlBody)
  | pitrStage (body : ControlBody)
  | pitrUndo (body : ControlBody)
  | pitrApply (body : ControlBody)
  | pitrRelease (body : ControlBody)
  deriving DecidableEq

def ControlRequest.handle : ControlRequest → Sh Reply
  | restoreFence body => handleRestoreFence body
  | pitrStage body => handlePitrStage body
  | pitrUndo body => handlePitrUndo body
  | pitrApply body => handlePitrApply body
  | pitrRelease body => handlePitrRelease body

inductive Outside where
  | tick (ms : Nat)
  /-- the provider gives the present state a bookmark -/
  | bookmarked (bookmark : Bookmark)
  deriving DecidableEq

def Outside.apply : Outside → FenceStore → FenceStore
  | tick ms, s => { s with now := s.now + ms }
  | bookmarked bookmark, s =>
    { s with history := Function.update s.history bookmark s.restoreState }

/-- a new session starts from the bookmark that is armed -/
def FenceStore.restart (s : FenceStore) : FenceStore :=
  match s.armed with
  | none => s
  | some bookmark =>
    { removeRestoreState s with restoreState := s.history bookmark, armed := none }

def localFence : System FenceStore Ask Ask.Answer Failure Reply ControlRequest Outside where
  handler := ControlRequest.handle
  answers _ _ := true
  event := Outside.apply
  restart := FenceStore.restart

end LocalFence
