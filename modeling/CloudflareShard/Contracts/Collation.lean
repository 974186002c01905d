import Mathlib.Algebra.BigOperators.Group.List.Basic
import CloudflareShard.Contracts.Envelope

/-!
# Two orders of participants

The producer sorts participants with `localeCompare`, the validator wants code units to grow.

* `inOneOrder`, `notBoth`          two elements of a list without repetitions;
* `Collator.ofKey`, `rootCollator` a collation by weights, and the root locale on ASCII texts;
* `Agrees`                         both orders are one on the ids of a request;
* `producer_order_accepted_iff`    **then, and only then, the envelope of the producer is accepted**.
-/

namespace Redo
open Contracts Json

/-! ## pairs of a list -/

/-- of two elements one stands before the other -/
theorem inOneOrder {α : Type} {a b : α} (hne : a ≠ b) :
    ∀ {l : List α}, a ∈ l → b ∈ l → [a, b].Sublist l ∨ [b, a].Sublist l
  | c :: l, ha, hb => by
    rw [List.cons_sublist_cons', List.cons_sublist_cons', List.singleton_sublist, List.singleton_sublist]
    rcases List.mem_cons.mp ha with hac | hal
    · exact .inl (.inr ⟨hac, (List.mem_cons.mp hb).resolve_left fun hbc => hne (hac.trans hbc.symm)⟩)
    rcases List.mem_cons.mp hb with hbc | hbl
    · exact .inr (.inr ⟨hbc, hal⟩)
    exact (inOneOrder hne hal hbl).imp .inl .inl

theorem notBoth {α : Type} {a b : α} :
    ∀ {l : List α}, l.Nodup → [a, b].Sublist l → ¬ [b, a].Sublist l
  | [], _, h, _ => by simp at h
  | c :: l, hn, h, h' => by
    obtain ⟨hc, hn⟩ := List.nodup_cons.mp hn
    rw [List.cons_sublist_cons', List.singleton_sublist] at h h'
    rcases h with h | ⟨rfl, hb⟩
    · rcases h' with h' | ⟨rfl, -⟩
      · exact notBoth hn h h'
      · exact hc (h.subset (by simp))
    · rcases h' with h' | ⟨rfl, -⟩
      · exact hc (h'.subset (by simp))
      · exact hc hb

/-! ## collations -/

namespace Collator
variable (C : Collator)

theorem le_total (a b : JsString) : C.le a b || C.le b a := by
  unfold le
  rw [C.swap a b]
  cases C.localeCompare a b <;> rfl

theorem le_trans (a b c : JsString) (h : C.le a b) (h' : C.le b c) : C.le a c := by
  unfold le at *
  simpa using C.trans a b c (by simpa using h) (by simpa using h')

end Collator

section
variable {sha256Hex : JsString → Hash}

theorem sorted_le (C : Collator) (ps : List BeginParticipant) :
    (sortParticipants C ps).Pairwise fun a b => C.le a.shardId b.shardId :=
  List.pairwise_mergeSort (fun a b c => C.le_trans a.shardId b.shardId c.shardId)
    (fun a b => C.le_total a.shardId b.shardId) ps

theorem sort_perm (C : Collator) (ps : List BeginParticipant) : (sortParticipants C ps).Perm ps :=
  List.mergeSort_perm ps _

theorem sort_sort (C : Collator) (ps : List BeginParticipant) :
    sortParticipants C (sortParticipants C ps) = sortParticipants C ps :=
  List.mergeSort_of_pairwise (sorted_le C ps)

end

/-- strings are compared by their weights -/
def Collator.ofKey (key : JsString → JsString) : Collator where
  localeCompare a b :=
    if codeUnitLt (key a) (key b) then .lt else if codeUnitLt (key b) (key a) then .gt else .eq
  swap a b := by
    cases h : codeUnitLt (key a) (key b) with
    | false => cases codeUnitLt (key b) (key a) <;> rfl
    | true =>
      have h' : ¬ codeUnitLt (key b) (key a) = true := fun h' => by
        have := codeUnitLt_trans h h'
        simp [codeUnitLt_irrefl] at this
      simp [h']
  trans a b c hab hbc := by
    have up : ∀ {x y : JsString}, (if codeUnitLt (key x) (key y) then Ordering.lt
        else if codeUnitLt (key y) (key x) then .gt else .eq) ≠ .gt →
        codeUnitLt (key x) (key y) ∨ key x = key y := by
      intro x y h
      by_cases hlt : codeUnitLt (key x) (key y)
      · exact .inl hlt
      · refine .inr (Decidable.byContradiction fun hne => ?_)
        have hgt := (codeUnitLt_total hne).resolve_left hlt
        simp [hlt, hgt] at h
    rcases up hab with hab | hab
    · have hac : codeUnitLt (key a) (key c) := by
        rcases up hbc with hbc | hbc
        · exact codeUnitLt_trans hab hbc
        · exact hbc ▸ hab
      simp [hac]
    · rw [hab]
      exact hbc

/-- the ASCII characters that are not ignored, as the root locale orders them -/
def rootOrder : JsString :=
  utf16 ("\t\n\x0b\x0c\r _-,;:!?.'\"()[]\x7b\x7d@*/\\&#%" ++ "\x60^+<=>|~$0123456789"
    ++ "abcdefghijklmnopqrstuvwxyz")

def isUpper (c : CodeUnit) : Bool := 65 ≤ c.val && c.val ≤ 90

/-- letters of both cases have one weight -/
def primaryWeight (c : CodeUnit) : Option CodeUnit :=
  if 128 ≤ c.val then some c
  else (rootOrder.idxOf? (if isUpper c then c + 32 else c)).map fun i => codeUnit (i + 1)

def caseWeight (c : CodeUnit) : CodeUnit := if isUpper c then 2 else 1

/-- the root locale on ASCII texts: all characters first, then their cases -/
def rootCollator : Collator :=
  .ofKey fun s => s.filterMap primaryWeight
    ++ 0 :: (s.filter fun c => (primaryWeight c).isSome).map caseWeight

example : rootCollator.localeCompare (utf16 "a") (utf16 "B") = .lt := by decide +kernel

/-! ## the order that is accepted -/

section
variable (C : Collator)

/-- the ids `a` and `b`, which came in this order, are put in the order of their code units; the
producer leaves them as they came where the collation does not tell them apart -/
def agreesOn (a b : JsString) : Bool :=
  match C.localeCompare a b with
  | .gt => codeUnitLt b a
  | _ => codeUnitLt a b

def Agrees (participants : List BeginParticipant) : Prop :=
  participants.Pairwise fun a b => agreesOn C a.shardId b.shardId

instance (participants : List BeginParticipant) : Decidable (Agrees C participants) :=
  inferInstanceAs (Decidable (participants.Pairwise _))

variable {C} {ps : List BeginParticipant}

theorem Collator.le_iff {a b : JsString} : C.le a b ↔ C.localeCompare a b ≠ .gt := by
  unfold Collator.le
  simp

theorem Collator.le_of_gt {a b : JsString} (h : C.localeCompare a b = .gt) : C.le b a := by
  rw [Collator.le_iff, C.swap, h]
  decide

/-- the sorting is stable -/
theorem sort_sublist {a b : BeginParticipant} (hle : C.le a.shardId b.shardId)
    (h : [a, b].Sublist ps) : [a, b].Sublist (sortParticipants C ps) :=
  List.pair_sublist_mergeSort (fun a b c => C.le_trans a.shardId b.shardId c.shardId)
    (fun a b => C.le_total a.shardId b.shardId) hle h

theorem sorted_pairwise_iff (hids : (ps.map (·.shardId)).Nodup) :
    ((sortParticipants C ps).map (·.shardId)).Pairwise (codeUnitLt · ·) ↔ Agrees C ps := by
  have hnodup : ps.Nodup := List.Nodup.of_map _ hids
  have hsorted : ∀ {a b}, [a, b].Sublist (sortParticipants C ps) → C.le a.shardId b.shardId :=
    List.pairwise_iff_forall_sublist.mp (sorted_le C ps)
  have hmem : ∀ {p}, p ∈ sortParticipants C ps ↔ p ∈ ps := (sort_perm C ps).mem_iff
  have hpair : ∀ {a b} {l : List BeginParticipant}, [a, b].Sublist l → a ∈ l ∧ b ∈ l :=
    fun h => ⟨h.subset (by simp), h.subset (by simp)⟩
  rw [List.pairwise_map, List.pairwise_iff_forall_sublist, Agrees, List.pairwise_iff_forall_sublist]
  constructor
  · intro h a b hab
    obtain ⟨ha, hb⟩ := hpair hab
    have hne : a ≠ b := by
      rintro rfl
      exact notBoth hnodup hab hab
    unfold agreesOn
    cases hc : C.localeCompare a.shardId b.shardId with
    | gt =>
      -- the producer has turned them around
      rcases inOneOrder hne (hmem.mpr ha) (hmem.mpr hb) with hs | hs
      · exact absurd hc (Collator.le_iff.mp (hsorted hs))
      · exact h hs
    | lt => exact h (sort_sublist (Collator.le_iff.mpr (by simp [hc])) hab)
    | eq => exact h (sort_sublist (Collator.le_iff.mpr (by simp [hc])) hab)
  · intro h a b hab
    obtain ⟨ha, hb⟩ := hpair hab
    have hsnodup : (sortParticipants C ps).Nodup := (sort_perm C ps).nodup_iff.mpr hnodup
    have hne : a ≠ b := by
      rintro rfl
      exact notBoth hsnodup hab hab
    rcases inOneOrder hne (hmem.mp ha) (hmem.mp hb) with hs | hs
    · have hle := Collator.le_iff.mp (hsorted hab)
      have := h hs
      cases hc : C.localeCompare a.shardId b.shardId with
      | gt => exact absurd hc hle
      | lt => simpa [agreesOn, hc] using this
      | eq => simpa [agreesOn, hc] using this
    · have := h hs
      cases hc : C.localeCompare b.shardId a.shardId with
      | gt => simpa [agreesOn, hc] using this
      | lt => exact absurd (sort_sublist (Collator.le_iff.mpr (by simp [hc])) hs) (notBoth hsnodup hab)
      | eq => exact absurd (sort_sublist (Collator.le_iff.mpr (by simp [hc])) hs) (notBoth hsnodup hab)

end

theorem ok_of_isOk {ε : Type} {x : Except ε Unit} (h : x.isOk = true) : x = .ok () := by
  cases x with
  | ok u => rfl
  | error e => cases h

/-! ## envelopes -/

section
variable (C : Collator) (sha256Hex : JsString → Hash) (txId fleetId coordinatorId : JsString)
  (ps : List BeginParticipant) (epoch decidedAt : Nat)

/-- the participants are accepted in some order -/
def AcceptedInSomeOrder (envelope : RedoEnvelope) : Prop :=
  ∃ participants, participants.Perm envelope.participants ∧
    validateRedoEnvelopeStructure { envelope with participants } = .ok ()

theorem canonicalByteLength_perm {envelope : RedoEnvelope} {participants : List RedoParticipant}
    (h : participants.Perm envelope.participants) (hne : participants ≠ []) :
    canonicalByteLength { envelope with participants }.toValue =
      canonicalByteLength envelope.toValue := by
  have hne' : envelope.participants ≠ [] := fun hnil => hne (List.perm_nil.mp (hnil ▸ h))
  have h₁ := envelope_bytes hne'
  have h₂ := envelope_bytes (e := { envelope with participants }) hne
  have hsum := (h.map fun p => 1 + canonicalByteLength p.toValue).sum_eq
  dsimp only at h₂
  omega

theorem redoParticipants_ids : (redoParticipants C ps epoch).map (·.participantId) =
    (sortParticipants C ps).map (·.shardId) := by
  rw [redoParticipants, List.map_map]
  rfl

/-- only the order of the participants can be wrong -/
theorem validate_of_order {envelope : RedoEnvelope} (h : AcceptedInSomeOrder envelope) :
    validateRedoEnvelopeStructure envelope = .ok () ↔
      (envelope.participants.map (·.participantId)).Pairwise (codeUnitLt · ·) := by
  obtain ⟨participants, hperm, hvalid⟩ := h
  obtain ⟨hheader, hall, -, hbytes⟩ := validate_ok_iff.mp hvalid
  have hne : participants ≠ [] := by
    rintro rfl
    obtain ⟨-, -, -, -, -, -, -, -, hlength, -⟩ := validateHeader_ok.mp hheader
    simp at hlength
  rw [canonicalByteLength_perm hperm hne] at hbytes
  have hheader' : validateHeader envelope = .ok () := by
    unfold validateHeader at hheader ⊢
    rw [← hperm.length_eq]
    exact hheader
  have hall' := fun p hp => hall p (hperm.mem_iff.mpr hp)
  rw [validate_ok_iff]
  exact ⟨fun h => h.2.2.1, fun h => ⟨hheader', hall', h, hbytes⟩⟩

/-- **the order of the producer** -/
theorem producer_order_accepted_iff (hids : (ps.map (·.shardId)).Nodup)
    (h : AcceptedInSomeOrder (envelopeOf sha256Hex C txId fleetId coordinatorId ps epoch decidedAt)) :
    validateRedoEnvelopeStructure
        (envelopeOf sha256Hex C txId fleetId coordinatorId ps epoch decidedAt) = .ok () ↔
      Agrees C ps := by
  rw [validate_of_order h, ← sorted_pairwise_iff hids, ← redoParticipants_ids C ps epoch]
  rfl

end

/-! ## one and two cases -/

def insertion : BeginIntent :=
  { sql := utf16 "INSERT INTO t VALUES (1)", params := none, tenantId := utf16 "tenant"
    table := utf16 "t", partitionKey := utf16 "1", mirrorTargetShardId := none, vbucket := none
    op := none }

/-- a digest for runs on fixed inputs -/
def zeroHash : JsString → Hash :=
  fun _ => "0000000000000000000000000000000000000000000000000000000000000000"

/-- a request that inserts a row at each shard -/
def insertAt (shardIds : List JsString) : List BeginParticipant :=
  shardIds.map fun shardId => { shardId, intents := [insertion] }

/-- the request in the order of `order` -/
theorem accepted_of_order {ps order : List BeginParticipant} (hperm : order.Perm ps)
    (h : (validateRedoEnvelopeStructure { envelopeOf zeroHash rootCollator (utf16 "tx") (utf16 "default")
      (utf16 "tx") ps 1 0 with participants := order.map (redoParticipant 1) }).isOk = true) :
    AcceptedInSomeOrder
      (envelopeOf zeroHash rootCollator (utf16 "tx") (utf16 "default") (utf16 "tx") ps 1 0) :=
  ⟨order.map (redoParticipant 1), (hperm.trans (sort_perm _ _).symm).map _, ok_of_isOk h⟩

theorem producer_order_accepted_lower :
    validateRedoEnvelopeStructure (envelopeOf zeroHash rootCollator (utf16 "tx") (utf16 "default")
      (utf16 "tx") (insertAt [utf16 "shard-1", utf16 "shard-0"]) 1 0) = .ok () :=
  (producer_order_accepted_iff rootCollator zeroHash (utf16 "tx") (utf16 "default") (utf16 "tx")
    (insertAt [utf16 "shard-1", utf16 "shard-0"]) 1 0 (by decide +kernel)
    (accepted_of_order (List.Perm.swap _ _ _) (by decide +kernel))).mpr
    (by decide +kernel)

/-- `a` stands before `B` in the root locale, and behind it in code units -/
theorem producer_order_mixed_case : ¬ ∀ ps : List BeginParticipant,
    (ps.map (·.shardId)).Nodup →
    AcceptedInSomeOrder
      (envelopeOf zeroHash rootCollator (utf16 "tx") (utf16 "default") (utf16 "tx") ps 1 0) →
    validateRedoEnvelopeStructure
      (envelopeOf zeroHash rootCollator (utf16 "tx") (utf16 "default") (utf16 "tx") ps 1 0) = .ok () := by
  intro h
  have hids : ((insertAt [utf16 "a", utf16 "B"]).map (·.shardId)).Nodup := by decide +kernel
  have haccepted := accepted_of_order (List.Perm.swap _ _ _)
    (show (validateRedoEnvelopeStructure { envelopeOf zeroHash rootCollator (utf16 "tx")
      (utf16 "default") (utf16 "tx") (insertAt [utf16 "a", utf16 "B"]) 1 0 with
        participants := (insertAt [utf16 "B", utf16 "a"]).map (redoParticipant 1) }).isOk = true by
      decide +kernel)
  have hsorted := (validate_of_order haccepted).mp (h _ hids haccepted)
  have hagrees : Agrees rootCollator (insertAt [utf16 "a", utf16 "B"]) := by
    rw [← sorted_pairwise_iff hids, ← redoParticipants_ids rootCollator _ 1]
    exact hsorted
  exact absurd hagrees (by decide +kernel)

end Redo
