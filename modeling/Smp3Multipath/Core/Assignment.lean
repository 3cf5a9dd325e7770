import Smp3Multipath.Core.CarrierFootprint

/-!
# Decoupled assignment

`assignBenchmark`, which decides which leg owns a record that no carrier queue
has accepted yet, with the admission tests it makes and the service accounting
it keeps under `weightedMu`.

What the function measures is an input, `Measured`: the effective weights, the
round-trip penalties, the completion estimates and the byte budgets are read from
meters that no modelled function writes.  `float64` is `ℚ`.  The debug counters,
the trace and the telemetry mirrors are left out; no decision reads them.
-/

namespace Smp3Multipath.Core.Assignment

open Carrier Function List

/-- What assignment reads of the engine's configuration. -/
structure Config where
  maxActiveLegs : Nat
  queueFrames : Nat
  /-- The capacity of a pending queue, `BenchmarkPendingFrames`. -/
  pendingFrames : Nat
  chunkSize : Nat
  maxInflightFrames : Nat
  slowLegProtection : Bool
  boundedRescue : Bool
  epochRebase : Bool
  /-- Is there a capacity estimate or provider? -/
  capacity : Bool
  holCompletion : Bool
  maxActiveLegs_pos : 0 < maxActiveLegs
  maxActiveLegs_le : maxActiveLegs ≤ maxStreamLegIDCount
  pendingFrames_pos : 0 < pendingFrames
  maxInflightFrames_pos : 0 < maxInflightFrames

/-- The carriers' part. -/
def Config.carrier (cfg : Config) : Carrier.Config :=
  { maxActiveLegs := cfg.maxActiveLegs
    queueFrames := cfg.queueFrames
    slowLegProtection := cfg.slowLegProtection
    boundedRescue := cfg.boundedRescue }

/-- `streamAdmissionLeg`, the fields assignment reads. -/
structure AdmissionLeg where
  restricted : Bool := false
  recovering : Bool := false
  probePending : Bool := false
  probeSequence : Nat := 0
  probeSequenceSet : Bool := false
  probeExpired : Bool := false
  probeExpiredSequence : Nat := 0
  since : Time := 0
  nextProbe : Time := 0
  limit : Int := 0
  byteLimit : Nat := 0
deriving DecidableEq

structure BenchmarkAssignment where
  owner : Option Ref := none
  admitted : Bool := false
deriving DecidableEq

/-- The accounting under `weightedMu` and the admission states. -/
structure Books where
  assignedService : LegID → UInt64
  assignedEpochReady : LegID → Bool
  assignedEpochOrigin : LegID → ℚ
  assignedEpochWeight : LegID → ℚ
  holCorrectionStreak : Nat
  admission : LegID → AdmissionLeg

/-- Nothing assigned. -/
def Books.empty : Books :=
  { assignedService := fun _ => 0
    assignedEpochReady := fun _ => false
    assignedEpochOrigin := fun _ => 0
    assignedEpochWeight := fun _ => 0
    holCorrectionStreak := 0
    admission := fun _ => {} }

/-- What one call reads from the meters. -/
structure Measured where
  now : Time
  /-- `effectiveSchedulerWeight`. -/
  weight : Ref → ℚ
  /-- `pathRTTScorePenalty`, `0` for a leg that replaced the measured one. -/
  penalty : Ref → ℚ
  completionEstimate : Ref → ℚ
  ordinaryByteBudget : LegID → Nat
  legGeneration : LegID → Nat

section Admission

variable (cfg : Config) (admission : LegID → AdmissionLeg)

def validAdmissionLeg (id : LegID) : Bool :=
  decide (id < cfg.maxActiveLegs)

def ordinaryOwnerAllowed (id : LegID) : Bool :=
  if ¬ cfg.slowLegProtection then true
  else if ¬ validAdmissionLeg cfg id then false
  else !(admission id).restricted

def pendingRecoveryProbeOwner (id : LegID) (seq : Nat) : Bool :=
  if ¬ cfg.slowLegProtection ∨ ¬ validAdmissionLeg cfg id then false
  else
    let s := admission id
    s.restricted && s.probePending && s.probeSequenceSet && decide (s.probeSequence = seq) &&
      (!s.probeExpired || decide (s.probeExpiredSequence ≠ seq))

/-- `ordinaryEligible`; `bytes` is `OrdinaryAdmissionBytesByLeg`. -/
def ordinaryEligible (m : Measured) (bytes : List Int) (id : LegID) (count : Int) : Bool :=
  if ¬ cfg.slowLegProtection ∨ ¬ validAdmissionLeg cfg id then true
  else
    let s := admission id
    if s.restricted then
      !s.probePending && decide (count = 0) && decide (s.nextProbe ≤ m.now)
    else if s.recovering then
      decide (count < s.limit) &&
        (decide (s.byteLimit = 0) || decide (bytes.getD id 0 < (s.byteLimit : Int)))
    else
      decide (count < (cfg.maxInflightFrames : Int)) && decide (id < bytes.length) &&
        decide (bytes.getD id 0 < (m.ordinaryByteBudget id : Int))

def cancelPendingRecoveryProbe (id : LegID) (seq : Nat) (now : Time) :
    LegID → AdmissionLeg :=
  let s := admission id
  if validAdmissionLeg cfg id ∧ s.probePending ∧ (¬ s.probeSequenceSet ∨ s.probeSequence = seq) then
    update admission id
      { s with
        probePending := false, probeSequence := 0, probeSequenceSet := false
        probeExpired := true, probeExpiredSequence := seq, since := now }
  else
    admission

/-- `ordinaryAssignedRecord`; the Boolean says whether a recovery probe starts. -/
def ordinaryAssignedRecord (id : LegID) (seq payload : Nat) (now : Time) :
    (LegID → AdmissionLeg) × Bool :=
  if ¬ cfg.slowLegProtection ∨ ¬ validAdmissionLeg cfg id then (admission, false)
  else
    let probeBytes := if 0 < payload then payload else cfg.chunkSize
    let s := admission id
    let starts := s.restricted && !s.probePending
    let s' : AdmissionLeg :=
      if starts then
        { s with
          probePending := true, probeSequence := seq, probeSequenceSet := true
          probeExpired := s.probeExpired && decide (s.probeExpiredSequence = seq)
          probeExpiredSequence :=
            if s.probeExpired ∧ s.probeExpiredSequence = seq then s.probeExpiredSequence else 0
          recovering := false, limit := 1, since := now, byteLimit := probeBytes }
      else s
    let s'' := if s'.probePending ∧ s'.byteLimit = 0 then { s' with byteLimit := probeBytes } else s'
    (update admission id s'', starts)

end Admission

section Choice

variable {κ : Type}

/-- `availableLegs`: attached, open, not draining, by id. -/
def availableLegs (cfg : Config) (c : Carrier.State κ) : List Ref :=
  ((List.range cfg.maxActiveLegs).filterMap c.attached).filter fun ref =>
    !(c.legs ref).closed && !(c.legs ref).draining

/-- The owner keeps the record. -/
def keepsOwner (cfg : Config) (c : Carrier.State κ) (b : Books) (seq : Nat)
    (a : BenchmarkAssignment) : Bool :=
  match a.owner with
  | none => false
  | some ref =>
    !(c.legs ref).closed &&
      (a.admitted || ordinaryOwnerAllowed cfg b.admission (c.legs ref).id ||
        pendingRecoveryProbeOwner cfg b.admission (c.legs ref).id seq)

/-- May the record go to this leg? -/
def selectable (cfg : Config) (c : Carrier.State κ) (b : Books) (m : Measured)
    (a : BenchmarkAssignment) (ref : Ref) : Bool :=
  let id := (c.legs ref).id
  let count := c.ledger.ordinaryFrames.getD id 0
  if cfg.slowLegProtection then
    ordinaryEligible cfg b.admission m c.ledger.ordinaryBytes id
      (if a.owner = some ref then count - 1 else count)
  else true

/-- The legs the score is compared over. -/
def candidates (cfg : Config) (c : Carrier.State κ) (b : Books) (m : Measured)
    (a : BenchmarkAssignment) : List Ref :=
  (availableLegs cfg c).filter fun ref =>
    !(c.legs ref).closed && selectable cfg c b m a ref && decide (0 < m.weight ref)

/-- The leg with the least score, the lower id on a tie. -/
def pickBest (score : Ref → ℚ) (id : Ref → LegID) : Option Ref → List Ref → Option Ref
  | best, [] => best
  | none, ref :: rest => pickBest score id (some ref) rest
  | some best, ref :: rest =>
    if score ref < score best ∨ (score ref = score best ∧ id ref < id best) then
      pickBest score id (some ref) rest
    else
      pickBest score id (some best) rest

/-- The leg with the least completion estimate among `legs`, `baseline` unless one is
strictly earlier. -/
def earliest (estimate : Ref → ℚ) (closed : Ref → Bool) (baseline : Ref) : Ref → List Ref → Ref
  | best, [] => best
  | best, ref :: rest =>
    if closed ref ∨ ref = baseline then earliest estimate closed baseline best rest
    else if estimate ref < estimate best then earliest estimate closed baseline ref rest
    else earliest estimate closed baseline best rest

def holFrontierDistance : Nat := 8

def holCandidateStride : Nat := 8

def holMaxCorrectionStreak : Nat := 4

/-- `holMinimumLead` in seconds. -/
def holMinimumLead : ℚ := 2 / 1000

def holRelativeLead : ℚ := 1 / 10

/-- `holCorrection`: the leg and the new correction streak. -/
def holCorrection (c : Carrier.State κ) (m : Measured) (seq streak : Nat)
    (baseline : Ref) (legs : List Ref) : Ref × Nat :=
  if legs.length < 2 ∨ seq < c.ledger.ackedNext ∨
      holFrontierDistance < seq - c.ledger.ackedNext then
    (baseline, streak)
  else
    let estimate := m.completionEstimate
    let best := earliest estimate (fun ref => (c.legs ref).closed) baseline baseline legs
    if best = baseline ∨ estimate baseline - estimate best < holMinimumLead ∨
        estimate baseline * (1 - holRelativeLead) ≤ estimate best then
      (baseline, 0)
    else if holMaxCorrectionStreak ≤ streak then
      (baseline, streak)
    else
      (best, streak + 1)

end Choice

section Accounting

variable {κ : Type}

/-- Does a leg belong to the current membership epoch? -/
def epochMember (cfg : Config) (c : Carrier.State κ) (b : Books) (m : Measured)
    (a : BenchmarkAssignment) (ref : Ref) : Bool :=
  !(c.legs ref).closed &&
    (ordinaryOwnerAllowed cfg b.admission (c.legs ref).id || selectable cfg c b m a ref)

/-- A change of the membership starts a new epoch. -/
def rebaseEpoch (cfg : Config) (c : Carrier.State κ) (b : Books) (m : Measured)
    (a : BenchmarkAssignment) (legs : List Ref) : Books :=
  if cfg.epochRebase ∧
      legs.any fun ref =>
        epochMember cfg c b m a ref != b.assignedEpochReady (c.legs ref).id then
    let rebased := legs.foldl
      (fun (b : Books) ref =>
        let id := (c.legs ref).id
        if 0 < m.weight ref then
          { b with
            assignedEpochOrigin := update b.assignedEpochOrigin id
              ((b.assignedService id).toNat / m.weight ref)
            assignedEpochWeight := update b.assignedEpochWeight id (m.weight ref) }
        else b) b
    { rebased with
      assignedEpochReady := legs.foldl
        (fun ready ref =>
          update ready (c.legs ref).id (epochMember cfg c b m a ref))
        b.assignedEpochReady }
  else b

/-- A change of a weight keeps the normalized finish of its leg. -/
def reweigh (cfg : Config) (c : Carrier.State κ) (m : Measured) (legs : List Ref)
    (b : Books) : Books :=
  if cfg.capacity then
    legs.foldl
      (fun (b : Books) ref =>
        let id := (c.legs ref).id
        let old := b.assignedEpochWeight id
        let next := m.weight ref
        let service : ℚ := (b.assignedService id).toNat
        let origin :=
          if 0 < old ∧ 0 < next ∧ old ≠ next then
            service / next - (service / old - b.assignedEpochOrigin id)
          else b.assignedEpochOrigin id
        { b with
          assignedEpochOrigin := update b.assignedEpochOrigin id origin
          assignedEpochWeight := update b.assignedEpochWeight id next }) b
  else b

/-- The score of a leg. -/
def score (c : Carrier.State κ) (b : Books) (m : Measured) (seq : Nat) (ref : Ref) : ℚ :=
  let id := (c.legs ref).id
  let payload := UInt64.ofNat (c.ledger.record seq).payload.length
  ((b.assignedService id + payload).toNat : ℚ) / m.weight ref - b.assignedEpochOrigin id +
    m.penalty ref

/-- The service of a record moves to its new owner. -/
def moveService (b : Books) (previous : Option LegID) (best : LegID) (n : UInt64) : Books :=
  let service :=
    match previous with
    | some id => update b.assignedService id (b.assignedService id - n)
    | none => b.assignedService
  { b with assignedService := update service best (service best + n) }

end Accounting

/-- What a call of `assignBenchmark` returns and leaves. -/
structure Outcome where
  leg : Option Ref
  ledger : StreamTXLedger
  books : Books
  assignment : BenchmarkAssignment

section Assign

variable {κ : Type}

/-- The tail of `assignBenchmark`: ownership and accounting move to `best` together. -/
def commitOwner (cfg : Config) (c : Carrier.State κ) (b : Books) (m : Measured) (seq : Nat)
    (a : BenchmarkAssignment) (best : Ref) : Outcome :=
  let id := (c.legs best).id
  let payload := (c.ledger.record seq).payload.length
  if a.admitted then
    { leg := some best, ledger := c.ledger, books := b, assignment := { a with owner := some best } }
  else
    let assigned :=
      if cfg.slowLegProtection then c.ledger.assignOrdinary seq id m.now else (c.ledger, true)
    if assigned.2 then
      let admission :=
        match a.owner with
        | some owner =>
          if owner = best then b.admission
          else cancelPendingRecoveryProbe cfg b.admission (c.legs owner).id seq m.now
        | none => b.admission
      let recorded := ordinaryAssignedRecord cfg admission id seq payload m.now
      let ledger :=
        if recorded.2 then assigned.1.storeRecoveryProbeWriteStartedAt seq none else assigned.1
      let ledger :=
        if cfg.slowLegProtection then
          ledger.setOrigin seq (m.legGeneration id) (recorded.1 id).since
        else ledger
      let b := { b with admission := recorded.1 }
      if a.owner = some best then
        { leg := some best, ledger := ledger, books := b, assignment := a }
      else
        { leg := some best
          ledger := ledger
          books := moveService b (a.owner.map fun owner => (c.legs owner).id) id
            (UInt64.ofNat payload)
          assignment := { a with owner := some best } }
    else
      { leg := none, ledger := assigned.1, books := b, assignment := a }

def assignBenchmark (cfg : Config) (c : Carrier.State κ) (b : Books) (m : Measured) (seq : Nat)
    (a : BenchmarkAssignment) : Outcome :=
  if keepsOwner cfg c b seq a then
    { leg := a.owner, ledger := c.ledger, books := b, assignment := a }
  else
    let legs := availableLegs cfg c
    let b' := reweigh cfg c m legs (rebaseEpoch cfg c b m a legs)
    match pickBest (score c b' m seq) (fun ref => (c.legs ref).id) none
        (candidates cfg c b m a) with
    | none => { leg := none, ledger := c.ledger, books := b', assignment := a }
    | some best =>
      let corrected :=
        if cfg.holCompletion ∧ seq % holCandidateStride = 0 then
          holCorrection c m seq b'.holCorrectionStreak best
            (legs.filter fun ref => selectable cfg c b m a ref)
        else (best, b'.holCorrectionStreak)
      commitOwner cfg c { b' with holCorrectionStreak := corrected.2 } m seq a corrected.1

end Assign

section Facts

variable {κ : Type} {cfg : Config} {c : Carrier.State κ} {b : Books} {m : Measured} {seq : Nat}
  {a : BenchmarkAssignment}

theorem mem_availableLegs {ref : Ref} :
    ref ∈ availableLegs cfg c ↔
      (∃ id < cfg.maxActiveLegs, c.attached id = some ref) ∧
        (c.legs ref).closed = false ∧ (c.legs ref).draining = false := by
  simp [availableLegs, mem_filterMap]

theorem mem_candidates {ref : Ref} :
    ref ∈ candidates cfg c b m a ↔
      ref ∈ availableLegs cfg c ∧ selectable cfg c b m a ref = true ∧ 0 < m.weight ref := by
  simp only [candidates, mem_filter, Bool.and_eq_true, Bool.not_eq_true',
    decide_eq_true_eq]
  constructor
  · rintro ⟨hm, ⟨-, hselectable⟩, hweight⟩
    exact ⟨hm, hselectable, hweight⟩
  · rintro ⟨hm, hselectable, hweight⟩
    exact ⟨hm, ⟨(mem_availableLegs.mp hm).2.1, hselectable⟩, hweight⟩

theorem pickBest_some_mem (f : Ref → ℚ) (id : Ref → LegID) (legs : List Ref) (best : Ref) :
    ∃ ref ∈ best :: legs, pickBest f id (some best) legs = some ref := by
  induction legs generalizing best with
  | nil => exact ⟨best, mem_cons_self, rfl⟩
  | cons leg legs ih =>
    rw [pickBest]
    split
    · obtain ⟨ref, hm, heq⟩ := ih leg
      exact ⟨ref, mem_cons_of_mem best hm, heq⟩
    · obtain ⟨ref, hm, heq⟩ := ih best
      refine ⟨ref, ?_, heq⟩
      rcases mem_cons.mp hm with rfl | hm
      · exact mem_cons_self
      · exact mem_cons_of_mem _ (mem_cons_of_mem _ hm)

theorem pickBest_none (f : Ref → ℚ) (id : Ref → LegID) (legs : List Ref) :
    (legs = [] ∧ pickBest f id none legs = none) ∨
      ∃ ref ∈ legs, pickBest f id none legs = some ref := by
  cases legs with
  | nil => exact .inl ⟨rfl, rfl⟩
  | cons leg legs => exact .inr (pickBest_some_mem f id legs leg)

theorem earliest_mem (estimate : Ref → ℚ) (closed : Ref → Bool) (baseline : Ref) (legs : List Ref)
    (best : Ref) : earliest estimate closed baseline best legs ∈ best :: legs := by
  induction legs generalizing best with
  | nil => exact mem_cons_self
  | cons leg legs ih =>
    rw [earliest]
    split
    · rcases mem_cons.mp (ih best) with heq | hm
      · rw [heq]
        exact mem_cons_self
      · exact mem_cons_of_mem _ (mem_cons_of_mem _ hm)
    · split
      · exact mem_cons_of_mem _ (ih leg)
      · rcases mem_cons.mp (ih best) with heq | hm
        · rw [heq]
          exact mem_cons_self
        · exact mem_cons_of_mem _ (mem_cons_of_mem _ hm)

theorem holCorrection_mem (streak : Nat) (baseline : Ref) (legs : List Ref) :
    (holCorrection c m seq streak baseline legs).1 ∈ baseline :: legs := by
  unfold holCorrection
  dsimp only
  split_ifs
  · exact mem_cons_self
  · exact mem_cons_self
  · exact mem_cons_self
  · exact earliest_mem _ _ baseline legs baseline

theorem assignOrdinary_granted {l : StreamTXLedger} {id : LegID} {now : Time}
    (hid : id < maxStreamLegIDCount) (hout : seq ∈ l.outstanding) :
    (l.assignOrdinary seq id now).2 = true := by
  have hsome : ∃ l', l.ensureLegLocked id = some l' := by
    unfold StreamTXLedger.ensureLegLocked
    dsimp only
    rw [if_neg (Nat.not_le.mpr hid)]
    split_ifs <;> exact ⟨_, rfl⟩
  obtain ⟨l', hl'⟩ := hsome
  have hsame := StreamTXLedger.ensureLegLocked_sameRecords hl'
  unfold StreamTXLedger.assignOrdinary
  rw [hl']
  dsimp only
  rw [if_neg (by rw [hsame.outstanding]; exact not_not.mpr hout)]
  split_ifs <;> rfl

theorem commitOwner_sameStream (best : Ref) :
    StreamTXLedger.SameStream c.ledger (commitOwner cfg c b m seq a best).ledger := by
  have hassigned : StreamTXLedger.SameStream c.ledger
      (if cfg.slowLegProtection then c.ledger.assignOrdinary seq (c.legs best).id m.now
        else (c.ledger, true)).1 := by
    split
    · exact StreamTXLedger.assignOrdinary_sameStream ..
    · exact StreamTXLedger.SameStream.refl _
  unfold commitOwner
  dsimp only
  generalize (if cfg.slowLegProtection then c.ledger.assignOrdinary seq (c.legs best).id m.now
    else (c.ledger, true)) = assigned at hassigned ⊢
  have hstored : ∀ starts : Bool, StreamTXLedger.SameStream c.ledger
      (if starts then assigned.1.storeRecoveryProbeWriteStartedAt seq none else assigned.1) := by
    intro starts
    split
    · exact hassigned.trans (StreamTXLedger.storeRecoveryProbeWriteStartedAt_sameStream ..)
    · exact hassigned
  have horigin : ∀ (starts : Bool) (generation : Nat) (epoch : Time),
      StreamTXLedger.SameStream c.ledger
        (if cfg.slowLegProtection then
          (if starts then assigned.1.storeRecoveryProbeWriteStartedAt seq none
            else assigned.1).setOrigin seq generation epoch
        else
          (if starts then assigned.1.storeRecoveryProbeWriteStartedAt seq none
            else assigned.1)) := by
    intro starts generation epoch
    split
    · exact (hstored starts).trans (StreamTXLedger.setOrigin_sameStream ..)
    · exact hstored starts
  split
  · exact StreamTXLedger.SameStream.refl _
  · split
    · split
      · exact horigin ..
      · exact horigin ..
    · exact hassigned

/-- `commitOwner` gives the record to `best` or refuses; admission is not its business. -/
theorem commitOwner_cases (best : Ref) :
    (((commitOwner cfg c b m seq a best).leg = some best ∧
        (commitOwner cfg c b m seq a best).assignment.owner = some best) ∨
      (commitOwner cfg c b m seq a best).leg = none) ∧
      (commitOwner cfg c b m seq a best).assignment.admitted = a.admitted := by
  unfold commitOwner
  dsimp only
  by_cases hadmitted : a.admitted = true
  · rw [if_pos hadmitted]
    exact ⟨.inl ⟨rfl, rfl⟩, rfl⟩
  · rw [if_neg hadmitted]
    by_cases hgranted : (if cfg.slowLegProtection then
        c.ledger.assignOrdinary seq (c.legs best).id m.now else (c.ledger, true)).2 = true
    · rw [if_pos hgranted]
      by_cases howner : a.owner = some best
      · rw [if_pos howner]
        exact ⟨.inl ⟨rfl, howner⟩, rfl⟩
      · rw [if_neg howner]
        exact ⟨.inl ⟨rfl, rfl⟩, rfl⟩
    · rw [if_neg hgranted]
      exact ⟨.inr rfl, rfl⟩

theorem commitOwner_leg_of_outstanding {best : Ref} (hid : (c.legs best).id < maxStreamLegIDCount)
    (hout : seq ∈ c.ledger.outstanding) : (commitOwner cfg c b m seq a best).leg = some best := by
  have hgranted : (if cfg.slowLegProtection then
      c.ledger.assignOrdinary seq (c.legs best).id m.now else (c.ledger, true)).2 = true := by
    split
    · exact assignOrdinary_granted hid hout
    · rfl
  unfold commitOwner
  dsimp only
  rw [if_pos hgranted]
  by_cases hadmitted : a.admitted = true
  · rw [if_pos hadmitted]
  · rw [if_neg hadmitted]
    by_cases howner : a.owner = some best
    · rw [if_pos howner]
    · rw [if_neg howner]

theorem assignBenchmark_kept (h : keepsOwner cfg c b seq a = true) :
    assignBenchmark cfg c b m seq a =
      { leg := a.owner, ledger := c.ledger, books := b, assignment := a } := by
  unfold assignBenchmark
  rw [if_pos h]

theorem rebaseEpoch_assignedService (legs : List Ref) :
    (rebaseEpoch cfg c b m a legs).assignedService = b.assignedService := by
  unfold rebaseEpoch
  split
  · refine List.foldlRecOn (motive := fun b' : Books => b'.assignedService = b.assignedService)
      legs _ rfl fun b' hb' ref _ => ?_
    dsimp only
    split
    · exact hb'
    · exact hb'
  · rfl

theorem reweigh_assignedService (legs : List Ref) :
    (reweigh cfg c m legs b).assignedService = b.assignedService := by
  unfold reweigh
  split
  · exact List.foldlRecOn (motive := fun b' : Books => b'.assignedService = b.assignedService)
      legs _ rfl fun b' hb' ref _ => hb'
  · rfl

/-- The two ways out of `assignBenchmark` when the owner is not kept; before the end of the call
no service has moved. -/
theorem assignBenchmark_cases (h : keepsOwner cfg c b seq a = false) :
    ∃ b' : Books, b'.assignedService = b.assignedService ∧
      ((candidates cfg c b m a = [] ∧ assignBenchmark cfg c b m seq a =
          { leg := none, ledger := c.ledger, books := b', assignment := a }) ∨
        ∃ best ∈ availableLegs cfg c,
          assignBenchmark cfg c b m seq a = commitOwner cfg c b' m seq a best) := by
  have hservice : (reweigh cfg c m (availableLegs cfg c)
      (rebaseEpoch cfg c b m a (availableLegs cfg c))).assignedService = b.assignedService :=
    (reweigh_assignedService _).trans (rebaseEpoch_assignedService _)
  unfold assignBenchmark
  rw [if_neg (by rw [h]; exact Bool.false_ne_true)]
  dsimp only
  rcases pickBest_none
      (score c (reweigh cfg c m (availableLegs cfg c)
        (rebaseEpoch cfg c b m a (availableLegs cfg c))) m seq)
      (fun ref => (c.legs ref).id) (candidates cfg c b m a) with ⟨hnil, hnone⟩ | ⟨ref, hm, hsome⟩
  · rw [hnone]
    exact ⟨_, hservice, .inl ⟨hnil, rfl⟩⟩
  · rw [hsome]
    refine ⟨_, ?_, .inr ⟨_, ?_, rfl⟩⟩
    · exact hservice
    have hbest := (mem_candidates.mp hm).1
    split
    · rcases mem_cons.mp (holCorrection_mem _ ref
          ((availableLegs cfg c).filter fun ref => selectable cfg c b m a ref)) with heq | hother
      · rw [heq]
        exact hbest
      · exact (mem_filter.mp hother).1
    · exact hbest

/-- What holds of every way out holds of the outcome. -/
theorem assignBenchmark_induction {P : Outcome → Prop}
    (hkept : keepsOwner cfg c b seq a = true → P ⟨a.owner, c.ledger, b, a⟩)
    (hnone : ∀ b' : Books, b'.assignedService = b.assignedService → P ⟨none, c.ledger, b', a⟩)
    (hcommit : ∀ b' : Books, b'.assignedService = b.assignedService →
      ∀ best ∈ availableLegs cfg c, P (commitOwner cfg c b' m seq a best)) :
    P (assignBenchmark cfg c b m seq a) := by
  cases hkeeps : keepsOwner cfg c b seq a with
  | true =>
    rw [assignBenchmark_kept hkeeps]
    exact hkept hkeeps
  | false =>
    obtain ⟨b', hb', ⟨-, heq⟩ | ⟨best, hbest, heq⟩⟩ := assignBenchmark_cases (m := m) hkeeps
    · rw [heq]
      exact hnone b' hb'
    · rw [heq]
      exact hcommit b' hb' best hbest

theorem assignBenchmark_sameStream :
    StreamTXLedger.SameStream c.ledger (assignBenchmark cfg c b m seq a).ledger :=
  assignBenchmark_induction (P := fun o => StreamTXLedger.SameStream c.ledger o.ledger)
    (fun _ => .refl _) (fun _ _ => .refl _) fun _ _ best _ => commitOwner_sameStream best

theorem assignBenchmark_admitted :
    (assignBenchmark cfg c b m seq a).assignment.admitted = a.admitted :=
  assignBenchmark_induction (P := fun o => o.assignment.admitted = a.admitted) (fun _ => rfl)
    (fun _ _ => rfl) fun _ _ best _ => (commitOwner_cases best).2

/-- The leg returned is the new owner of the record: the owner that is kept, or one of the
available legs. -/
theorem assignBenchmark_leg {ref : Ref} (h : (assignBenchmark cfg c b m seq a).leg = some ref) :
    ((keepsOwner cfg c b seq a = true ∧ a.owner = some ref) ∨ ref ∈ availableLegs cfg c) ∧
      (assignBenchmark cfg c b m seq a).assignment.owner = some ref := by
  revert h
  refine assignBenchmark_induction (P := fun o => o.leg = some ref →
    ((keepsOwner cfg c b seq a = true ∧ a.owner = some ref) ∨ ref ∈ availableLegs cfg c) ∧
      o.assignment.owner = some ref) ?_ nofun ?_
  · exact fun hkeeps howner => ⟨.inl ⟨hkeeps, howner⟩, howner⟩
  · intro b' _ best hbest h
    rcases (commitOwner_cases best).1 with ⟨hsome, howner⟩ | hnone
    · rw [hsome] at h
      cases h
      exact ⟨.inr hbest, howner⟩
    · rw [hnone] at h
      cases h

/-- For an outstanding record a leg is found exactly if its owner is kept or there is a
candidate. -/
theorem assignBenchmark_eq_none_iff
    (hids : ∀ ref ∈ availableLegs cfg c, (c.legs ref).id < maxStreamLegIDCount)
    (hout : seq ∈ c.ledger.outstanding) :
    (assignBenchmark cfg c b m seq a).leg = none ↔
      keepsOwner cfg c b seq a = false ∧ candidates cfg c b m a = [] := by
  cases hkeeps : keepsOwner cfg c b seq a with
  | true =>
    rw [assignBenchmark_kept hkeeps]
    constructor
    · intro hnone
      have hkeeps' := hkeeps
      unfold keepsOwner at hkeeps'
      rw [show a.owner = none from hnone] at hkeeps'
      cases hkeeps'
    · rintro ⟨hfalse, -⟩
      cases hfalse
  | false =>
    constructor
    · intro hnone
      obtain ⟨b', -, ⟨hnil, -⟩ | ⟨best, hbest, heq⟩⟩ := assignBenchmark_cases (m := m) hkeeps
      · exact ⟨rfl, hnil⟩
      · rw [heq, commitOwner_leg_of_outstanding (hids best hbest) hout] at hnone
        cases hnone
    · rintro ⟨-, hnil⟩
      unfold assignBenchmark
      rw [hnil, if_neg (by rw [hkeeps]; exact Bool.false_ne_true)]
      rfl

end Facts

end Smp3Multipath.Core.Assignment
