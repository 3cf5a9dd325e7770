import Smp3Multipath.Core.DecoupledRuns
import Smp3Multipath.Core.LedgerHistory
import Smp3Multipath.Lib.Booking

/-!
# The accounts of decoupled assignment

`assignBenchmark` keeps two books: `assignedService` and `assignedRecords` with the owner of the
assignment under `weightedMu`, and the ordinary owner of the record in the ledger under its own
lock.  Here a call is taken apart where it looks at the ledger or stores something, and the ledger
may do any other operation in between.  Which leg a call chooses, and whether it keeps the owner,
is left open; `assignBenchmark_run` says that what the scheduler's model does in one step is a run
of these.

A record has one holder at a time (`admission_is_held`), so `tryQueue` does not store `admitted`
while `assignBenchmark` runs for the same record.
-/

namespace Smp3Multipath.Core.AssignmentAccounting

open Lib.Run Lib.Booking Assignment StreamTXLedger Finset Function Option
open Carrier (Ref)

section Model

/-- How far the call that holds `weightedMu` is. -/
inductive Stage where
  | locked
  /-- The record is not admitted, and goes to `best`. -/
  | chosen (best : Ref)
  /-- The ledger has the new owner, or slow-leg protection is off. -/
  | assigned (best : Ref)
deriving DecidableEq

structure State where
  ledger : StreamTXLedger
  assignedService : LegID → UInt64
  assignedRecords : LegID → UInt64
  /-- `decoupledStats.initial`. -/
  initial : UInt64
  assignments : Nat → Option BenchmarkAssignment
  /-- The record and the stage of the call that holds `weightedMu`. -/
  call : Option (Nat × Stage)
  /-- The owner of a record at the time it was admitted. -/
  admittedOwner : Nat → Option Ref
  /-- How many records were given a first owner. -/
  initialAssignments : Nat

def init (cfg : Config) : State :=
  { ledger := newStreamTXLedger cfg.maxActiveLegs
    assignedService := fun _ => 0
    assignedRecords := fun _ => 0
    initial := 0
    assignments := fun _ => none
    call := none
    admittedOwner := fun _ => none
    initialAssignments := 0 }

inductive Act where
  /-- An operation of the ledger other than `assignOrdinary`. -/
  | ledger (op : LedgerOp)
  /-- The assignment of a record is stored. -/
  | publish (seq : Nat)
  | lock (seq : Nat)
  /-- The owner is kept, or there is no leg for the record. -/
  | unlock
  | choose (best : Ref)
  | assignOrdinary (now : Time)
  | commit
  /-- `tryQueue` stores `admitted`. -/
  | storeAdmitted (seq : Nat)

def assigns : LedgerOp → Bool
  | .assignOrdinary .. => true
  | _ => false

variable (cfg : Config) (legID : Ref → LegID)

/-- The end of `assignBenchmark`. -/
def commitOwner (s : State) (seq : Nat) (a : BenchmarkAssignment) (best : Ref) : State :=
  if a.owner = some best then { s with call := none }
  else
    let n := UInt64.ofNat (s.ledger.record seq).payload.length
    { s with
      call := none
      assignments := update s.assignments seq (some { a with owner := some best })
      assignedService := moveTo s.assignedService (a.owner.map legID) (legID best) n
      assignedRecords := moveTo s.assignedRecords (a.owner.map legID) (legID best) 1
      initial := s.initial + if a.owner.map legID = none then n else 0
      initialAssignments := s.initialAssignments + if a.owner.map legID = none then 1 else 0 }

/-- A step of the call for `seq`. -/
def callStep (s : State) (seq : Nat) (a : BenchmarkAssignment) : Stage → Act → Option State
  | .locked, .unlock => some { s with call := none }
  | .locked, .choose best =>
    if ¬ legID best < cfg.maxActiveLegs then none
    else if a.admitted then
      some
        { s with
          call := none
          assignments := update s.assignments seq (some { a with owner := some best }) }
    else some { s with call := some (seq, .chosen best) }
  | .chosen best, .assignOrdinary now =>
    if cfg.slowLegProtection then
      let assigned := s.ledger.assignOrdinary seq (legID best) now
      some
        { s with
          ledger := assigned.1
          call := if assigned.2 then some (seq, .assigned best) else none }
    else some { s with call := some (seq, .assigned best) }
  | .assigned best, .commit => some (commitOwner legID s seq a best)
  | _, _ => none

def step (s : State) : Act → Option State
  | .ledger op => if assigns op then none else some { s with ledger := s.ledger.applyOp op }
  | .publish seq =>
    if seq < s.ledger.nextSequence ∧ s.assignments seq = none then
      some { s with assignments := update s.assignments seq (some {}) }
    else none
  | .lock seq =>
    if s.call = none ∧ s.assignments seq ≠ none then some { s with call := some (seq, .locked) }
    else none
  | .storeAdmitted seq =>
    match s.assignments seq with
    | none => some s
    | some a =>
      if s.call.map Prod.fst = some seq then none
      else if a.admitted then some s
      else
        some
          { s with
            assignments := update s.assignments seq (some { a with admitted := true })
            admittedOwner := update s.admittedOwner seq a.owner }
  | act =>
    match s.call with
    | none => none
    | some (seq, stage) => (s.assignments seq).bind fun a => callStep cfg legID s seq a stage act

/-- The last owner a record was given before it was admitted. -/
def State.lastOwner (s : State) (seq : Nat) : Option Ref :=
  (s.assignments seq).bind fun a => if a.admitted then s.admittedOwner seq else a.owner

def State.bookedTo (s : State) (seq : Nat) : Option LegID := (s.lastOwner seq).map legID

def State.payloadSize (s : State) (seq : Nat) : Nat := (s.ledger.record seq).payload.length

/-- The bytes of the records whose last owner before admission is the leg `id`. -/
def State.bookedBytes (s : State) (id : LegID) : Nat :=
  booked s.payloadSize (s.bookedTo legID) (range s.ledger.nextSequence) id

/-- The number of these records. -/
def State.bookedRecords (s : State) (id : LegID) : Nat :=
  booked (fun _ => 1) (s.bookedTo legID) (range s.ledger.nextSequence) id

/-- The id of an owner as the ledger writes it. -/
def ownerID : Option Ref → Int
  | some ref => legID ref
  | none => -1

end Model

section Ledger

variable {l : StreamTXLedger} {seq : Nat}

/-- Only `assignOrdinary` gives a record another owner, and the payload never changes. -/
theorem owner_applyOp {op : LedgerOp} (hop : assigns op = false) (hseq : seq < l.nextSequence) :
    ((l.applyOp op).record seq).ordinaryOwner = (l.record seq).ordinaryOwner ∧
      ((l.applyOp op).record seq).payload = (l.record seq).payload := by
  refine keeps_record_applyOp (P := fun r => r.ordinaryOwner = (l.record seq).ordinaryOwner ∧
    r.payload = (l.record seq).payload) hseq (fun f hf r hr => ?_) ⟨rfl, rfl⟩
  cases op with
  | add payload now isLocal => cases hf
  | assignOrdinary i id now => cases hop
  | clearAttemptAt i leg rescue started | markAttemptSent i leg rescue now => rcases List.mem_pair.1 hf with rfl | rfl <;> exact hr
  | invalidateLeg leg =>
    rw [List.mem_singleton.1 hf]
    exact invalidateRecord_keeps (P := fun r => r.ordinaryOwner = (l.record seq).ordinaryOwner ∧
      r.payload = (l.record seq).payload) leg (fun _ h => h) (fun _ h => h) (fun _ h => h)
      (fun _ h => h) hr
  | _ =>
    rw [List.mem_singleton.1 hf]
    exact hr

theorem owner_of_new {op : LedgerOp} (hold : l.nextSequence ≤ seq)
    (hseq : seq < (l.applyOp op).nextSequence) :
    ((l.applyOp op).record seq).ordinaryOwner = -1 := by
  by_cases hadd : ∀ payload now isLocal, op ≠ .add payload now isLocal
  · exfalso
    by_cases hack : ∀ next now, op ≠ .applyACK next now
    · have hnext := (applyOp_sameStream l op hadd hack).next
      omega
    · push Not at hack
      obtain ⟨next, now, rfl⟩ := hack
      have hnext : (l.applyOp (.applyACK next now)).nextSequence = _ :=
        applyACK_nextSequence next now
      omega
  · push Not at hadd
    obtain ⟨payload, now, isLocal, rfl⟩ := hadd
    have hnext : (l.applyOp (.add payload now isLocal)).nextSequence = l.nextSequence + 1 := by
      simp [applyOp, add]
    obtain rfl : seq = l.nextSequence := by omega
    simp [applyOp, add]

/-- `assignOrdinary` reports whether the record has its new owner. -/
theorem assignOrdinary_owner (l : StreamTXLedger) (seq : Nat) (id : LegID) (now : Time) (i : Nat) :
    ((l.assignOrdinary seq id now).1.record i).ordinaryOwner =
      if i = seq ∧ (l.assignOrdinary seq id now).2 = true then (id : Int)
      else (l.record i).ordinaryOwner := by
  unfold StreamTXLedger.assignOrdinary
  split
  · rw [if_neg (fun h => nomatch h.2), (ensureLocked_sameRecords l).record]
  · next l₁ hensure =>
    have hrecord := (ensureLegLocked_sameRecords hensure).record
    dsimp only
    split
    · rw [if_neg (fun h => nomatch h.2), hrecord]
    · split
      · next howner =>
        rw [hrecord] at howner ⊢
        split
        · next hi => rw [hi.1, howner]
        · rfl
      · have htaken : ∀ l₂ : StreamTXLedger, l₂.record = l.record →
            (((l₂.modifyRecord seq (takeOwner id now)).chargeOrdinary id
              (l₁.record seq)).record i).ordinaryOwner =
              if i = seq ∧ true = true then (id : Int) else (l.record i).ordinaryOwner := by
          intro l₂ hl₂
          simp only [chargeOrdinary, modifyRecord, hl₂, update_apply, and_true]
          split <;> rfl
        split
        · exact htaken _ hrecord
        · exact htaken _ hrecord

end Ledger

section Accounts

variable {cfg : Config} {legID : Ref → LegID} {s s' : State} {seq : Nat}

/-- The accounts of a state are those of its assignments. -/
structure Kept (cfg : Config) (legID : Ref → LegID) (s : State) : Prop where
  fresh : ∀ seq, s.ledger.nextSequence ≤ seq → s.assignments seq = none
  ids : ∀ seq id, s.bookedTo legID seq = some id → id < cfg.maxActiveLegs
  service : ∀ id, s.assignedService id = UInt64.ofNat (s.bookedBytes legID id)
  records : ∀ id, s.assignedRecords id = UInt64.ofNat (s.bookedRecords legID id)
  total : ∑ id ∈ range cfg.maxActiveLegs, s.assignedService id = s.initial
  count : ∑ id ∈ range cfg.maxActiveLegs, s.assignedRecords id =
    UInt64.ofNat s.initialAssignments

theorem bookedTo_of_none (h : s.assignments seq = none) : s.bookedTo legID seq = none := by
  rw [State.bookedTo, State.lastOwner, h]
  rfl

theorem bookedTo_congr (h : s'.assignments seq = s.assignments seq)
    (hadmitted : s'.admittedOwner seq = s.admittedOwner seq) :
    s'.bookedTo legID seq = s.bookedTo legID seq := by
  rw [State.bookedTo, State.bookedTo, State.lastOwner, State.lastOwner, h, hadmitted]

theorem bookedTo_of_pending {a : BenchmarkAssignment} (h : s.assignments seq = some a)
    (hadmitted : a.admitted = false) : s.bookedTo legID seq = a.owner.map legID := by
  rw [State.bookedTo, State.lastOwner, h]
  change Option.map legID (if a.admitted = true then _ else _) = _
  rw [hadmitted]
  rfl

theorem Kept.lt_next (h : Kept cfg legID s) {a : BenchmarkAssignment}
    (ha : s.assignments seq = some a) : seq < s.ledger.nextSequence := by
  by_contra hge
  rw [h.fresh seq (Nat.not_lt.1 hge)] at ha
  cases ha

/-- A step that books nothing. -/
theorem Kept.frame (h : Kept cfg legID s) (hnext : s.ledger.nextSequence ≤ s'.ledger.nextSequence)
    (hpayload : ∀ seq < s.ledger.nextSequence, s'.payloadSize seq = s.payloadSize seq)
    (hfresh : ∀ seq, s'.ledger.nextSequence ≤ seq → s'.assignments seq = none)
    (hbooked : s'.bookedTo legID = s.bookedTo legID)
    (hservice : s'.assignedService = s.assignedService)
    (hrecords : s'.assignedRecords = s.assignedRecords) (hinitial : s'.initial = s.initial)
    (hcount : s'.initialAssignments = s.initialAssignments) : Kept cfg legID s' := by
  have hsub : range s.ledger.nextSequence ⊆ range s'.ledger.nextSequence :=
    range_subset_range.2 hnext
  have hnew : ∀ seq ∈ range s'.ledger.nextSequence, seq ∉ range s.ledger.nextSequence →
      s.bookedTo legID seq = none := by
    intro seq _ hseq
    exact bookedTo_of_none (h.fresh seq (Nat.not_lt.1 fun hlt => hseq (mem_range.2 hlt)))
  refine ⟨hfresh, ?_, fun id => ?_, fun id => ?_, ?_, ?_⟩
  · rw [hbooked]
    exact h.ids
  · rw [hservice, h.service, State.bookedBytes, State.bookedBytes, hbooked,
      booked_extend hsub hnew fun seq hseq => hpayload seq (mem_range.1 hseq)]
  · rw [hrecords, h.records, State.bookedRecords, State.bookedRecords, hbooked,
      booked_extend hsub hnew fun _ _ => rfl]
  · rw [hservice, hinitial]
    exact h.total
  · rw [hrecords, hcount]
    exact h.count

/-- The balances follow a record to its new owner. -/
theorem moveTo_booked {weight : Nat → Nat} {owner : Nat → Option LegID} {n : Nat}
    {balance : LegID → UInt64} (best : LegID) (hseq : seq < n)
    (h : ∀ id, balance id = UInt64.ofNat (booked weight owner (range n) id)) (id : LegID) :
    moveTo balance (owner seq) best (UInt64.ofNat (weight seq)) id =
      UInt64.ofNat (booked weight (update owner seq (some best)) (range n) id) := by
  have hbooked : booked weight (update owner seq (some best)) (range n) id + _ =
      booked weight owner (range n) id + _ := booked_update_add (mem_range.2 hseq) (some best)
  have hmove := congrArg UInt64.ofNat hbooked
  have hite : ∀ p : Prop, ∀ [Decidable p],
      UInt64.ofNat (if p then weight seq else 0) = if p then UInt64.ofNat (weight seq) else 0 := by
    intro p _
    split <;> rfl
  rw [UInt64.ofNat_add, UInt64.ofNat_add, hite, hite, ← h id] at hmove
  rw [moveTo_apply, eq_sub_of_add_eq hmove]
  simp only [Option.some.injEq, eq_comm (a := id)]
  exact sub_add_eq_add_sub _ _ _

theorem Kept.commit (h : Kept cfg legID s) {a : BenchmarkAssignment} {best : Ref}
    (ha : s.assignments seq = some a) (hadmitted : a.admitted = false)
    (hbest : legID best < cfg.maxActiveLegs) (howner : a.owner ≠ some best) :
    Kept cfg legID (commitOwner legID s seq a best) := by
  have hseq := h.lt_next ha
  have hprevious : s.bookedTo legID seq = a.owner.map legID := bookedTo_of_pending ha hadmitted
  have hids : ∀ id, a.owner.map legID = some id → id ∈ range cfg.maxActiveLegs := by
    intro id hid
    exact mem_range.2 (h.ids seq id (hprevious.trans hid))
  have hmoved : commitOwner legID s seq a best = _ := if_neg howner
  have hbooked : (commitOwner legID s seq a best).bookedTo legID =
      update (s.bookedTo legID) seq (some (legID best)) := by
    funext i
    rw [hmoved]
    by_cases hi : i = seq
    · subst hi
      rw [update_self]
      exact bookedTo_of_pending (a := { a with owner := some best }) (update_self ..)
        hadmitted
    · rw [update_of_ne hi]
      exact bookedTo_congr (update_of_ne hi ..) rfl
  have hbytes := moveTo_booked (legID best) hseq h.service
  have hone := moveTo_booked (legID best) hseq h.records
  rw [hprevious, ← hbooked] at hbytes hone
  refine ⟨?_, ?_, ?_, ?_, ?_, ?_⟩
  · intro i hi
    rw [hmoved] at hi ⊢
    exact (update_of_ne (by dsimp only at hi; omega) ..).trans (h.fresh i hi)
  · intro i id hid
    rw [hbooked, update_apply] at hid
    split at hid
    · cases hid
      exact hbest
    · exact h.ids i id hid
  · intro id
    rw [hmoved] at hbytes ⊢
    exact hbytes id
  · intro id
    rw [hmoved] at hone ⊢
    exact hone id
  · rw [hmoved]
    exact (sum_moveTo _ hids (mem_range.2 hbest) _).trans (by rw [h.total])
  · rw [hmoved]
    refine (sum_moveTo _ hids (mem_range.2 hbest) _).trans ?_
    rw [h.count, UInt64.ofNat_add]
    congr 1
    split <;> rfl

end Accounts

section Ownership

variable {cfg : Config} {legID : Ref → LegID} {s s' : State} {seq : Nat}

/-- What the ledger knows as the owner of a record: a call may be ahead of the assignment. -/
def State.ledgerOwner (s : State) (seq : Nat) (a : BenchmarkAssignment) : Option Ref :=
  match s.call with
  | some (i, .assigned best) => if i = seq then some best else a.owner
  | _ => a.owner

/-- What a call knows about its record. -/
structure CallOK (cfg : Config) (legID : Ref → LegID) (s : State) : Prop where
  published : ∀ seq stage, s.call = some (seq, stage) → s.assignments seq ≠ none
  chosen : ∀ seq best, s.call = some (seq, .chosen best) ∨ s.call = some (seq, .assigned best) →
    legID best < cfg.maxActiveLegs ∧ ∀ a, s.assignments seq = some a → a.admitted = false

theorem CallOK.setAssignment (h : CallOK cfg legID s) (hcall : s'.call = s.call)
    (hother : ∀ i stage, s.call = some (i, stage) → s'.assignments i = s.assignments i) :
    CallOK cfg legID s' where
  published i stage hsome := by
    rw [hcall] at hsome
    rw [hother i stage hsome]
    exact h.published i stage hsome
  chosen i best hsome := by
    rw [hcall] at hsome
    rw [hsome.elim (hother i _) (hother i _)]
    exact h.chosen i best hsome

/-- The ledger and the assignments agree on the owners. -/
structure Synced (legID : Ref → LegID) (s : State) : Prop where
  unpublished : ∀ seq < s.ledger.nextSequence, s.assignments seq = none →
    (s.ledger.record seq).ordinaryOwner = -1
  pending : ∀ seq a, s.assignments seq = some a → a.admitted = false →
    (s.ledger.record seq).ordinaryOwner = ownerID legID (s.ledgerOwner seq a)

structure Inv (cfg : Config) (legID : Ref → LegID) (s : State) : Prop where
  kept : Kept cfg legID s
  call : CallOK cfg legID s
  synced : cfg.slowLegProtection = true → Synced legID s

theorem inv_init : Inv cfg legID (init cfg) where
  kept :=
    { fresh := fun _ _ => rfl
      ids := fun _ _ h => nomatch h
      service := fun _ => rfl
      records := fun _ => rfl
      total := sum_const_zero
      count := sum_const_zero }
  call := ⟨fun _ _ h => (nomatch h), fun _ _ h => (nomatch h)⟩
  synced _ := ⟨fun _ h => (nomatch h), fun _ _ h => (nomatch h)⟩

/-- The ledger goes on by itself. -/
theorem Inv.applyOp (h : Inv cfg legID s) {op : LedgerOp} (hop : assigns op = false) :
    Inv cfg legID { s with ledger := s.ledger.applyOp op } := by
  have hnext : s.ledger.nextSequence ≤ (s.ledger.applyOp op).nextSequence := by
    rcases applyOp_nextSequence s.ledger op with hsame | ⟨hsucc, -⟩
    · exact Nat.le_of_eq hsame.symm
    · exact hsucc ▸ Nat.le_succ _
  refine ⟨?_, ⟨h.call.published, h.call.chosen⟩, fun hslow => ⟨?_, ?_⟩⟩
  · refine h.kept.frame hnext ?_ ?_ rfl rfl rfl rfl rfl
    · intro seq hseq
      exact congrArg List.length (owner_applyOp hop hseq).2
    · intro seq hseq
      exact h.kept.fresh seq (Nat.le_trans hnext hseq)
  · intro seq hseq hnone
    by_cases hold : seq < s.ledger.nextSequence
    · exact (owner_applyOp hop hold).1.trans ((h.synced hslow).unpublished seq hold hnone)
    · exact owner_of_new (Nat.not_lt.1 hold) hseq
  · intro seq a ha hadmitted
    exact (owner_applyOp hop (h.kept.lt_next ha)).1.trans
      ((h.synced hslow).pending seq a ha hadmitted)

theorem Inv.setCall (h : Inv cfg legID s) {call : Option (Nat × Stage)}
    (hcall : CallOK cfg legID { s with call := call })
    (howner : cfg.slowLegProtection = true → ∀ seq a, s.assignments seq = some a →
      a.admitted = false → State.ledgerOwner { s with call := call } seq a = s.ledgerOwner seq a) :
    Inv cfg legID { s with call := call } where
  kept := ⟨h.kept.fresh, h.kept.ids, h.kept.service, h.kept.records, h.kept.total, h.kept.count⟩
  call := hcall
  synced hslow :=
    { unpublished := (h.synced hslow).unpublished
      pending := fun seq a ha hadmitted => by
        rw [howner hslow seq a ha hadmitted]
        exact (h.synced hslow).pending seq a ha hadmitted }

theorem CallOK.none (h : s.call = none) : CallOK cfg legID s where
  published seq stage hsome := by
    rw [h] at hsome
    cases hsome
  chosen seq best hsome := by
    rw [h] at hsome
    rcases hsome with hsome | hsome <;> cases hsome

theorem Inv.setAssignment (h : Inv cfg legID s) {a' : BenchmarkAssignment}
    {call : Option (Nat × Stage)} {admittedOwner : Nat → Option Ref}
    (hs' : s' = { s with
      assignments := update s.assignments seq (some a')
      call := call
      admittedOwner := admittedOwner }) (hseq : seq < s.ledger.nextSequence)
    (hbooked : ∀ i, s'.bookedTo legID i = s.bookedTo legID i) (hcall : CallOK cfg legID s')
    (hothers : ∀ i a, i ≠ seq → s'.ledgerOwner i a = s.ledgerOwner i a)
    (hself : cfg.slowLegProtection = true → a'.admitted = false →
      (s.ledger.record seq).ordinaryOwner = ownerID legID (s'.ledgerOwner seq a')) :
    Inv cfg legID s' := by
  have hledger : s'.ledger = s.ledger := by rw [hs']
  have hnew : s'.assignments seq = some a' := by
    rw [hs']
    exact update_self ..
  have hold : ∀ i, i ≠ seq → s'.assignments i = s.assignments i := by
    intro i hi
    rw [hs']
    exact update_of_ne hi ..
  refine ⟨?_, hcall, fun hslow => ⟨?_, ?_⟩⟩
  · refine h.kept.frame (by rw [hledger]) (fun i _ => by rw [State.payloadSize, hledger]; rfl) ?_
      (funext hbooked) (by rw [hs']) (by rw [hs']) (by rw [hs']) (by rw [hs'])
    intro i hi
    rw [hledger] at hi
    rw [hold i (Nat.ne_of_gt (Nat.lt_of_lt_of_le hseq hi))]
    exact h.kept.fresh i hi
  · intro i hi hnone
    rw [hledger] at hi ⊢
    have hiseq : i ≠ seq := by
      rintro rfl
      rw [hnew] at hnone
      cases hnone
    rw [hold i hiseq] at hnone
    exact (h.synced hslow).unpublished i hi hnone
  · intro i a ha hadmitted
    rw [hledger]
    by_cases hiseq : i = seq
    · subst hiseq
      rw [hnew] at ha
      cases ha
      exact hself hslow hadmitted
    · rw [hold i hiseq] at ha
      rw [hothers i a hiseq]
      exact (h.synced hslow).pending i a ha hadmitted

theorem ledgerOwner_of_not_assigned (hcall : ∀ best, s.call ≠ some (seq, .assigned best))
    (a : BenchmarkAssignment) : s.ledgerOwner seq a = a.owner := by
  rw [State.ledgerOwner]
  split
  · next i best hsome =>
    rw [if_neg]
    rintro rfl
    exact hcall best hsome
  · rfl

/-- A new assignment has no owner yet. -/
theorem Inv.publish (h : Inv cfg legID s) (hseq : seq < s.ledger.nextSequence)
    (hnone : s.assignments seq = none) :
    Inv cfg legID { s with assignments := update s.assignments seq (some {}) } := by
  have hcall : ∀ i stage, s.call = some (i, stage) → i ≠ seq := by
    rintro i stage hsome rfl
    exact h.call.published i stage hsome hnone
  refine h.setAssignment rfl hseq ?_ (h.call.setAssignment rfl fun i stage hsome =>
    update_of_ne (hcall i stage hsome) ..) (fun _ _ _ => rfl) ?_
  · intro i
    by_cases hi : i = seq
    · subst hi
      rw [bookedTo_of_none hnone]
      exact bookedTo_of_pending (a := {}) (update_self ..) rfl
    · exact bookedTo_congr (update_of_ne hi ..) rfl
  · intro hslow _
    change _ = ownerID legID (s.ledgerOwner seq {})
    rw [ledgerOwner_of_not_assigned fun best hsome => hcall _ _ hsome rfl]
    exact (h.synced hslow).unpublished seq hseq hnone

theorem Inv.moveAdmitted (h : Inv cfg legID s) {a : BenchmarkAssignment} {best : Ref}
    (ha : s.assignments seq = some a) (hcall : s.call = some (seq, .locked))
    (hadmitted : a.admitted = true) :
    Inv cfg legID
      { s with
        call := none
        assignments :=
          update s.assignments seq (some { a with owner := some best }) } := by
  refine h.setAssignment rfl (h.kept.lt_next ha) ?_ (CallOK.none rfl) ?_ ?_
  · intro i
    by_cases hi : i = seq
    · subst hi
      simp [State.bookedTo, State.lastOwner, ha, hadmitted]
    · exact bookedTo_congr (update_of_ne hi ..) rfl
  · intro i b hi
    refine (ledgerOwner_of_not_assigned (fun best' h' => ?_) b).symm
    rw [hcall] at h'
    cases h'
  · intro _ hpending
    rw [hadmitted] at hpending
    cases hpending

theorem Inv.storeAdmitted (h : Inv cfg legID s) {a : BenchmarkAssignment}
    (ha : s.assignments seq = some a) (hcall : s.call.map Prod.fst ≠ some seq)
    (hadmitted : a.admitted = false) :
    Inv cfg legID
      { s with
        assignments := update s.assignments seq (some { a with admitted := true })
        admittedOwner := update s.admittedOwner seq a.owner } := by
  have hother : ∀ i stage, s.call = some (i, stage) → i ≠ seq := by
    rintro i stage hsome rfl
    exact hcall (by rw [hsome]; rfl)
  refine h.setAssignment rfl (h.kept.lt_next ha) (fun i => ?_) (h.call.setAssignment rfl
    fun i stage hsome => update_of_ne (hother i stage hsome) ..) (fun _ _ _ => rfl) nofun
  by_cases hi : i = seq
  · subst hi
    rw [bookedTo_of_pending ha hadmitted]
    simp [State.bookedTo, State.lastOwner]
  · exact bookedTo_congr (update_of_ne hi ..) (update_of_ne hi ..)

theorem Inv.moveCall (h : Inv cfg legID s) {call : Option (Nat × Stage)}
    (hcall : CallOK cfg legID { s with call := call })
    (hold : ∀ i best, s.call ≠ some (i, .assigned best))
    (hnew : cfg.slowLegProtection = true → ∀ i best, call ≠ some (i, .assigned best)) :
    Inv cfg legID { s with call := call } := by
  refine h.setCall hcall fun hslow i a _ _ => ?_
  rw [ledgerOwner_of_not_assigned (hnew hslow i)]
  exact (ledgerOwner_of_not_assigned (hold i) a).symm

/-- The ledger takes the new owner, or the record is retired and the call ends. -/
theorem Inv.assignOrdinary (h : Inv cfg legID s) {a : BenchmarkAssignment} {best : Ref}
    (ha : s.assignments seq = some a) (hcall : s.call = some (seq, .chosen best)) (now : Time) :
    Inv cfg legID
      { s with
        ledger := (s.ledger.assignOrdinary seq (legID best) now).1
        call :=
          if (s.ledger.assignOrdinary seq (legID best) now).2 then some (seq, .assigned best)
          else none } := by
  have hsame := assignOrdinary_sameStream s.ledger seq (legID best) now
  have howner := assignOrdinary_owner s.ledger seq (legID best) now
  have hbefore : ∀ i b, s.ledgerOwner i b = b.owner := by
    intro i b
    refine ledgerOwner_of_not_assigned (fun best' h' => ?_) b
    rw [hcall] at h'
    cases h'
  refine ⟨?_, ?_, fun hslow => ⟨?_, ?_⟩⟩
  · refine h.kept.frame (Nat.le_of_eq hsame.next.symm) ?_ ?_ rfl rfl rfl rfl rfl
    · intro i _
      exact congrArg List.length (hsame.payload i)
    · intro i hi
      exact h.kept.fresh i (hsame.next ▸ hi)
  · split
    · refine ⟨?_, ?_⟩
      · rintro i stage ⟨⟩
        exact h.call.published seq _ hcall
      · rintro i best' (⟨⟨⟩⟩ | ⟨⟨⟩⟩)
        exact h.call.chosen seq best (.inl hcall)
    · exact CallOK.none rfl
  · intro i hi hnone
    have hne : i ≠ seq := by
      rintro rfl
      exact h.call.published i _ hcall hnone
    refine (howner i).trans ?_
    rw [if_neg fun h => hne h.1]
    exact (h.synced hslow).unpublished i (hsame.next ▸ hi) hnone
  · intro i b hb hadmitted
    refine (howner i).trans ?_
    have hpending := (h.synced hslow).pending i b hb hadmitted
    rw [hbefore] at hpending
    by_cases htaken : (s.ledger.assignOrdinary seq (legID best) now).2 = true
    · by_cases hi : i = seq
      · subst hi
        simp [State.ledgerOwner, htaken, ownerID]
      · simp [State.ledgerOwner, htaken, hi, Ne.symm hi, hpending]
    · simp [State.ledgerOwner, htaken, hpending]

/-- The assignment takes the owner that the ledger has. -/
theorem Inv.commit (h : Inv cfg legID s) {a : BenchmarkAssignment} {best : Ref}
    (ha : s.assignments seq = some a) (hcall : s.call = some (seq, .assigned best)) :
    Inv cfg legID (commitOwner legID s seq a best) := by
  obtain ⟨hbest, hpending⟩ := h.call.chosen seq best (.inr hcall)
  have hself : ∀ b, s.ledgerOwner seq b = some best := by
    intro b
    simp [State.ledgerOwner, hcall]
  have hother : ∀ i b, i ≠ seq → s.ledgerOwner i b = b.owner := by
    intro i b hi
    refine ledgerOwner_of_not_assigned (fun best' h' => hi ?_) b
    rw [hcall] at h'
    cases h'
    rfl
  by_cases howner : a.owner = some best
  · have hsame : commitOwner legID s seq a best = { s with call := none } := if_pos howner
    rw [hsame]
    refine h.setCall (CallOK.none rfl) fun _ i b hb _ => ?_
    change b.owner = _
    by_cases hi : i = seq
    · subst hi
      rw [ha] at hb
      cases hb
      rw [hself, howner]
    · rw [hother i b hi]
  · have hkept := h.kept.commit ha (hpending a ha) hbest howner
    have hmoved : commitOwner legID s seq a best = _ := if_neg howner
    rw [hmoved] at hkept ⊢
    refine ⟨hkept, CallOK.none rfl, fun hslow => ⟨?_, ?_⟩⟩
    · intro i hi hnone
      by_cases hiseq : i = seq
      · subst hiseq
        simp at hnone
      · exact (h.synced hslow).unpublished i hi ((update_of_ne hiseq ..).symm.trans hnone)
    · intro i b hb hadmitted
      change _ = ownerID legID b.owner
      by_cases hiseq : i = seq
      · subst hiseq
        simp only [update_self, Option.some.injEq] at hb
        subst hb
        have hrecord := (h.synced hslow).pending i a ha (hpending a ha)
        rwa [hself] at hrecord
      · have hb' : s.assignments i = some b := (update_of_ne hiseq ..).symm.trans hb
        have hrecord := (h.synced hslow).pending i b hb' hadmitted
        rwa [hother i b hiseq] at hrecord

end Ownership

section Runs

variable {cfg : Config} {legID : Ref → LegID} {s s' : State}

theorem inv_callStep (h : Inv cfg legID s) {seq : Nat} {a : BenchmarkAssignment} {stage : Stage}
    {act : Act} (hcall : s.call = some (seq, stage)) (ha : s.assignments seq = some a)
    (hs : callStep cfg legID s seq a stage act = some s') : Inv cfg legID s' := by
  have hnotAssigned : (∀ best, stage ≠ .assigned best) →
      ∀ i best, s.call ≠ some (i, .assigned best) := by
    intro hstage i best h'
    rw [hcall] at h'
    cases h'
    exact hstage best rfl
  unfold callStep at hs
  split at hs
  · -- the call ends without a new owner
    cases hs
    exact h.moveCall (CallOK.none rfl) (hnotAssigned nofun) (fun _ => nofun)
  · next best =>
    split at hs
    · cases hs
    next hbest =>
    split at hs
    · next hadmitted =>
      cases hs
      exact h.moveAdmitted ha hcall hadmitted
    · next hadmitted =>
      cases hs
      refine h.moveCall ⟨?_, ?_⟩ (hnotAssigned nofun) (fun _ _ _ h' => nomatch h')
      · rintro i stage ⟨⟩
        exact h.call.published seq _ hcall
      · rintro i best' (⟨⟨⟩⟩ | ⟨⟨⟩⟩)
        refine ⟨not_not.1 hbest, fun b hb => ?_⟩
        rw [ha] at hb
        cases hb
        exact Bool.eq_false_iff.2 hadmitted
  · next best now =>
    split at hs
    · cases hs
      exact h.assignOrdinary ha hcall now
    · next hslow =>
      cases hs
      refine h.moveCall ⟨?_, ?_⟩ (hnotAssigned nofun) (fun h' => absurd h' hslow)
      · rintro i stage ⟨⟩
        exact h.call.published seq _ hcall
      · rintro i best' (⟨⟨⟩⟩ | ⟨⟨⟩⟩)
        exact h.call.chosen seq best (.inl hcall)
  · next best =>
    cases hs
    exact h.commit ha hcall
  · cases hs

theorem inv_step (h : Inv cfg legID s) {act : Act} (hs : step cfg legID s act = some s') :
    Inv cfg legID s' := by
  have hcall : ∀ act, (match s.call with
      | none => none
      | some (seq, stage) => (s.assignments seq).bind fun a =>
        callStep cfg legID s seq a stage act) = some s' → Inv cfg legID s' := by
    intro act hact
    split at hact
    · cases hact
    · next seq stage hsome =>
      obtain ⟨a, ha, hact⟩ := bind_eq_some_iff.1 hact
      exact inv_callStep h hsome ha hact
  cases act with
  | ledger op =>
    simp only [step] at hs
    split at hs
    · cases hs
    · next hop =>
      cases hs
      exact h.applyOp (Bool.eq_false_iff.2 hop)
  | publish seq =>
    simp only [step] at hs
    split at hs
    · next hnew =>
      cases hs
      exact h.publish hnew.1 hnew.2
    · cases hs
  | lock seq =>
    simp only [step] at hs
    split at hs
    · next hfree =>
      cases hs
      refine h.moveCall ⟨?_, ?_⟩ ?_ (fun _ _ _ h' => nomatch h')
      · rintro i stage ⟨⟩
        exact hfree.2
      · rintro i best (⟨⟨⟩⟩ | ⟨⟨⟩⟩)
      · intro i best h'
        rw [hfree.1] at h'
        cases h'
    · cases hs
  | storeAdmitted seq =>
    simp only [step] at hs
    split at hs
    · cases hs
      exact h
    next a ha =>
    split at hs
    · cases hs
    next hother =>
    split at hs
    · cases hs
      exact h
    · next hadmitted =>
      cases hs
      exact h.storeAdmitted ha hother (Bool.eq_false_iff.2 hadmitted)
  | unlock => exact hcall .unlock hs
  | choose best => exact hcall (.choose best) hs
  | assignOrdinary now => exact hcall (.assignOrdinary now) hs
  | commit => exact hcall .commit hs

/-- In every state of a run, whatever legs the calls choose and whatever the ledger does in
between: `assignedService` and `assignedRecords` of a leg are, modulo `2 ^ 64`, the bytes and the
number of the records whose last owner before admission is that leg; what a move takes off is
there; the totals are the initial assignments.  Between calls the ledger has the owner of every
record that is not admitted. -/
theorem assignment_accounts_kept (cfg : Config) (legID : Ref → LegID) (acts : List Act)
    (s : State) (hrun : runActs (step cfg legID) (init cfg) acts = some s) :
    (∀ id, (s.assignedService id).toNat = s.bookedBytes legID id % 2 ^ 64 ∧
      (s.assignedRecords id).toNat = s.bookedRecords legID id % 2 ^ 64) ∧
    (∀ seq a owner, s.assignments seq = some a → a.admitted = false → a.owner = some owner →
      s.payloadSize seq ≤ s.bookedBytes legID (legID owner) ∧
        1 ≤ s.bookedRecords legID (legID owner)) ∧
    (∑ id ∈ range cfg.maxActiveLegs, s.assignedService id = s.initial ∧
      ∑ id ∈ range cfg.maxActiveLegs, s.assignedRecords id =
        UInt64.ofNat s.initialAssignments) ∧
    (cfg.slowLegProtection = true → s.call = none → ∀ seq ∈ s.ledger.outstanding, ∀ a,
      s.assignments seq = some a → a.admitted = false →
      (s.ledger.record seq).ordinaryOwner = ownerID legID a.owner) := by
  have hinv : Inv cfg legID s :=
    runActs_preserves (fun _ _ _ h hs => inv_step h hs) inv_init hrun
  refine ⟨fun id => ⟨?_, ?_⟩, ?_, ⟨hinv.kept.total, hinv.kept.count⟩, ?_⟩
  · rw [hinv.kept.service, UInt64.toNat_ofNat']
  · rw [hinv.kept.records, UInt64.toNat_ofNat']
  · intro seq a owner ha hadmitted howner
    have hbooked : s.bookedTo legID seq = some (legID owner) := by
      rw [bookedTo_of_pending ha hadmitted, howner]
      rfl
    have hseq := mem_range.2 (hinv.kept.lt_next ha)
    have hone : _ ≤ booked (fun _ => 1) (s.bookedTo legID) _ (legID owner) :=
      weight_le_booked hseq hbooked
    exact ⟨weight_le_booked hseq hbooked, hone⟩
  · intro hslow hcall seq _ a ha hadmitted
    rw [(hinv.synced hslow).pending seq a ha hadmitted]
    exact congrArg (ownerID legID)
      (ledgerOwner_of_not_assigned (fun best h => by rw [hcall] at h; cases h) a)

/-- Two legs with slow-leg protection. -/
def protectedConfig : Config := { Decoupled.twoLegConfig with slowLegProtection := true }

/-- Record 0 goes to leg 0 and on to leg 1.  Record 1 is admitted on leg 0 and then goes to leg 1
too. -/
def reselectedRun : List Act :=
  [.ledger (.add [7, 8] 1 true), .publish 0, .lock 0, .choose 0, .assignOrdinary 2, .commit,
    .ledger (.add [9] 3 true), .publish 1, .lock 0, .choose 1, .assignOrdinary 4,
    .ledger (.invalidateLeg 0), .commit, .lock 1, .choose 0, .assignOrdinary 5, .commit,
    .storeAdmitted 1, .lock 1, .choose 1]

theorem assignment_accounts_kept_reselected :
    ∃ s, runActs (step protectedConfig id) (init protectedConfig) reselectedRun = some s ∧
      (s.bookedBytes id 0 % 2 ^ 64 = 1 ∧ s.bookedBytes id 1 % 2 ^ 64 = 2) ∧
      ∑ leg ∈ range 2, s.assignedService leg = 3 ∧ 2 ≤ s.bookedBytes id 1 ∧
      (s.ledger.record 0).ordinaryOwner = ownerID id (some 1) := by
  have hrun : (runActs (step protectedConfig id) (init protectedConfig) reselectedRun).map
      (fun s => decide (s.call = none ∧ 0 ∈ s.ledger.outstanding ∧ s.initial = 3 ∧
        s.assignments 0 = some { owner := some 1, admitted := false } ∧ s.payloadSize 0 = 2 ∧
        s.assignedService 0 = 1 ∧ s.assignedService 1 = 2)) = some true := by
    decide
  obtain ⟨s, hs, hfacts⟩ := map_eq_some_iff.1 hrun
  obtain ⟨hcall, hout, hinitial, hassigned, hpayload, hzero, hone⟩ := of_decide_eq_true hfacts
  obtain ⟨hsums, hmoves, htotals, howners⟩ :=
    assignment_accounts_kept protectedConfig id reselectedRun s hs
  have hbytes := (hmoves 0 _ 1 hassigned rfl rfl).1
  rw [hpayload] at hbytes
  refine ⟨s, hs, ⟨?_, ?_⟩, htotals.1.trans hinitial, hbytes,
    howners rfl hcall 0 hout _ hassigned rfl⟩
  · rw [← (hsums 0).1, hzero]
    rfl
  · rw [← (hsums 1).1, hone]
    rfl

end Runs

section Calls

variable {κ : Type} {cfg : Config} {c : Carrier.State κ} {b : Books} {m : Measured} {seq : Nat}
  {a : BenchmarkAssignment}

theorem ledger_run (cfg : Config) (legID : Ref → LegID) (s : State) (p : Prop) [Decidable p]
    (op : LedgerOp) (hop : assigns op = false) :
    ∃ acts, runActs (step cfg legID) s acts =
      some { s with ledger := if p then s.ledger.applyOp op else s.ledger } := by
  by_cases hp : p
  · refine ⟨[.ledger op], runActs_cons_iff.2 ⟨_, ?_, rfl⟩⟩
    rw [step, if_neg (by rw [hop]; exact Bool.false_ne_true), if_pos hp]
  · exact ⟨[], by rw [if_neg hp]; rfl⟩

theorem moveService_assignedService (b : Books) (previous : Option LegID) (best : LegID)
    (n : UInt64) :
    (moveService b previous best n).assignedService =
      moveTo b.assignedService previous best n := by
  cases previous <;> rfl

/-- The ledger after a call for `best` has asked it for the new owner, and its answer. -/
def askLedger (cfg : Config) (l : StreamTXLedger) (seq : Nat) (id : LegID) (now : Time) :
    StreamTXLedger × Bool :=
  if cfg.slowLegProtection then l.assignOrdinary seq id now else (l, true)

/-- The end of a call whose record is not admitted and whose new owner the ledger has. -/
theorem commitOwner_granted (b' : Books) {best : Ref} (hadmitted : a.admitted = false)
    (hgranted : (askLedger cfg c.ledger seq (c.legs best).id m.now).2 = true) :
    ∃ (starts : Bool) (admission : LegID → AdmissionLeg) (generation : Nat) (epoch : Time),
      let asked := (askLedger cfg c.ledger seq (c.legs best).id m.now).1
      let probed := if starts then asked.storeRecoveryProbeWriteStartedAt seq none else asked
      let ledger := if cfg.slowLegProtection then probed.setOrigin seq generation epoch else probed
      let books := { b' with admission := admission }
      Assignment.commitOwner cfg c b' m seq a best =
        if a.owner = some best then ⟨some best, ledger, books, a⟩
        else ⟨some best, ledger,
          moveService books (a.owner.map fun owner => (c.legs owner).id) (c.legs best).id
            (UInt64.ofNat (c.ledger.record seq).payload.length),
          { a with owner := some best }⟩ := by
  have hne : ¬ a.admitted = true := by
    rw [hadmitted]
    exact Bool.false_ne_true
  have hshape : Assignment.commitOwner cfg c b' m seq a best = _ :=
    (if_neg hne).trans (if_pos hgranted)
  exact ⟨_, _, _, _, hshape⟩

/-- The end of a call, from the choice of the leg on. -/
theorem commitOwner_run {s : State} {b' : Books} {best : Ref} (hledger : s.ledger = c.ledger)
    (hservice : s.assignedService = b'.assignedService) (hcall : s.call = some (seq, .locked))
    (ha : s.assignments seq = some a) (hid : (c.legs best).id < cfg.maxActiveLegs) :
    ∃ acts s', runActs (step cfg fun ref => (c.legs ref).id) s acts = some s' ∧
      s'.call = none ∧
      s'.ledger = (Assignment.commitOwner cfg c b' m seq a best).ledger ∧
      s'.assignedService = (Assignment.commitOwner cfg c b' m seq a best).books.assignedService ∧
      s'.assignments = update s.assignments seq
        (some (Assignment.commitOwner cfg c b' m seq a best).assignment) := by
  have hkept : s.assignments = update s.assignments seq (some a) := by rw [← ha, update_eq_self]
  by_cases hadmitted : a.admitted = true
  · have hmoved : Assignment.commitOwner cfg c b' m seq a best = _ := if_pos hadmitted
    let s' : State :=
      { s with
        call := none
        assignments := update s.assignments seq (some { a with owner := some best }) }
    refine ⟨[.choose best], s', runActs_cons_iff.2 ⟨s', ?_, rfl⟩, ?_⟩
    · simp only [step, hcall, ha, bind_some, callStep, not_true, if_false, hid, hadmitted,
        if_true, s']
    · rw [hmoved]
      exact ⟨rfl, hledger, hservice, rfl⟩
  have hpending : a.admitted = false := Bool.eq_false_iff.2 hadmitted
  -- the two steps up to the answer of the ledger
  let asked := askLedger cfg c.ledger seq (c.legs best).id m.now
  let s₁ : State :=
    { s with
      ledger := asked.1
      call := if asked.2 then some (seq, .assigned best) else none }
  have hasked : runActs (step cfg fun ref => (c.legs ref).id) s
      [.choose best, .assignOrdinary m.now] = some s₁ := by
    refine runActs_cons_iff.2 ⟨{ s with call := some (seq, .chosen best) }, ?_,
      runActs_cons_iff.2 ⟨s₁, ?_, rfl⟩⟩
    · simp only [step, hcall, ha, bind_some, callStep, not_true, if_false, hid, hpending,
        Bool.false_eq_true]
    · simp only [step, ha, bind_some, callStep, hledger, s₁, asked, askLedger]
      split
      · rfl
      · rw [← hledger]
        rfl
  by_cases hgranted : asked.2 = true
  · obtain ⟨starts, admission, generation, epoch, hcommit⟩ :=
      commitOwner_granted b' hpending hgranted
    let probed :=
      if starts then asked.1.storeRecoveryProbeWriteStartedAt seq none else asked.1
    let ledger :=
      if cfg.slowLegProtection then probed.setOrigin seq generation epoch else probed
    obtain ⟨acts₂, hrun₂⟩ := ledger_run cfg (fun ref => (c.legs ref).id) s₁ (starts = true)
      (.storeRecoveryProbeWriteStartedAt seq none) rfl
    obtain ⟨acts₃, hrun₃⟩ := ledger_run cfg (fun ref => (c.legs ref).id)
      { s₁ with ledger := probed } (cfg.slowLegProtection = true) (.setOrigin seq generation epoch)
      rfl
    have hlast : runActs (step cfg fun ref => (c.legs ref).id) { s₁ with ledger := ledger }
        [.commit] =
        some
          (commitOwner (fun ref => (c.legs ref).id) { s₁ with ledger := ledger } seq a best) := by
      refine runActs_cons_iff.2 ⟨_, ?_, rfl⟩
      simp only [step, s₁, if_pos hgranted, ha, bind_some, callStep]
    have hpayload : (ledger.record seq).payload = (c.ledger.record seq).payload := by
      have hsame : SameStream c.ledger (Assignment.commitOwner cfg c b' m seq a best).ledger :=
        commitOwner_sameStream best
      rw [hcommit] at hsame
      have hpayload := hsame.payload seq
      split at hpayload
      · exact hpayload
      · exact hpayload
    refine ⟨_, _, runActs_append_of hasked (runActs_append_of hrun₂
      (runActs_append_of hrun₃ hlast)), ?_⟩
    rw [hcommit, commitOwner]
    by_cases howner : a.owner = some best
    · rw [if_pos howner, if_pos howner]
      exact ⟨rfl, rfl, hservice, hkept⟩
    · rw [if_neg howner, if_neg howner]
      refine ⟨rfl, rfl, ?_, rfl⟩
      dsimp only
      rw [moveService_assignedService, hpayload, hservice]
  · have hrefused : Assignment.commitOwner cfg c b' m seq a best = _ :=
      (if_neg hadmitted).trans (if_neg hgranted)
    refine ⟨_, s₁, hasked, if_neg hgranted, ?_⟩
    rw [hrefused]
    exact ⟨rfl, hservice, hkept⟩

/-- A call of `assignBenchmark`, as the scheduler's model makes it in one step, is a run of
the steps above. -/
theorem assignBenchmark_run {s : State} (hledger : s.ledger = c.ledger)
    (hservice : s.assignedService = b.assignedService) (hcall : s.call = none)
    (ha : s.assignments seq = some a) (hids : ∀ ref, (c.legs ref).id < cfg.maxActiveLegs) :
    ∃ acts s', runActs (step cfg fun ref => (c.legs ref).id) s acts = some s' ∧
      s'.call = none ∧
      s'.ledger = (assignBenchmark cfg c b m seq a).ledger ∧
      s'.assignedService = (assignBenchmark cfg c b m seq a).books.assignedService ∧
      s'.assignments = update s.assignments seq
        (some (assignBenchmark cfg c b m seq a).assignment) := by
  have hlock : step cfg (fun ref => (c.legs ref).id) s (.lock seq) =
      some { s with call := some (seq, .locked) } := by
    rw [step, if_pos ⟨hcall, by rw [ha]; exact some_ne_none a⟩]
  have hunlock : runActs (step cfg fun ref => (c.legs ref).id) s [.lock seq, .unlock] =
      some { s with call := none } := by
    refine runActs_cons_iff.2 ⟨_, hlock, runActs_cons_iff.2 ⟨_, ?_, rfl⟩⟩
    simp only [step, ha, bind_some, callStep]
  have hkept : s.assignments = update s.assignments seq (some a) := by rw [← ha, update_eq_self]
  refine assignBenchmark_induction (P := fun o => ∃ acts s',
    runActs (step cfg fun ref => (c.legs ref).id) s acts = some s' ∧ s'.call = none ∧
      s'.ledger = o.ledger ∧ s'.assignedService = o.books.assignedService ∧
      s'.assignments = update s.assignments seq (some o.assignment)) ?_ ?_ ?_
  · exact fun _ => ⟨_, _, hunlock, rfl, hledger, hservice, hkept⟩
  · exact fun b' hb' => ⟨_, _, hunlock, rfl, hledger, hservice.trans hb'.symm, hkept⟩
  · intro b' hb' best _
    obtain ⟨acts, s', hrun, hend⟩ := commitOwner_run (s := { s with call := some (seq, .locked) })
      hledger (hservice.trans hb'.symm) rfl ha (hids best)
    exact ⟨.lock seq :: acts, s', runActs_cons_iff.2 ⟨_, hlock, hrun⟩, hend⟩

/-- A record without an owner goes to the one attached leg. -/
theorem assignBenchmark_run_first :
    let l := ((newStreamTXLedger 2).addLocal [7] 1).1
    ∃ acts s', runActs (step Decoupled.twoLegConfig fun _ => 0) { init Decoupled.twoLegConfig with
        ledger := l, assignments := update (fun _ => none) 0 (some {}) } acts = some s' ∧
      s'.assignments 0 = some ⟨some 0, false⟩ := by
  intro l
  obtain ⟨acts, s', hrun, -, -, -, hassignments⟩ := @assignBenchmark_run Unit Decoupled.twoLegConfig
    { Carrier.init Unit Decoupled.twoLegConfig.carrier with
      ledger := l, nextRef := 1, attached := update (fun _ => none) 0 (some 0) }
    .empty Decoupled.evenLegs 0 {} { init Decoupled.twoLegConfig with
      ledger := l, assignments := update (fun _ => none) 0 (some {}) }
    rfl rfl rfl rfl fun _ => Nat.two_pos
  exact ⟨acts, s', hrun, by rw [hassignments]; rfl⟩

end Calls

section Admission

open Decoupled

variable {cfg : Config}

/-- A `tryQueue` call that will store `admitted` for a record with an assignment is made by the
feeder that holds the record, and nobody else does. -/
theorem admission_is_held {s : Decoupled.State} {k : Caller} {call : Carrier.Call}
    (hreach : Reachable (Decoupled.step cfg) (Decoupled.init cfg) s)
    (hcall : s.carrier.calls k = some call) (hordinary : call.retry = false ∧ call.rescue = false)
    (ha : s.assignments call.seq ≠ none) :
    ∃ id, k = .feeder id ∧ s.feeders id = .calling call.seq ∧ ¬ s.Outside call.seq ∧
      ∀ id', call.seq ∈ (s.feeders id').held → id' = id := by
  have hinv := inv_of_reachable hreach
  cases k with
  | planner =>
    have hp := hinv.plannerCall call hcall
    refine absurd (hinv.holding.unassigned call.seq ?_) ha
    rw [hp]
    exact List.mem_singleton_self _
  | retransmit =>
    rcases hinv.retryCall call hcall with hretry | hrescue
    · rw [hordinary.1] at hretry
      cases hretry
    · rw [hordinary.2] at hrescue
      cases hrescue
  | feeder id =>
    have hfeeder := (hinv.feeding.call id call hcall).1
    have hheld : call.seq ∈ (s.feeders id).held := by
      rw [hfeeder]
      exact List.mem_singleton_self _
    refine ⟨id, rfl, hfeeder, hinv.holding.not_outside hinv.registry hheld, fun id' hid' => ?_⟩
    exact hinv.holding.feeder_unique hinv.registry hid' hheld

/-- The feeder of leg 0 calls `tryQueue` for the first record. -/
theorem admission_is_held_fed :
    ∃ s call, runActs (Decoupled.step twoLegConfig) (Decoupled.init twoLegConfig)
        ([.leg (.attachLeg 0)] ++ planChunk evenLegs 7 ++
          [.feeder 0 .pop, .feeder 0 (.assign evenLegs), .feeder 0 .tryQueue]) = some s ∧
      s.carrier.calls (.feeder 0) = some call ∧ ¬ s.Outside call.seq := by
  obtain ⟨s, call, hrun, hcall, hordinary, ha⟩ : ∃ s call,
      runActs (Decoupled.step twoLegConfig) (Decoupled.init twoLegConfig)
        ([.leg (.attachLeg 0)] ++ planChunk evenLegs 7 ++
          [.feeder 0 .pop, .feeder 0 (.assign evenLegs), .feeder 0 .tryQueue]) = some s ∧
      s.carrier.calls (.feeder 0) = some call ∧ (call.retry = false ∧ call.rescue = false) ∧
      s.assignments call.seq ≠ none := by
    refine ⟨_, _, rfl, rfl, ⟨rfl, rfl⟩, ?_⟩
    rintro ⟨⟩
  obtain ⟨_, _, _, houtside, _⟩ := admission_is_held ⟨_, hrun⟩ hcall hordinary ha
  exact ⟨s, call, hrun, hcall, houtside⟩

end Admission

end Smp3Multipath.Core.AssignmentAccounting
