import Smp3Multipath.Core.StreamTx
import Smp3Multipath.Lib.KeyedList
import Smp3Multipath.Lib.Run

/-!
# Leg reservations

A carrier handler of the server reserves its leg id in the session before it answers
READY and attaches the carrier to the Core.  `attachLegWithPathAuth` gives the
reservation back as soon as the Core has the leg, and a deferred `releaseLeg` of the
handler gives it back again when the handler ends, which for the handler that opened
the session is after the dial of the target.  The map `reserved` does not say who made
a reservation: the second release removes whatever is there by then.

The model has any number of handlers of one session, with the lock `legMu` and the two
readings of the Core inside `reserveLeg` as separate steps.  Each reservation carries
its owner, which no step of the code reads.
-/

namespace Smp3Multipath.Server.LegReservation

open Lib.Run Lib.KeyedList Smp3Multipath.Core List Option

section Model

inductive Mode where
  | stream
  | datagram
deriving DecidableEq

/-- The session's fields that `reserveLeg` reads. -/
structure Config where
  mode : Mode
  maxActiveLegs : Int
deriving DecidableEq

def defaultMaxActiveStreamLegs : Int := 16

/-- The number of legs that `reserveLeg` allows. -/
def Config.limit (cfg : Config) : Int :=
  match cfg.mode with
  | .datagram => 2
  | .stream => if cfg.maxActiveLegs = 0 then defaultMaxActiveStreamLegs else cfg.maxActiveLegs

/-- How the carrier came, which decides whether it is answered. -/
inductive Ingress where
  /-- A hello of version 6 or 7. -/
  | negotiated
  | sidecar
  /-- `createOrJoinSession`, without READY. -/
  | plain
deriving DecidableEq

/-- Where a handler is, from `reserveLeg` on. -/
inductive Phase where
  | idle
  | arrived
  /-- In `reserveLeg`, past the checks up to `HasLeg`. -/
  | reserving
  | reserved
  /-- READY is written. -/
  | ready
  /-- The Core has the leg; `attachLegWithPathAuth` has not released it yet. -/
  | attached
  /-- The reservation is given back, and the deferred release is still to come. -/
  | promoted
  /-- READY or the attach failed, and the deferred release is still to come. -/
  | failed
  | exited
deriving DecidableEq

/-- The handler has made a reservation and not given it back. -/
def Phase.holds : Phase → Bool
  | .reserved | .ready | .attached | .failed => true
  | _ => false

/-- The handler is between its reservation and its attach. -/
def Phase.admitting : Phase → Bool
  | .reserved | .ready => true
  | _ => false

structure Handler where
  leg : LegID
  ingress : Ingress
  phase : Phase
deriving DecidableEq

structure State where
  handlers : Nat → Handler
  legMu : Option Nat
  /-- The reserved ids, each with the handler that reserved it. -/
  reserved : List (LegID × Nat)
  /-- The legs of the Core. -/
  legs : List LegID
  coreClosed : Bool
  /-- Who removed a reservation, and who had made it. -/
  removals : List (Nat × Nat)
  /-- The handlers that wrote READY and were refused as a duplicate. -/
  refusedReady : List Nat

def init : State :=
  { handlers := fun _ => { leg := 0, ingress := .plain, phase := .idle }
    legMu := none
    reserved := []
    legs := []
    coreClosed := false
    removals := []
    refusedReady := [] }

def State.leg (s : State) (i : Nat) : LegID := (s.handlers i).leg

def State.phase (s : State) (i : Nat) : Phase := (s.handlers i).phase

def State.setPhase (s : State) (i : Nat) (phase : Phase) : State :=
  { s with handlers := Function.update s.handlers i { s.handlers i with phase := phase } }

/-- The errors of `reserveLeg`. -/
inductive ReserveError where
  | exceedsLimit (id : LegID) (limit : Int)
  | alreadyAdmitted
  | duplicateLeg (mode : Mode)
  | limitReached (limit : Int)
deriving DecidableEq

/-- `reserveLeg` up to the reading of `HasLeg`. -/
def reserveError (cfg : Config) (s : State) (id : LegID) : Option ReserveError :=
  if cfg.limit ≤ id then some (.exceedsLimit id cfg.limit)
  else if id ∈ s.reserved.map Prod.fst then some .alreadyAdmitted
  else if id ∈ s.legs then some (.duplicateLeg cfg.mode)
  else none

/-- `reserveLeg` from the reading of `LegCount` on. -/
def commitError (cfg : Config) (s : State) : Option ReserveError :=
  if cfg.limit ≤ s.legs.length + s.reserved.length then some (.limitReached cfg.limit) else none

/-- `releaseLeg`, called by handler `i`. -/
def releaseLeg (s : State) (i : Nat) (id : LegID) : State :=
  match lookup Prod.fst s.reserved id with
  | some entry =>
    { s with
      reserved := remove Prod.fst s.reserved id
      removals := (i, entry.2) :: s.removals }
  | none => s

/-- The handler calls `AttachLeg` next. -/
def MayAttach (s : State) (i : Nat) : Prop :=
  s.phase i = .ready ∨ s.phase i = .reserved ∧ (s.handlers i).ingress = .plain

instance (s : State) (i : Nat) : Decidable (MayAttach s i) :=
  inferInstanceAs (Decidable (_ ∨ _ ∧ _))

/-- `AttachLeg` of the Core; `refused` says that the Core refuses for a reason of its own. -/
def attachLeg (s : State) (i : Nat) (refused : Bool) : State :=
  if s.coreClosed then s.setPhase i .failed
  else if s.leg i ∈ s.legs then
    { s.setPhase i .failed with
      refusedReady := if s.phase i = .ready then i :: s.refusedReady else s.refusedReady }
  else if refused then s.setPhase i .failed
  else { s.setPhase i .attached with legs := s.leg i :: s.legs }

inductive Act where
  | arrive (i : Nat) (leg : LegID) (ingress : Ingress)
  | reserveCheck (i : Nat)
  | reserveCommit (i : Nat)
  | writeReady (i : Nat) (ok : Bool)
  | attach (i : Nat) (refused : Bool)
  /-- `releaseLeg` at the end of `attachLegWithPathAuth`. -/
  | promote (i : Nat)
  /-- The deferred `releaseLeg`. -/
  | leave (i : Nat)
  | legFails (id : LegID)
  | coreCloses
deriving DecidableEq

def step (cfg : Config) (s : State) : Act → Option State
  | .arrive i leg ingress =>
    if s.phase i = .idle then
      some
        { s with
          handlers := Function.update s.handlers i
            { leg := leg, ingress := ingress, phase := .arrived } }
    else none
  | .reserveCheck i =>
    if s.phase i = .arrived ∧ s.legMu = none then
      match reserveError cfg s (s.leg i) with
      | some _ => some (s.setPhase i .exited)
      | none => some { s.setPhase i .reserving with legMu := some i }
    else none
  | .reserveCommit i =>
    if s.phase i = .reserving then
      match commitError cfg s with
      | some _ => some { s.setPhase i .exited with legMu := none }
      | none =>
        some
          { s.setPhase i .reserved with
            legMu := none
            reserved := (s.leg i, i) :: s.reserved }
    else none
  | .writeReady i ok =>
    if s.phase i = .reserved ∧ (s.handlers i).ingress ≠ .plain then
      some (s.setPhase i (if ok then .ready else .failed))
    else none
  | .attach i refused => if MayAttach s i then some (attachLeg s i refused) else none
  | .promote i =>
    if s.phase i = .attached ∧ s.legMu = none then
      some (releaseLeg (s.setPhase i .promoted) i (s.leg i))
    else none
  | .leave i =>
    if (s.phase i = .promoted ∨ s.phase i = .failed) ∧ s.legMu = none then
      some (releaseLeg (s.setPhase i .exited) i (s.leg i))
    else none
  | .legFails id => if id ∈ s.legs then some { s with legs := s.legs.filter (· ≠ id) } else none
  | .coreCloses => some { s with coreClosed := true }

/-- Reservations are removed by those who made them. -/
def RemovedByOwner (s : State) : Prop := ∀ r ∈ s.removals, r.1 = r.2

/-- No two handlers are between their reservation and their attach for one id. -/
def OneAdmitting (s : State) : Prop :=
  ∀ i j, (s.phase i).admitting = true → (s.phase j).admitting = true → s.leg i = s.leg j → i = j

/-- No handler that wrote READY was refused as a duplicate. -/
def ReadyAttaches (s : State) : Prop := s.refusedReady = []

/-- A reservation is made when every handler that attached the same id has ended. -/
def Settled (s : State) : Act → Prop
  | .reserveCommit i => ∀ j, s.phase j = .promoted → s.leg j ≠ s.leg i
  | _ => True

end Model

section Handlers

variable {hs : Nat → Handler} {h' : Handler} {i j : Nat} {p : Phase} {id : LegID}
variable {reserved : List (LegID × Nat)} {legs : List LegID} {mu : Option Nat}

/-- The reservations are those of the handlers that hold one, one for an id. -/
structure Matches (hs : Nat → Handler) (reserved : List (LegID × Nat)) : Prop where
  nodup : (reserved.map Prod.fst).Nodup
  mem_iff : ∀ id i, (id, i) ∈ reserved ↔ (hs i).leg = id ∧ (hs i).phase.holds = true

/-- Nobody holds the id of a handler whose release is still to come after its attach. -/
def NoneBehind (hs : Nat → Handler) : Prop :=
  ∀ i j, (hs i).phase = .promoted → (hs j).phase.holds = true → (hs i).leg ≠ (hs j).leg

/-- Who is inside `reserveLeg` has the lock, and its id is free. -/
def InCheck (hs : Nat → Handler) (mu : Option Nat) (legs : List LegID)
    (reserved : List (LegID × Nat)) : Prop :=
  ∀ i, (hs i).phase = .reserving →
    mu = some i ∧ (hs i).leg ∉ legs ∧ (hs i).leg ∉ reserved.map Prod.fst

/-- The Core does not have the legs that are being admitted. -/
def Absent (hs : Nat → Handler) (legs : List LegID) : Prop :=
  ∀ i, (hs i).phase.admitting = true → (hs i).leg ∉ legs

theorem Phase.holds_of_admitting (h : p.admitting = true) : p.holds = true := by
  cases p <;> first | rfl | cases h

namespace Matches

theorem mem_self (h : Matches hs reserved) (hi : (hs i).phase.holds = true) :
    ((hs i).leg, i) ∈ reserved :=
  (h.mem_iff _ _).2 ⟨rfl, hi⟩

/-- Two holders of one id are the same. -/
theorem eq_of_leg_eq (h : Matches hs reserved) (hi : (hs i).phase.holds = true)
    (hj : (hs j).phase.holds = true) (hleg : (hs i).leg = (hs j).leg) : i = j := by
  have hentry := inj_on_of_nodup_map h.nodup (h.mem_self hi) (h.mem_self hj) hleg
  exact congrArg Prod.snd hentry

theorem update (h : Matches hs reserved) (hholds : h'.phase.holds = (hs i).phase.holds)
    (hleg : h'.phase.holds = true → h'.leg = (hs i).leg) :
    Matches (Function.update hs i h') reserved := by
  refine ⟨h.nodup, fun id j => ?_⟩
  rw [h.mem_iff]
  by_cases hj : j = i
  · subst hj
    rw [Function.update_self, ← hholds]
    constructor
    · rintro ⟨hid, hold⟩
      exact ⟨(hleg hold).trans hid, hold⟩
    · rintro ⟨hid, hold⟩
      exact ⟨(hleg hold).symm.trans hid, hold⟩
  · rw [Function.update_of_ne hj]

theorem insert (h : Matches hs reserved) (hp : p.holds = true)
    (hfree : (hs i).leg ∉ reserved.map Prod.fst) :
    Matches (Function.update hs i { hs i with phase := p }) (((hs i).leg, i) :: reserved) := by
  refine ⟨nodup_cons.2 ⟨hfree, h.nodup⟩, fun id j => ?_⟩
  rw [mem_cons, h.mem_iff]
  by_cases hj : j = i
  · subst hj
    rw [Function.update_self]
    constructor
    · rintro (hself | ⟨hid, -⟩)
      · exact ⟨(congrArg Prod.fst hself).symm, hp⟩
      · exact ⟨hid, hp⟩
    · rintro ⟨hid, -⟩
      exact .inl (by rw [← hid])
  · rw [Function.update_of_ne hj]
    constructor
    · rintro (hself | hother)
      · exact absurd (congrArg Prod.snd hself) hj
      · exact hother
    · exact .inr

theorem remove (h : Matches hs reserved) (hi : (hs i).phase.holds = true) (hp : p.holds = false) :
    Matches (Function.update hs i { hs i with phase := p })
      (remove Prod.fst reserved (hs i).leg) := by
  refine ⟨nodup_remove h.nodup _, fun id j => ?_⟩
  rw [mem_remove_iff, h.mem_iff]
  by_cases hj : j = i
  · subst hj
    rw [Function.update_self]
    constructor
    · rintro ⟨⟨hid, -⟩, hne⟩
      exact absurd hid.symm hne
    · rintro ⟨-, hold⟩
      rw [hp] at hold
      cases hold
  · rw [Function.update_of_ne hj]
    constructor
    · exact And.left
    · rintro ⟨hid, hold⟩
      refine ⟨⟨hid, hold⟩, fun hsame => hj ?_⟩
      exact h.eq_of_leg_eq hold hi (hid.trans hsame)

end Matches

namespace NoneBehind

theorem update (h : NoneBehind hs) (hp : h'.phase ≠ .promoted)
    (hholds : h'.phase.holds = true → h'.leg = (hs i).leg ∧ (hs i).phase.holds = true) :
    NoneBehind (Function.update hs i h') := by
  intro j k hj hk
  have hji : j ≠ i := by
    rintro rfl
    rw [Function.update_self] at hj
    exact hp hj
  rw [Function.update_of_ne hji] at hj ⊢
  by_cases hki : k = i
  · subst hki
    rw [Function.update_self] at hk ⊢
    rw [(hholds hk).1]
    exact h j k hj (hholds hk).2
  · rw [Function.update_of_ne hki] at hk ⊢
    exact h j k hj hk

/-- A reservation that is made when nobody of its id is behind. -/
theorem insert (h : NoneBehind hs) (hp : p ≠ .promoted)
    (hsettled : ∀ j, (hs j).phase = .promoted → (hs j).leg ≠ (hs i).leg) :
    NoneBehind (Function.update hs i { hs i with phase := p }) := by
  intro j k hj hk
  have hji : j ≠ i := by
    rintro rfl
    rw [Function.update_self] at hj
    exact hp hj
  rw [Function.update_of_ne hji] at hj ⊢
  by_cases hki : k = i
  · subst hki
    rw [Function.update_self]
    exact hsettled j hj
  · rw [Function.update_of_ne hki] at hk ⊢
    exact h j k hj hk

/-- The holder of an id gives it back. -/
theorem promote (h : NoneBehind hs) (hm : Matches hs reserved) (hi : (hs i).phase.holds = true) :
    NoneBehind (Function.update hs i { hs i with phase := .promoted }) := by
  intro j k hj hk
  have hki : k ≠ i := by
    rintro rfl
    rw [Function.update_self] at hk
    cases hk
  rw [Function.update_of_ne hki] at hk ⊢
  by_cases hji : j = i
  · subst hji
    rw [Function.update_self]
    exact fun hleg => hki (hm.eq_of_leg_eq hi hk hleg).symm
  · rw [Function.update_of_ne hji] at hj ⊢
    exact h j k hj hk

end NoneBehind

namespace InCheck

theorem update (h : InCheck hs mu legs reserved) (hp : h'.phase ≠ .reserving) :
    InCheck (Function.update hs i h') mu legs reserved := by
  intro j hj
  have hji : j ≠ i := by
    rintro rfl
    rw [Function.update_self] at hj
    exact hp hj
  rw [Function.update_of_ne hji] at hj ⊢
  exact h j hj

theorem mono {legs' : List LegID} {reserved' : List (LegID × Nat)}
    (h : InCheck hs mu legs reserved) (hlegs : legs' ⊆ legs) (hreserved : reserved' ⊆ reserved) :
    InCheck hs mu legs' reserved' := by
  intro j hj
  obtain ⟨hmu, hleg, hfree⟩ := h j hj
  refine ⟨hmu, fun hm => hleg (hlegs hm), fun hm => hfree ?_⟩
  exact map_subset Prod.fst hreserved hm

theorem lock (h : InCheck hs none legs reserved) (hleg : (hs i).leg ∉ legs)
    (hfree : (hs i).leg ∉ reserved.map Prod.fst) :
    InCheck (Function.update hs i { hs i with phase := .reserving }) (some i) legs reserved := by
  intro j hj
  by_cases hji : j = i
  · subst hji
    rw [Function.update_self]
    exact ⟨rfl, hleg, hfree⟩
  · rw [Function.update_of_ne hji] at hj
    cases (h j hj).1

/-- Only one handler is inside, so that nobody is once it has left. -/
theorem unlock (h : InCheck hs mu legs reserved) (hi : (hs i).phase = .reserving)
    (hp : p ≠ .reserving) (reserved' : List (LegID × Nat)) :
    InCheck (Function.update hs i { hs i with phase := p }) none legs reserved' := by
  intro j hj
  by_cases hji : j = i
  · subst hji
    rw [Function.update_self] at hj
    exact absurd hj hp
  · rw [Function.update_of_ne hji] at hj
    have hmu := (h i hi).1
    rw [(h j hj).1] at hmu
    exact absurd (Option.some.inj hmu) hji

theorem attach (h : InCheck hs mu legs reserved) (hm : Matches hs reserved)
    (hi : (hs i).phase.holds = true) : InCheck hs mu ((hs i).leg :: legs) reserved := by
  intro j hj
  obtain ⟨hmu, hleg, hfree⟩ := h j hj
  refine ⟨hmu, fun hmem => ?_, hfree⟩
  rcases mem_cons.1 hmem with hsame | hmem
  · exact hfree (hsame ▸ mem_map_of_mem (hm.mem_self hi))
  · exact hleg hmem

end InCheck

namespace Absent

theorem update (h : Absent hs legs) (hadmitting : h'.phase.admitting = true → h'.leg ∉ legs) :
    Absent (Function.update hs i h') legs := by
  intro j hj
  by_cases hji : j = i
  · subst hji
    rw [Function.update_self] at hj ⊢
    exact hadmitting hj
  · rw [Function.update_of_ne hji] at hj ⊢
    exact h j hj

theorem mono {legs' : List LegID} (h : Absent hs legs) (hlegs : legs' ⊆ legs) : Absent hs legs' :=
  fun j hj hm => h j hj (hlegs hm)

theorem attach (h : Absent hs legs) (hm : Matches hs reserved) (hi : (hs i).phase.holds = true)
    (hp : p.admitting = false) :
    Absent (Function.update hs i { hs i with phase := p }) ((hs i).leg :: legs) := by
  intro j hj hmem
  by_cases hji : j = i
  · subst hji
    rw [Function.update_self] at hj
    rw [hp] at hj
    cases hj
  · rw [Function.update_of_ne hji] at hj hmem
    rcases mem_cons.1 hmem with hsame | hmem
    · exact hji (hm.eq_of_leg_eq (Phase.holds_of_admitting hj) hi hsame)
    · exact h j hj hmem

end Absent

end Handlers

section Invariant

variable {cfg : Config} {s s' : State} {a : Act} {i : Nat} {p : Phase} {id : LegID}

/-- What holds in every state of a run whose reservations are made in settled states. -/
structure Inv (s : State) : Prop where
  reserved : Matches s.handlers s.reserved
  behind : NoneBehind s.handlers
  check : InCheck s.handlers s.legMu s.legs s.reserved
  absent : Absent s.handlers s.legs
  removed : RemovedByOwner s
  ready : ReadyAttaches s

theorem inv_init : Inv init :=
  ⟨⟨nodup_nil, fun _ _ => ⟨nofun, fun h => nomatch h.2⟩⟩, nofun, nofun, nofun, nofun, rfl⟩

theorem Inv.oneAdmitting (h : Inv s) : OneAdmitting s :=
  fun _ _ hi hj hleg =>
    h.reserved.eq_of_leg_eq (Phase.holds_of_admitting hi) (Phase.holds_of_admitting hj) hleg

/-- A handler moves on without a change to what it holds. -/
theorem Inv.setPhase (h : Inv s) (hholds : p.holds = (s.phase i).holds) (hbehind : p ≠ .promoted)
    (hcheck : p ≠ .reserving) (hadmitting : p.admitting = true → s.leg i ∉ s.legs) :
    Inv (s.setPhase i p) :=
  ⟨h.reserved.update hholds fun _ => rfl,
    h.behind.update hbehind fun hp => ⟨rfl, hholds.symm.trans hp⟩,
    h.check.update hcheck, h.absent.update hadmitting, h.removed, h.ready⟩

theorem reserveError_eq_none (h : reserveError cfg s id = none) :
    id ∉ s.reserved.map Prod.fst ∧ id ∉ s.legs := by
  unfold reserveError at h
  split at h
  · cases h
  split at h
  · cases h
  split at h
  · cases h
  · exact ⟨‹_›, ‹_›⟩

theorem MayAttach.admitting (h : MayAttach s i) : (s.phase i).admitting = true := by
  rcases h with h | ⟨h, -⟩
  · rw [h]
    rfl
  · rw [h]
    rfl

/-- The attach of the Core, which never finds the leg of a handler that holds its id. -/
theorem Inv.attachLeg (h : Inv s) (hmay : MayAttach s i) (refused : Bool) :
    Inv (attachLeg s i refused) := by
  have hadmitting := hmay.admitting
  have hholds := Phase.holds_of_admitting hadmitting
  have habsent : s.leg i ∉ s.legs := h.absent i hadmitting
  have hfailed : Inv (s.setPhase i .failed) :=
    h.setPhase hholds.symm nofun nofun nofun
  simp only [LegReservation.attachLeg, if_neg habsent]
  split
  · exact hfailed
  split
  · exact hfailed
  · exact
      ⟨h.reserved.update hholds.symm fun _ => rfl,
        h.behind.update nofun fun _ => ⟨rfl, hholds⟩,
        (h.check.attach h.reserved hholds).update nofun,
        h.absent.attach h.reserved hholds rfl, h.removed, h.ready⟩

theorem Inv.releaseLeg_holder (h : Inv s) (hi : (s.phase i).holds = true) (hp : p.holds = false)
    (hcheck : p ≠ .reserving) (hbehind : NoneBehind (s.setPhase i p).handlers) :
    Inv (releaseLeg (s.setPhase i p) i (s.leg i)) := by
  have hlookup : lookup Prod.fst (s.setPhase i p).reserved (s.leg i) = some (s.leg i, i) :=
    lookup_of_mem h.reserved.nodup (h.reserved.mem_self hi)
  have hadmitting : p.admitting = false := by
    cases p <;> first | rfl | cases hp
  simp only [releaseLeg, hlookup]
  refine ⟨h.reserved.remove hi hp, hbehind, ?_, ?_, ?_, h.ready⟩
  · exact (h.check.update hcheck).mono (fun _ hx => hx) fun _ hx => (mem_remove_iff.1 hx).1
  · refine h.absent.update fun hadm => ?_
    rw [hadmitting] at hadm
    cases hadm
  · rintro r (_ | ⟨_, hr⟩)
    · rfl
    · exact h.removed r hr

/-- The deferred release of a handler that attached finds nothing. -/
theorem Inv.releaseLeg_promoted (h : Inv s) (hi : s.phase i = .promoted) :
    Inv (releaseLeg (s.setPhase i .exited) i (s.leg i)) := by
  have hnone : lookup Prod.fst (s.setPhase i .exited).reserved (s.leg i) = none := by
    refine lookup_eq_none_iff.2 fun hm => ?_
    obtain ⟨⟨id, j⟩, hj, hid⟩ := mem_map.1 hm
    obtain ⟨hleg, hholds⟩ := (h.reserved.mem_iff id j).1 hj
    exact h.behind i j hi hholds (hleg.trans hid).symm
  simp only [releaseLeg, hnone]
  exact h.setPhase (by rw [hi]; rfl) nofun nofun nofun

theorem inv_step (h : Inv s) (hcond : Settled s a) (hs : step cfg s a = some s') : Inv s' := by
  cases a with
  | arrive i leg ingress =>
    obtain ⟨hp, ⟨⟩⟩ := ite_none_right_eq_some.1 hs
    have hholds : (s.handlers i).phase.holds = false := congrArg Phase.holds hp
    exact
      ⟨h.reserved.update hholds.symm nofun, h.behind.update nofun nofun, h.check.update nofun,
        h.absent.update nofun, h.removed, h.ready⟩
  | reserveCheck i =>
    obtain ⟨⟨hp, hmu⟩, heq⟩ := ite_none_right_eq_some.1 hs
    have hholds : (s.handlers i).phase.holds = false := congrArg Phase.holds hp
    split at heq
    · cases heq
      exact h.setPhase hholds.symm nofun nofun nofun
    · rename_i hnone
      cases heq
      obtain ⟨hfree, hleg⟩ := reserveError_eq_none hnone
      have hcheck := h.check
      rw [hmu] at hcheck
      exact
        ⟨h.reserved.update hholds.symm fun _ => rfl, h.behind.update nofun nofun,
          hcheck.lock hleg hfree, h.absent.update nofun, h.removed, h.ready⟩
  | reserveCommit i =>
    obtain ⟨hp, heq⟩ := ite_none_right_eq_some.1 hs
    have hholds : (s.handlers i).phase.holds = false := congrArg Phase.holds hp
    obtain ⟨-, hleg, hfree⟩ := h.check i hp
    split at heq <;> cases heq
    · exact
        ⟨h.reserved.update hholds.symm nofun, h.behind.update nofun nofun,
          h.check.unlock (p := .exited) hp nofun _, h.absent.update nofun, h.removed, h.ready⟩
    · exact
        ⟨h.reserved.insert rfl hfree, h.behind.insert nofun hcond,
          h.check.unlock (p := .reserved) hp nofun _, h.absent.update fun _ => hleg,
          h.removed, h.ready⟩
  | writeReady i ok =>
    obtain ⟨⟨hp, -⟩, heq⟩ := ite_none_right_eq_some.1 hs
    cases heq
    have hleg : s.leg i ∉ s.legs := h.absent i (congrArg Phase.admitting hp)
    have hholds : (s.phase i).holds = true := congrArg Phase.holds hp
    cases ok with
    | false => exact h.setPhase hholds.symm nofun nofun nofun
    | true => exact h.setPhase hholds.symm nofun nofun fun _ => hleg
  | attach i refused =>
    obtain ⟨hmay, ⟨⟩⟩ := ite_none_right_eq_some.1 hs
    exact h.attachLeg hmay refused
  | promote i =>
    obtain ⟨⟨hp, -⟩, heq⟩ := ite_none_right_eq_some.1 hs
    cases heq
    have hholds : (s.phase i).holds = true := congrArg Phase.holds hp
    exact h.releaseLeg_holder hholds rfl nofun (h.behind.promote h.reserved hholds)
  | leave i =>
    obtain ⟨⟨hp, -⟩, heq⟩ := ite_none_right_eq_some.1 hs
    cases heq
    rcases hp with hp | hp
    · exact h.releaseLeg_promoted hp
    · have hholds : (s.phase i).holds = true := congrArg Phase.holds hp
      exact h.releaseLeg_holder hholds rfl nofun (h.behind.update nofun nofun)
  | legFails id =>
    obtain ⟨-, ⟨⟩⟩ := ite_none_right_eq_some.1 hs
    exact
      ⟨h.reserved, h.behind, h.check.mono (filter_subset_self _) (fun _ hx => hx),
        h.absent.mono (filter_subset_self _), h.removed, h.ready⟩
  | coreCloses =>
    cases hs
    exact ⟨h.reserved, h.behind, h.check, h.absent, h.removed, h.ready⟩

end Invariant

section Runs

variable {cfg : Config} {s : State}

/-- In every run whose reservations are made in settled states, a reservation is removed only by
its owner, one handler at a time admits an id, and READY is followed by the attach unless the Core
refuses for a reason of its own. -/
theorem reservations_exclusive {acts : List Act} (hcond : EachStep (step cfg) Settled init acts)
    (hrun : runActs (step cfg) init acts = some s) :
    RemovedByOwner s ∧ OneAdmitting s ∧ ReadyAttaches s := by
  have hinv : Inv s :=
    invariant_of_eachStep (fun _ _ _ hinv hcond hs => inv_step hinv hcond hs) inv_init hcond
      hrun
  exact ⟨hinv.removed, hinv.oneAdmitting, hinv.ready⟩

/-- A handler of leg 0 up to its reservation. -/
def reserves (i : Nat) : List Act :=
  [.arrive i 0 .negotiated, .reserveCheck i, .reserveCommit i]

/-- The handler answers and attaches. -/
def attaches (i : Nat) : List Act :=
  [.writeReady i true, .attach i false, .promote i]

def twoLegs : Config := { mode := .stream, maxActiveLegs := 2 }

/-- Handler 0 attaches leg 0 and is still busy when the leg fails; handler 1 reserves the leg and
answers; handler 0 ends and removes the reservation, and handler 2 makes its own. -/
def staleRelease : List Act :=
  reserves 0 ++ attaches 0 ++ [.legFails 0] ++ reserves 1 ++ [.writeReady 1 true, .leave 0] ++
    reserves 2

/-- The release of handler 0 removes the reservation of handler 1; two handlers then admit leg 0,
and handler 1, which wrote READY, is refused as a duplicate. -/
theorem staleRelease_refuses :
    ∃ s t, runActs (step twoLegs) init staleRelease = some s ∧
      (0, 1) ∈ s.removals ∧ ¬ RemovedByOwner s ∧ ¬ OneAdmitting s ∧
      runActs (step twoLegs) init (staleRelease ++ attaches 2 ++ [.attach 1 false]) = some t ∧
      t.refusedReady = [1] ∧ ¬ ReadyAttaches t := by
  refine ⟨_, _, rfl, by decide, fun h => ?_, fun h => ?_, rfl, rfl, nofun⟩
  · exact absurd (h (0, 1) (by decide)) (by decide)
  · exact absurd (h 1 2 rfl rfl rfl) (by decide)

/-- A reservation that finds no handler between its two releases. -/
theorem settled_reserves {t : State} {i : Nat}
    (hrun : runActs (step cfg) s [.arrive i 0 .negotiated, .reserveCheck i] = some t)
    (hnone : ∀ j, t.phase j ≠ .promoted) : EachStep (step cfg) Settled s (reserves i) := by
  have hsplit : reserves i = [.arrive i 0 .negotiated, .reserveCheck i] ++ [.reserveCommit i] :=
    rfl
  rw [hsplit]
  refine eachStep_append ⟨trivial, fun _ _ => ⟨trivial, fun _ _ => trivial⟩⟩ ?_
  intro t' ht'
  rw [hrun] at ht'
  cases ht'
  exact ⟨fun j hj => absurd hj (hnone j), fun _ _ => trivial⟩

theorem settled_attaches (s : State) (i : Nat) : EachStep (step cfg) Settled s (attaches i) :=
  eachStep_of_forall (by simp [attaches, Settled])

/-- Handler 0 attaches leg 0 and ends, the leg fails, and handler 1 brings it back. -/
theorem reservations_exclusive_rejoin :
    ∃ s, runActs (step twoLegs) init
        (reserves 0 ++ attaches 0 ++ [.legFails 0, .leave 0] ++ reserves 1 ++ attaches 1) = some s ∧
      s.legs = [0] ∧ RemovedByOwner s ∧ OneAdmitting s ∧ ReadyAttaches s := by
  have hcond : EachStep (step twoLegs) Settled init
      (reserves 0 ++ attaches 0 ++ [.legFails 0, .leave 0] ++ reserves 1 ++ attaches 1) := by
    refine eachStep_append (eachStep_append (eachStep_append (eachStep_append ?_ ?_) ?_) ?_) ?_
    · refine settled_reserves rfl fun j => ?_
      match j with
      | 0 => nofun
      | j + 1 => nofun
    · exact fun s _ => settled_attaches s 0
    · exact fun s _ => ⟨trivial, fun _ _ => ⟨trivial, fun _ _ => trivial⟩⟩
    · intro s hs
      cases hs
      refine settled_reserves rfl fun j => ?_
      match j with
      | 0 => nofun
      | 1 => nofun
      | j + 2 => nofun
    · exact fun s _ => settled_attaches s 1
  exact ⟨_, rfl, rfl, reservations_exclusive hcond rfl⟩

end Runs

end Smp3Multipath.Server.LegReservation
