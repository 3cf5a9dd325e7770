import Mathlib
import Smp3Multipath.Native.Probation

/-!
# The verdicts on the primary carrier

The health loop of a connection makes an observation at every tick.  On probation `observeCanary`
counts it, afterwards `observeActiveSuccess`; each has its own counters and its own time of the last
useful observation, but they share `healthyActiveFrom`, the start of the stable window.  A verdict
is to rest on a window without an unhealthy observation and without a long gap between useful ones.

`observeActiveSuccess` knows nothing of the last useful observation of the canary: the gap between
that one and its own first is not looked at.

Times are in nanoseconds.  When a fallback comes, and what the controller decides, is left open.
-/

namespace Smp3Multipath.Native.CarrierVerdict

open Lib.Run List Option
open Probation (Carrier)

section Model

structure Settings where
  evaluationInterval : Int
  warmup : Int
  recoveryStableWindow : Int
  minCanaryUsefulBytes : UInt64
  minCanaryActiveWindows : Nat

def Settings.continuityGrace (settings : Settings) : Int :=
  let grace := 3 * settings.evaluationInterval
  if grace < 2000000000 then 2000000000 else grace

/-- What is used of an `adaptiveDecision`. -/
structure Decision where
  stateHealthy : Bool
  rxPressure : Bool
  txPressure : Bool
  leg1RxUsefulBytes : UInt64
  leg1TxUsefulBytes : UInt64
deriving DecidableEq

def Decision.useful (d : Decision) : UInt64 :=
  d.leg1RxUsefulBytes + d.leg1TxUsefulBytes

/-- The counters of one of the functions; a zero time is `none`. -/
structure Counter where
  usefulBytes : UInt64 := 0
  windows : Nat := 0
  lastUsefulAt : Option Int := none
deriving DecidableEq

inductive Observer where
  | canary
  | active
deriving DecidableEq

structure Conn where
  carrier : Carrier := .primary
  probation : Bool
  /-- Is there a controller, and with it the health loop? -/
  ctrl : Bool := false
  readyAt : Int := 0
  healthyActiveFrom : Option Int := none
  recoveryReported : Bool := false
  activeSuccessSeen : Bool := false
  canary : Counter := {}
  active : Counter := {}

variable (settings : Settings)

def Counter.expired (c : Counter) (now : Int) : Prop :=
  ∃ last ∈ c.lastUsefulAt, settings.continuityGrace < now - last

instance (c : Counter) (now : Int) : Decidable (c.expired settings now) :=
  decidable_of_iff (c.lastUsefulAt.any fun last => decide (settings.continuityGrace < now - last))
    (by simp [Counter.expired, Option.any_eq_true])

/-- How both functions count an observation: the start of the window and the counters. -/
def account (now : Int) (healthy : Bool) (useful : UInt64) (start : Option Int) (c : Counter) :
    Option Int × Counter :=
  if healthy = true ∧ 0 < useful then
    if c.expired settings now then (some now, ⟨useful, 1, some now⟩)
    else (some (start.getD now), ⟨c.usefulBytes + useful, c.windows + 1, some now⟩)
  else if healthy = false ∨ c.expired settings now then (none, {})
  else (start, c)

def reached (now : Int) (start : Option Int) (c : Counter) : Bool :=
  start.any (fun start => decide (settings.recoveryStableWindow ≤ now - start)) &&
    decide (settings.minCanaryUsefulBytes ≤ c.usefulBytes) &&
    decide (settings.minCanaryActiveWindows ≤ c.windows)

def canaryHealthy (d : Decision) : Bool :=
  d.stateHealthy && !d.rxPressure && !d.txPressure

def observeCanary (now : Int) (d : Decision) (s : Conn) : Conn × Bool :=
  if s.probation = false ∨ s.recoveryReported = true then (s, false)
  else
    let (start, c) := account settings now (canaryHealthy d) d.useful s.healthyActiveFrom s.canary
    let s := { s with healthyActiveFrom := start, canary := c }
    if reached settings now start c then
      ({ s with recoveryReported := true, probation := false }, true)
    else (s, false)

def activeHealthy (now readyAt : Int) (d : Decision) : Bool :=
  d.stateHealthy && !d.rxPressure && !d.txPressure && decide (settings.warmup ≤ now - readyAt)

def observeActiveSuccess (now readyAt : Int) (d : Decision) (s : Conn) : Conn × Bool :=
  if s.probation = true ∨ s.activeSuccessSeen = true ∨ s.carrier ≠ .primary then (s, false)
  else
    let (start, c) :=
      account settings now (activeHealthy settings now readyAt d) d.useful s.healthyActiveFrom s.active
    let s := { s with healthyActiveFrom := start, active := c }
    if reached settings now start c then ({ s with activeSuccessSeen := true }, true)
    else (s, false)

def markLegReady (now : Int) (s : Conn) : Conn :=
  if s.carrier ≠ .primary ∨ s.ctrl = true then s
  else
    { s with
      readyAt := now, healthyActiveFrom := none, recoveryReported := false
      activeSuccessSeen := false, canary := {}, active := {}, ctrl := true }

def switchToFallback (s : Conn) : Conn :=
  if s.carrier ≠ .primary then s
  else
    { s with
      carrier := .fallback, probation := false, ctrl := false, healthyActiveFrom := none }

/-- An observation, as the function that counted it judged it. -/
structure Observation where
  time : Int
  healthy : Bool
  useful : UInt64
  observer : Observer
deriving DecidableEq

structure State where
  conn : Conn
  /-- The observations, the last one first. -/
  history : List Observation := []
  /-- The verdict of the last observation. -/
  verdict : Option Observer := none

inductive Act where
  | ready (now : Int)
  /-- A tick of the health loop. -/
  | observe (now : Int) (d : Decision)
  | fallback

def step (s : State) : Act → Option State
  | .ready now => some { s with conn := markLegReady now s.conn, verdict := none }
  | .observe now d =>
    if s.conn.carrier = .primary ∧ s.conn.ctrl = true ∧ ∀ o ∈ s.history, o.time ≤ now then
      if s.conn.probation = true then
        let (conn, reported) := observeCanary settings now d s.conn
        some
          { conn := conn
            history := ⟨now, canaryHealthy d, d.useful, .canary⟩ :: s.history
            verdict := if reported then some .canary else none }
      else
        let (conn, reported) := observeActiveSuccess settings now s.conn.readyAt d s.conn
        some
          { conn := conn
            history :=
              ⟨now, activeHealthy settings now s.conn.readyAt d, d.useful, .active⟩ :: s.history
            verdict := if reported then some .active else none }
    else none
  | .fallback => some { s with conn := switchToFallback s.conn, verdict := none }

end Model

section Specification

variable (settings : Settings)

/-- The times of the useful observations. -/
def usefulTimes (window : List Observation) : List Int :=
  (window.filter fun o => decide (0 < o.useful)).map (·.time)

/-- The useful observations that the function counted. -/
def counted (observer : Observer) (window : List Observation) : List Observation :=
  window.filter fun o => decide (o.observer = observer ∧ 0 < o.useful)

def usefulBytes (observer : Observer) (window : List Observation) : Nat :=
  ((counted observer window).map (·.useful.toNat)).sum

/-- The window begins with an observation at `start` and has all that came after that time, none of
them is unhealthy, and there is no gap longer than the grace.  Others at the very time `start` may
be among the older ones. -/
structure Unbroken (start now : Int) (window older : List Observation) : Prop where
  begins : ∃ o ∈ window.getLast?, o.time = start
  older : ∀ o ∈ older, o.time ≤ start
  within : ∀ o ∈ window, start ≤ o.time ∧ o.time ≤ now
  healthy : ∀ o ∈ window, o.healthy = true
  gaps : (now :: usefulTimes window ++ [start]).IsChain
    fun later earlier => later - earlier ≤ settings.continuityGrace

/-- A verdict of the function at time `now` rests on continuous evidence. -/
def Founded (observer : Observer) (history : List Observation) (now : Int) : Prop :=
  ∃ start window older, history = window ++ older ∧
    Unbroken settings start now window older ∧
    settings.recoveryStableWindow ≤ now - start ∧
    settings.minCanaryUsefulBytes.toNat ≤ usefulBytes observer window ∧
    settings.minCanaryActiveWindows ≤ (counted observer window).length

/-- The last verdict is founded at the time of the last observation. -/
def VerdictFounded (s : State) : Prop :=
  ∀ observer ∈ s.verdict, ∃ o ∈ s.history.head?, Founded settings observer s.history o.time

/-- Until it has a useful observation of its own, `observeActiveSuccess` makes its healthy ones
within the grace of the last useful one of the canary. -/
def Bridged (s : State) : Act → Prop
  | .observe now d =>
    s.conn.probation = false → s.conn.active.lastUsefulAt = none →
      s.conn.healthyActiveFrom ≠ none → activeHealthy settings now s.conn.readyAt d = true →
      ∀ last ∈ s.conn.canary.lastUsefulAt, now - last ≤ settings.continuityGrace
  | _ => True

instance (s : State) (a : Act) : Decidable (Bridged settings s a) := by
  cases a <;> unfold Bridged <;> infer_instance

end Specification

section Evidence

variable {settings : Settings} {s s' : State} {a : Act} {t now : Int} {observer : Observer}
  {c : Counter} {start before : Option Int} {window older history : List Observation}
  {o : Observation}

/-- The counters of a function are covered by the window. -/
structure Covers (observer : Observer) (c : Counter) (window : List Observation) : Prop where
  bytes : c.usefulBytes.toNat ≤ usefulBytes observer window
  windows : c.windows ≤ (counted observer window).length

/-- The start of the window and the counters tell of an unbroken window; `before` is the last useful
observation before the ones counted.  Without a start the counters are empty. -/
structure Tells (settings : Settings) (observer : Observer) (c : Counter) (start before : Option Int)
    (now : Int) (history : List Observation) : Prop where
  empty : start = none → c = {}
  unbroken : ∀ f ∈ start, ∃ window older, history = window ++ older ∧
    Unbroken settings f now window older ∧ Covers observer c window ∧
    ∃ l ∈ c.lastUsefulAt.or before, ∃ rest, usefulTimes window = l :: rest

theorem continuityGrace_nonneg : 0 ≤ settings.continuityGrace := by
  unfold Settings.continuityGrace
  dsimp only
  split <;> omega

theorem usefulTimes_cons :
    usefulTimes (o :: window) =
      if 0 < o.useful then o.time :: usefulTimes window else usefulTimes window := by
  simp only [usefulTimes, filter_cons, decide_eq_true_eq]
  split <;> rfl

theorem covers_zero : Covers observer {} window :=
  ⟨Nat.zero_le _, Nat.zero_le _⟩

theorem Covers.idle (h : Covers observer c window) (ho : ¬ 0 < o.useful) :
    Covers observer c (o :: window) := by
  have hcount : counted observer (o :: window) = counted observer window :=
    filter_cons_of_neg (by simp [ho])
  exact ⟨by simpa only [usefulBytes, hcount] using h.bytes, by rw [hcount]; exact h.windows⟩

/-- A useful observation that is counted; the counter of bytes may wrap around. -/
theorem Covers.cons (h : Covers observer c window) (ho : 0 < o.useful)
    (hobserver : o.observer = observer) (last : Option Int) :
    Covers observer ⟨c.usefulBytes + o.useful, c.windows + 1, last⟩ (o :: window) := by
  have hcount : counted observer (o :: window) = o :: counted observer window :=
    filter_cons_of_pos (by simp [ho, hobserver])
  refine ⟨?_, ?_⟩
  · have hbytes := h.bytes
    have hmod : (c.usefulBytes + o.useful).toNat ≤ c.usefulBytes.toNat + o.useful.toNat := by
      rw [UInt64.toNat_add]
      exact Nat.mod_le _ _
    simp only [usefulBytes, hcount, map_cons, sum_cons] at hbytes ⊢
    omega
  · rw [hcount]
    exact Nat.succ_le_succ h.windows

/-- A window that starts with a useful observation. -/
theorem tells_first (hold : ∀ u ∈ history, u.time ≤ o.time) (hhealthy : o.healthy = true)
    (ho : 0 < o.useful) (hobserver : o.observer = observer) :
    Tells settings observer ⟨o.useful, 1, some o.time⟩ (some o.time) before o.time
      (o :: history) := by
  refine ⟨nofun, fun f hf => ⟨[o], history, rfl, ?_, ?_, ?_⟩⟩
  · cases hf
    refine ⟨⟨o, rfl, rfl⟩, hold, by simp, by simpa using hhealthy, ?_⟩
    simp [usefulTimes, ho, continuityGrace_nonneg]
  · have hcovers := (@covers_zero observer []).cons ho hobserver (some o.time)
    simpa using hcovers
  · exact ⟨o.time, rfl, [], by simp [usefulTimes, ho]⟩

/-- What is not expired is within the grace, also before the first useful observation counted. -/
theorem within_grace {l : Int} (hexpired : ¬ c.expired settings now)
    (hbefore : c.lastUsefulAt = none → ∀ l ∈ before, now - l ≤ settings.continuityGrace)
    (hl : l ∈ c.lastUsefulAt.or before) : now - l ≤ settings.continuityGrace := by
  cases hlast : c.lastUsefulAt with
  | none =>
    rw [hlast] at hl
    exact hbefore hlast l hl
  | some last =>
    rw [hlast] at hl
    cases hl
    exact Int.not_lt.1 fun hlt => hexpired ⟨_, hlast, hlt⟩

/-- A healthy observation within the grace of the last useful one goes on with the window. -/
theorem Unbroken.cons {f l : Int} {rest : List Int} (h : Unbroken settings f t window older)
    (hold : ∀ u ∈ window, u.time ≤ o.time) (hhealthy : o.healthy = true)
    (htimes : usefulTimes window = l :: rest) (hgap : o.time - l ≤ settings.continuityGrace) :
    Unbroken settings f o.time (o :: window) older := by
  have htail : (o.time :: usefulTimes window ++ [f]).IsChain
      fun later earlier => later - earlier ≤ settings.continuityGrace := by
    have hgaps := h.gaps
    rw [htimes] at hgaps ⊢
    exact hgaps.tail.cons_cons hgap
  obtain ⟨u, hu, _⟩ : ∃ u ∈ window, u.time = l := by
    have hl : l ∈ usefulTimes window := htimes ▸ mem_cons_self
    obtain ⟨u, hu, hut⟩ := mem_map.1 hl
    exact ⟨u, (mem_filter.1 hu).1, hut⟩
  have hf : f ≤ o.time := Int.le_trans (h.within u hu).1 (hold u hu)
  refine ⟨?_, h.older, fun v hv => ?_, fun v hv => ?_, ?_⟩
  · obtain ⟨v, hv, hvt⟩ := h.begins
    refine ⟨v, ?_, hvt⟩
    rw [getLast?_cons, mem_def.1 hv]
    rfl
  · rcases mem_cons.1 hv with rfl | hv
    · exact ⟨hf, Int.le_refl _⟩
    · exact ⟨(h.within v hv).1, hold v hv⟩
  · rcases mem_cons.1 hv with rfl | hv
    · exact hhealthy
    · exact h.healthy v hv
  · rw [usefulTimes_cons]
    split
    · refine htail.cons_cons ?_
      simpa using continuityGrace_nonneg
    · exact htail

/-- What both functions keep. -/
theorem Tells.account {healthy : Bool} {useful : UInt64}
    (h : Tells settings observer c start before t history) (hold : ∀ o ∈ history, o.time ≤ now)
    (hbefore : healthy = true → c.lastUsefulAt = none → start ≠ none →
      ∀ l ∈ before, now - l ≤ settings.continuityGrace) :
    Tells settings observer (account settings now healthy useful start c).2
      (account settings now healthy useful start c).1 before now
      (⟨now, healthy, useful, observer⟩ :: history) := by
  unfold CarrierVerdict.account
  split
  · next hu =>
    obtain ⟨hhealthy, hu⟩ := hu
    have hfirst := @tells_first settings observer before history ⟨now, healthy, useful, observer⟩
      hold hhealthy hu rfl
    split
    · exact hfirst
    · next hexpired =>
      cases start with
      | none =>
        cases h.empty rfl
        simpa using hfirst
      | some f =>
        refine ⟨nofun, fun f' hf => ?_⟩
        cases hf
        obtain ⟨window, older, rfl, hun, hcov, l, hl, rest, htimes⟩ := h.unbroken f rfl
        have hgap := within_grace hexpired (fun hnone => hbefore hhealthy hnone nofun) hl
        have hun' := @Unbroken.cons _ t window older ⟨now, healthy, useful, observer⟩ _ _ _ hun
          (fun u hu => hold u (mem_append_left _ hu)) hhealthy htimes hgap
        refine ⟨_ :: window, older, rfl, hun',
          hcov.cons (o := ⟨now, healthy, useful, observer⟩) hu rfl _, now, rfl, usefulTimes window, ?_⟩
        rw [usefulTimes_cons, if_pos hu]
  · next hidle =>
    split
    · exact ⟨fun _ => rfl, nofun⟩
    · next hkeep =>
      obtain ⟨hhealthy, hexpired⟩ := not_or.1 hkeep
      have hhealthy : healthy = true := by simpa using hhealthy
      have hu : ¬ 0 < useful := fun hu => hidle ⟨hhealthy, hu⟩
      refine ⟨h.empty, fun f hf => ?_⟩
      obtain ⟨window, older, rfl, hun, hcov, l, hl, rest, htimes⟩ := h.unbroken f hf
      have hstart : start ≠ none := fun hnone => by simp [hnone] at hf
      have hgap := within_grace hexpired (fun hnone => hbefore hhealthy hnone hstart) hl
      have hun' := @Unbroken.cons _ t window older ⟨now, healthy, useful, observer⟩ _ _ _ hun
        (fun u hu => hold u (mem_append_left _ hu)) hhealthy htimes hgap
      refine ⟨_ :: window, older, rfl, hun', hcov.idle hu, l, hl, rest, ?_⟩
      rw [usefulTimes_cons, if_neg hu]
      exact htimes

theorem Tells.founded (h : Tells settings observer c start before now history)
    (hreached : reached settings now start c = true) : Founded settings observer history now := by
  simp only [reached, Bool.and_eq_true, decide_eq_true_eq, Option.any_eq_true] at hreached
  obtain ⟨⟨⟨f, hf, hstable⟩, hbytes⟩, hwindows⟩ := hreached
  obtain ⟨window, older, hsplit, hun, hcov, _⟩ := h.unbroken f hf
  exact ⟨f, window, older, hsplit, hun, hstable,
    Nat.le_trans (UInt64.le_iff_toNat_le.1 hbytes) hcov.bytes,
    Nat.le_trans hwindows hcov.windows⟩

/-- On probation the canary tells of the window, and nothing was counted elsewhere; afterwards the
other function does, with the last useful observation of the canary before its own. -/
structure Inv (settings : Settings) (s : State) : Prop where
  fresh : s.conn.probation = true →
    s.conn.recoveryReported = false ∧ s.conn.activeSuccessSeen = false ∧ s.conn.active = {}
  canary : s.conn.carrier = .primary → s.conn.probation = true →
    ∃ t, Tells settings .canary s.conn.canary s.conn.healthyActiveFrom none t s.history
  active : s.conn.carrier = .primary → s.conn.probation = false →
    s.conn.activeSuccessSeen = false →
    ∃ t, Tells settings .active s.conn.active s.conn.healthyActiveFrom s.conn.canary.lastUsefulAt t
      s.history

theorem tells_none : Tells settings observer {} none before t history :=
  ⟨fun _ => rfl, nofun⟩

theorem Tells.handOver (h : Tells settings .canary c start none t history) :
    Tells settings .active {} start c.lastUsefulAt t history := by
  refine ⟨fun _ => rfl, fun f hf => ?_⟩
  obtain ⟨window, older, hsplit, hun, _, hlast⟩ := h.unbroken f hf
  rw [or_none] at hlast
  exact ⟨window, older, hsplit, hun, covers_zero, hlast⟩

theorem inv_step (h : Inv settings s) (hbridged : Bridged settings s a)
    (hstep : step settings s a = some s') : Inv settings s' ∧ VerdictFounded settings s' := by
  cases a with
  | ready now =>
    cases hstep
    refine ⟨?_, nofun⟩
    unfold markLegReady
    split
    · exact ⟨h.fresh, h.canary, h.active⟩
    · exact ⟨fun _ => ⟨rfl, rfl, rfl⟩, fun _ _ => ⟨now, tells_none⟩, fun _ _ _ => ⟨now, tells_none⟩⟩
  | fallback =>
    cases hstep
    refine ⟨?_, nofun⟩
    unfold switchToFallback
    split
    · exact ⟨h.fresh, h.canary, h.active⟩
    · exact ⟨nofun, nofun, nofun⟩
  | observe now d =>
    obtain ⟨⟨hprimary, _, hold⟩, hstep⟩ := ite_none_right_eq_some.1 hstep
    split at hstep
    · next hprobation =>
      obtain ⟨hreported, hseen, hactive⟩ := h.fresh hprobation
      obtain ⟨t, htells⟩ := h.canary hprimary hprobation
      have htells' := @Tells.account _ _ now _ _ _ _ _ (canaryHealthy d) d.useful htells hold
        fun _ _ _ => nofun
      have hcalled : ¬ (s.conn.probation = false ∨ s.conn.recoveryReported = true) := by
        simp [hprobation, hreported]
      simp only [observeCanary, if_neg hcalled] at hstep
      generalize account settings now (canaryHealthy d) d.useful s.conn.healthyActiveFrom
        s.conn.canary = r at hstep htells'
      by_cases hreached : reached settings now r.1 r.2 = true
      · rw [if_pos hreached] at hstep
        cases hstep
        refine ⟨⟨nofun, nofun, fun _ _ _ => ⟨now, ?_⟩⟩, fun _ hv => ?_⟩
        · simpa only [hactive] using htells'.handOver
        · cases hv
          exact ⟨_, rfl, htells'.founded hreached⟩
      · rw [if_neg hreached] at hstep
        cases hstep
        refine ⟨⟨fun _ => ⟨hreported, hseen, hactive⟩, fun _ _ => ⟨now, htells'⟩, fun _ hp => ?_⟩,
          nofun⟩
        rw [show s.conn.probation = false from hp] at hprobation
        cases hprobation
    · next hprobation =>
      have hprobation : s.conn.probation = false := by simpa using hprobation
      cases hseen : s.conn.activeSuccessSeen with
      | true =>
        simp only [observeActiveSuccess, hseen, true_or, or_true, if_true] at hstep
        cases hstep
        refine ⟨⟨fun hp => ?_, fun _ hp => ?_, fun _ _ hs => ?_⟩, nofun⟩
        · simp [hprobation] at hp
        · simp [hprobation] at hp
        · simp [hseen] at hs
      | false =>
        obtain ⟨t, htells⟩ := h.active hprimary hprobation hseen
        have htells' := @Tells.account _ _ now _ _ _ _ _
          (activeHealthy settings now s.conn.readyAt d) d.useful htells hold
          fun hhealthy hnone hstart => hbridged hprobation hnone hstart hhealthy
        have hcalled : ¬ (s.conn.probation = true ∨ s.conn.activeSuccessSeen = true ∨
            s.conn.carrier ≠ .primary) := by
          simp [hprobation, hseen, hprimary]
        simp only [observeActiveSuccess, if_neg hcalled] at hstep
        generalize account settings now (activeHealthy settings now s.conn.readyAt d) d.useful
          s.conn.healthyActiveFrom s.conn.active = r at hstep htells'
        have hnot : ¬ s.conn.probation = true := by simp [hprobation]
        by_cases hreached : reached settings now r.1 r.2 = true
        · rw [if_pos hreached] at hstep
          cases hstep
          refine ⟨⟨fun hp => absurd hp hnot, fun _ hp => absurd hp hnot, nofun⟩, fun _ hv => ?_⟩
          cases hv
          exact ⟨_, rfl, htells'.founded hreached⟩
        · rw [if_neg hreached] at hstep
          cases hstep
          exact ⟨⟨fun hp => absurd hp hnot, fun _ hp => absurd hp hnot, fun _ _ _ => ⟨now, htells'⟩⟩,
            nofun⟩

end Evidence

/-- Along every run that bridges the change of the functions, every verdict is founded, whether the
connection starts on probation or not. -/
theorem verdicts_founded (settings : Settings) (probation : Bool) {acts : List Act} {s : State}
    (hbridged : EachStep (step settings) (Bridged settings) { conn := { probation := probation } }
      acts) (hrun : runActs (step settings) { conn := { probation := probation } } acts = some s) :
    VerdictFounded settings s := by
  have hinit : Inv settings { conn := { probation := probation } } ∧
      VerdictFounded settings { conn := { probation := probation } } :=
    ⟨⟨fun _ => ⟨rfl, rfl, rfl⟩, fun _ _ => ⟨0, tells_none⟩, fun _ _ _ => ⟨0, tells_none⟩⟩, nofun⟩
  exact (invariant_of_eachStep (fun _ _ _ h hb hs => inv_step h.1 hb hs) hinit hbridged hrun).2

def shortSettings : Settings :=
  { evaluationInterval := 1000000000
    warmup := 0
    recoveryStableWindow := 5000000000
    minCanaryUsefulBytes := 10
    minCanaryActiveWindows := 2 }

/-- A healthy observation at that second, with that many useful bytes. -/
def tick (second : Int) (bytes : UInt64) : Act :=
  .observe (second * 1000000000) ⟨true, false, false, bytes, 0⟩

/-- The canary reports its recovery at second 5. -/
def recoveredRun : List Act :=
  [.ready 0, tick 0 5, tick 1 5, tick 2 5, tick 3 5, tick 4 5, tick 5 5]

def bridgedRun : List Act :=
  recoveredRun ++ [tick 6 5, tick 7 5]

theorem verdicts_founded_bridged :
    ∃ s, runActs (step shortSettings) { conn := { probation := true } } bridgedRun = some s ∧
      s.verdict = some .active ∧ VerdictFounded shortSettings s :=
  ⟨_, rfl, rfl, @verdicts_founded shortSettings true bridgedRun _ (by decide) rfl⟩

theorem not_isChain_of_gap {grace start l : Int} {rest us : List Int} (hstart : start + grace < l)
    (hgrace : 0 ≤ grace) (hus : ∀ t ∈ us, t ≤ start) (hrest : ∀ t ∈ rest, t + grace < l) :
    ∀ {pre ts : List Int}, ts ++ us = pre ++ l :: rest →
      ¬ (ts ++ [start]).IsChain fun later earlier => later - earlier ≤ grace := by
  intro pre
  induction pre with
  | nil =>
    intro ts heq hchain
    cases ts with
    | nil =>
      have hle := hus l (by rw [nil_append] at heq; simp [heq])
      omega
    | cons t ts =>
      obtain ⟨rfl, rfl⟩ := List.cons.inj heq
      cases ts with
      | nil =>
        have hgap := isChain_cons_cons.1 hchain
        omega
      | cons t' ts =>
        have hgap := (isChain_cons_cons.1 hchain).1
        have hlt := hrest t' mem_cons_self
        omega
  | cons p pre ih =>
    intro ts heq hchain
    cases ts with
    | nil =>
      have hle := hus l (by rw [nil_append] at heq; simp [heq])
      omega
    | cons t ts => exact ih (List.cons.inj heq).2 hchain.tail

/-- After the recovery the carrier is idle for longer than the grace. -/
def idleRun : List Act :=
  recoveredRun ++ [tick 6 0, tick 7 0, tick 8 0, tick 9 5, tick 10 5]

theorem idleRun_verdict :
    ((runActs (step shortSettings) { conn := { probation := true } } idleRun).any fun s =>
      decide (s.verdict = some .active ∧ (∀ o ∈ s.history.head?, o.time = 10000000000) ∧
        usefulTimes s.history = [10000000000] ++ 9000000000 ::
          [5000000000, 4000000000, 3000000000, 2000000000, 1000000000, 0])) = true := by
  decide

/-- The active function reports a success with its second useful observation. -/
theorem idle_gap_counts :
    ∃ s, runActs (step shortSettings) { conn := { probation := true } } idleRun = some s ∧
      ¬ VerdictFounded shortSettings s := by
  obtain ⟨s, hrun, hs⟩ := (Option.any_eq_true ..).1 idleRun_verdict
  obtain ⟨hverdict, hnow, htimes⟩ := of_decide_eq_true hs
  refine ⟨s, hrun, fun hfounded => ?_⟩
  obtain ⟨o, ho, start, window, older, hsplit, hun, hstable, _⟩ := hfounded .active hverdict
  rw [hnow o ho] at hstable
  have hstart : start ≤ 5000000000 := by
    have hstable : (5000000000 : Int) ≤ 10000000000 - start := hstable
    omega
  have hgrace : shortSettings.continuityGrace = 3000000000 := by decide
  have happend : usefulTimes window ++ usefulTimes older = usefulTimes s.history := by
    rw [hsplit, usefulTimes, usefulTimes, usefulTimes, filter_append, map_append]
  refine not_isChain_of_gap (by rw [hgrace]; omega) continuityGrace_nonneg (fun t ht => ?_)
    (fun t ht => ?_) (happend.trans htimes) hun.gaps.tail
  · obtain ⟨u, hu, rfl⟩ := mem_map.1 ht
    exact hun.older u (mem_filter.1 hu).1
  · rw [hgrace]
    revert t ht
    decide

end Smp3Multipath.Native.CarrierVerdict
