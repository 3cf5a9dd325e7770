import Smp3Multipath.Core.StreamTx
import Smp3Multipath.Lib.Run

/-!
# The startup gate

The first payload of a stream waits in `await` for the preferred leg, or for another leg and
the end of a grace period, or for the mark that the preferred leg will not come.  `await`
reads the leg table entry by entry and blocks on a channel of one token; a leg is put into the
table first and its `notify` posts the token later.

What `await` has read is stale by the time it blocks.  The invariant says for each point of
its loop what every change since the reading has left behind: a token, or a `notify` that has
not finished.
-/

namespace Smp3Multipath.Core.StartupGate

open Lib.Run Function List

section Model

structure Config where
  maxActiveLegs : Nat
  preferred : LegID
  grace : Nat

/-- `StreamStartupReleaseReason`. -/
inductive Reason where
  | preferredArrivedWithinGrace
  | preferredAttachedBeforeNonPreferred
  | preferredAlreadyAttached
  | preferredTerminalUnavailable
  | graceExpired
deriving DecidableEq

/-- The release is for the preferred leg. -/
def Reason.forPreferred : Reason → Bool
  | .preferredTerminalUnavailable | .graceExpired => false
  | _ => true

/-- A call of `notify`: before its first test, or about to post. -/
inductive Notifier where
  | entering (id : Option LegID)
  | posting
deriving DecidableEq

/-- Where `await` is. -/
inductive Await where
  | outside
  | top
  /-- In `hasOtherReady`, with what it read of the preferred leg. -/
  | scanning (preferredReady : Bool) (rest : List LegID)
  | deciding (preferredReady nonPreferredReady : Bool)
  /-- Past the test of the terminal mark. -/
  | arming (nonPreferredReady : Bool)
  | selecting
  | returned (released : Bool)
deriving DecidableEq

inductive Timer where
  | none
  | running
  | fired
deriving DecidableEq

/-- A release, with the leg table that the check before it found another leg in. -/
structure Release where
  reason : Reason
  table : LegID → Bool

structure State where
  legs : LegID → Bool
  notifiers : List Notifier
  /-- The gate's own record of legs that attached. -/
  attached : LegID → Bool
  preferredBeforeNonPreferred : Bool
  terminal : Bool
  wake : Bool
  released : Bool
  graceStarted : Bool
  await : Await
  timer : Timer
  graceExpired : Bool
  done : Bool
  closing : Bool
  /-- The table in which `hasOtherReady` last found a leg. -/
  found : LegID → Bool
  releases : List Release

inductive Act where
  | enter
  | check
  | scan
  | decide
  | arm
  | selectDone
  | selectClosing
  | selectWake
  | selectTimer
  | attachLeg (id : LegID)
  | detach (id : LegID)
  | notify (i : Nat)
  | markTerminalUnavailable (id : LegID)
  | fire
  | engineDone
  | startClose
deriving DecidableEq

def start : State :=
  { legs := fun _ => false
    notifiers := []
    attached := fun _ => false
    preferredBeforeNonPreferred := false
    terminal := false
    wake := false
    released := false
    graceStarted := false
    await := .outside
    timer := .none
    graceExpired := false
    done := false
    closing := false
    found := fun _ => false
    releases := [] }

variable (cfg : Config)

/-- The ids that `hasOtherReady` looks up. -/
def otherLegs : List LegID :=
  (List.range cfg.maxActiveLegs).filter (· ≠ cfg.preferred)

def preferredReleaseReason (s : State) : Reason :=
  if s.graceStarted then .preferredArrivedWithinGrace
  else if s.preferredBeforeNonPreferred then .preferredAttachedBeforeNonPreferred
  else .preferredAlreadyAttached

/-- `release`, and the return of `await` after it. -/
def release (s : State) (reason : Reason) : State :=
  if s.released then { s with await := .returned true, timer := .none }
  else
    { s with
      released := true
      await := .returned true
      timer := .none
      releases := s.releases ++ [⟨reason, s.found⟩] }

/-- The steps of `await`. -/
def awaitStep (s : State) : Act → Option State
  | .enter =>
    match s.await with
    | .outside | .returned true =>
      if s.released then some { s with await := .returned true }
      else some { s with await := .top, timer := .none, graceExpired := false }
    | _ => none
  | .check =>
    if s.await = .top then
      if s.released then some { s with await := .returned true, timer := .none }
      else some { s with await := .scanning (s.legs cfg.preferred) (otherLegs cfg) }
    else none
  | .scan =>
    match s.await with
    | .scanning preferredReady (id :: rest) =>
      if s.legs id then some { s with await := .deciding preferredReady true, found := s.legs }
      else some { s with await := .scanning preferredReady rest }
    | .scanning preferredReady [] => some { s with await := .deciding preferredReady false }
    | _ => none
  | .decide =>
    match s.await with
    | .deciding preferredReady nonPreferredReady =>
      if preferredReady then some (release s (preferredReleaseReason s))
      else if nonPreferredReady ∧ s.terminal then some (release s .preferredTerminalUnavailable)
      else some { s with await := .arming nonPreferredReady }
    | _ => none
  | .arm =>
    match s.await with
    | .arming nonPreferredReady =>
      if nonPreferredReady ∧ (cfg.grace = 0 ∨ s.graceExpired) then some (release s .graceExpired)
      else if ¬ nonPreferredReady then
        some { s with await := .selecting, timer := .none, graceExpired := false }
      else if s.timer = .none then
        some { s with await := .selecting, timer := .running, graceStarted := true }
      else some { s with await := .selecting }
    | _ => none
  | .selectDone =>
    if s.await = .selecting ∧ s.done then
      some { s with await := .returned false, timer := .none }
    else none
  | .selectClosing =>
    if s.await = .selecting ∧ s.closing then
      some { s with await := .returned false, timer := .none }
    else none
  | .selectWake =>
    if s.await = .selecting ∧ s.wake then some { s with await := .top, wake := false } else none
  | .selectTimer =>
    if s.await = .selecting ∧ s.timer = .fired then
      some { s with await := .top, timer := .none, graceExpired := true }
    else none
  | _ => none

/-- The next step of a `notify`. -/
def notifyStep (s : State) (i : Nat) : Option State :=
  match s.notifiers[i]? with
  | none => none
  | some (.entering id) =>
    if s.released then some { s with notifiers := s.notifiers.eraseIdx i }
    else
      let s := { s with notifiers := s.notifiers.set i .posting }
      match id with
      | some id =>
        if id < cfg.maxActiveLegs ∧ ¬ s.attached id then
          some { s with
            preferredBeforeNonPreferred := s.preferredBeforeNonPreferred ||
              (id == cfg.preferred && !(otherLegs cfg).any s.attached)
            attached := update s.attached id true }
        else some s
      | none => some s
  | some .posting => some { s with wake := true, notifiers := s.notifiers.eraseIdx i }

/-- The steps around `await`: the legs, the terminal mark, the timer and the engine. -/
def gateStep (s : State) : Act → Option State
  -- `attachLeg` puts the leg into the table and calls `notify` at its end
  | .attachLeg id =>
    if id < cfg.maxActiveLegs ∧ ¬ s.legs id ∧ ¬ s.done then
      some { s with
        legs := update s.legs id true
        notifiers := s.notifiers ++ [.entering (some id)] }
    else none
  | .detach id => some { s with legs := update s.legs id false }
  | .notify i => notifyStep cfg s i
  | .markTerminalUnavailable id =>
    if s.released ∨ id ≠ cfg.preferred then some s
    else some { s with terminal := true, notifiers := s.notifiers ++ [.entering none] }
  | .fire => if s.timer = .running then some { s with timer := .fired } else none
  | .engineDone => some { s with done := true }
  | .startClose => some { s with closing := true }
  | _ => none

def step (s : State) (a : Act) : Option State :=
  match a with
  | .enter | .check | .scan | .decide | .arm | .selectDone | .selectClosing | .selectWake
  | .selectTimer => awaitStep cfg s a
  | _ => gateStep cfg s a

end Model

section Invariant

variable {cfg : Config} {s s' : State}

/-- A wake token is pending, or a `notify` that posts one has not finished. -/
def State.Waking (s : State) : Prop :=
  s.wake = true ∨ s.notifiers ≠ []

/-- A leg other than the preferred one is attached. -/
def State.OtherAttached (cfg : Config) (s : State) : Prop :=
  ∃ id ≠ cfg.preferred, s.legs id = true

/-- What changed since `await` read it has left a wake behind. -/
def AwaitOK (cfg : Config) (s : State) : Await → Prop
  | .scanning preferredReady rest =>
    (preferredReady = false → s.legs cfg.preferred = true → s.Waking) ∧
      (∀ id ∈ rest, id ≠ cfg.preferred) ∧
      ∀ id ≠ cfg.preferred, id ∉ rest → s.legs id = true → s.Waking
  | .deciding preferredReady nonPreferredReady =>
    (preferredReady = false → s.legs cfg.preferred = true → s.Waking) ∧
      (nonPreferredReady = false → s.OtherAttached cfg → s.Waking) ∧
      (nonPreferredReady = true → ∃ id ≠ cfg.preferred, s.found id = true)
  | .arming nonPreferredReady =>
    (s.legs cfg.preferred = true → s.Waking) ∧
      (nonPreferredReady = false → s.OtherAttached cfg → s.Waking) ∧
      (nonPreferredReady = true → ∃ id ≠ cfg.preferred, s.found id = true) ∧
      (nonPreferredReady = true → s.terminal = true → s.Waking)
  | .selecting =>
    (s.legs cfg.preferred = true → s.Waking) ∧
      (s.OtherAttached cfg → s.timer ≠ .none ∨ s.Waking) ∧
      (s.OtherAttached cfg → s.terminal = true → s.Waking)
  | _ => True

/-- `await` is between its test of `released` and its return. -/
def Await.busy : Await → Bool
  | .scanning .. | .deciding .. | .arming _ | .selecting => true
  | _ => false

structure Inv (cfg : Config) (s : State) : Prop where
  legs_lt : ∀ id, s.legs id = true → id < cfg.maxActiveLegs
  unreleased : s.await.busy = true → s.released = false
  releases : s.releases.length = if s.released then 1 else 0
  sighted : ∀ r ∈ s.releases, r.reason.forPreferred = false →
    ∃ id ≠ cfg.preferred, r.table id = true
  await : AwaitOK cfg s s.await

theorem inv_start : Inv cfg start where
  legs_lt id h := by cases h
  unreleased h := by cases h
  releases := rfl
  sighted r h := by cases h
  await := trivial

/-- Legs that come and marks that are set leave a wake behind. -/
theorem AwaitOK.grow {p : Await} (h : AwaitOK cfg s p) (hwaking : s.Waking → s'.Waking)
    (hlegs : ∀ id, s'.legs id = true → s.legs id = true ∨ s'.Waking)
    (hterminal : s'.terminal = true → s.terminal = true ∨ s'.Waking)
    (htimer : s.timer ≠ .none → s'.timer ≠ .none) (hfound : s'.found = s.found) :
    AwaitOK cfg s' p := by
  have hleg : ∀ {id}, (s.legs id = true → s.Waking) → s'.legs id = true → s'.Waking :=
    fun hold hid => (hlegs _ hid).elim (fun hid => hwaking (hold hid)) fun hw => hw
  have hother : (s.OtherAttached cfg → s.Waking) → s'.OtherAttached cfg → s'.Waking := by
    rintro hold ⟨id, hne, hid⟩
    exact hleg (fun hid => hold ⟨id, hne, hid⟩) hid
  cases p with
  | scanning preferredReady rest =>
    exact ⟨fun hp => hleg (h.1 hp), h.2.1, fun id hne hm => hleg (h.2.2 id hne hm)⟩
  | deciding preferredReady nonPreferredReady =>
    exact ⟨fun hp => hleg (h.1 hp), fun hn => hother (h.2.1 hn), hfound ▸ h.2.2⟩
  | arming nonPreferredReady =>
    obtain ⟨hpref, hnone, hseen, hterm⟩ := h
    refine ⟨hleg hpref, fun hn => hother (hnone hn), hfound ▸ hseen, fun hn hmark => ?_⟩
    exact (hterminal hmark).elim (fun hmark => hwaking (hterm hn hmark)) fun hw => hw
  | selecting =>
    obtain ⟨hpref, hgrace, hterm⟩ := h
    refine ⟨hleg hpref, ?_, ?_⟩
    · rintro ⟨id, hne, hid⟩
      rcases hlegs id hid with hid | hw
      · exact (hgrace ⟨id, hne, hid⟩).imp htimer hwaking
      · exact .inr hw
    · rintro ⟨id, hne, hid⟩ hmark
      rcases hlegs id hid with hid | hw
      · rcases hterminal hmark with hmark | hw
        · exact hwaking (hterm ⟨id, hne, hid⟩ hmark)
        · exact hw
      · exact hw
  | _ => trivial

/-- A step outside `await` that leaves a wake for what it changes. -/
theorem Inv.grow (hinv : Inv cfg s) (hawait : s'.await = s.await)
    (hreleased : s'.released = s.released) (hreleases : s'.releases = s.releases)
    (hfound : s'.found = s.found) (hlt : ∀ id, s'.legs id = true → id < cfg.maxActiveLegs)
    (hok : s.released = false → (s.Waking → s'.Waking) ∧
      (∀ id, s'.legs id = true → s.legs id = true ∨ s'.Waking) ∧
      (s'.terminal = true → s.terminal = true ∨ s'.Waking) ∧
      (s.timer ≠ .none → s'.timer ≠ .none)) : Inv cfg s' where
  legs_lt := hlt
  unreleased hbusy := by
    rw [hreleased]
    exact hinv.unreleased (hawait ▸ hbusy)
  releases := by rw [hreleases, hreleased]; exact hinv.releases
  sighted := by rw [hreleases]; exact hinv.sighted
  await := by
    rw [hawait]
    by_cases hbusy : s.await.busy = true
    · obtain ⟨hwaking, hlegs, hterminal, htimer⟩ := hok (hinv.unreleased hbusy)
      exact hinv.await.grow hwaking hlegs hterminal htimer hfound
    · cases hp : s.await <;> first | trivial | simp [hp, Await.busy] at hbusy

theorem inv_notifyStep (hinv : Inv cfg s) {i : Nat} (h : notifyStep cfg s i = some s') :
    Inv cfg s' := by
  unfold notifyStep at h
  split at h
  · cases h
  · next id hi =>
    have hnonempty : s.notifiers.set i .posting ≠ [] := by
      rw [ne_eq, set_eq_nil_iff]
      rintro hnil
      simp [hnil] at hi
    split at h
    · next hreleased =>
      cases h
      refine hinv.grow rfl rfl rfl rfl hinv.legs_lt fun hfree => ?_
      rw [hreleased] at hfree
      cases hfree
    · have hgrow : ∀ {attached : LegID → Bool} {before : Bool}, Inv cfg { s with
          notifiers := s.notifiers.set i .posting
          attached := attached
          preferredBeforeNonPreferred := before } :=
        hinv.grow rfl rfl rfl rfl hinv.legs_lt fun _ =>
          ⟨fun _ => .inr hnonempty, fun _ => .inl, .inl, fun ht => ht⟩
      dsimp only at h
      split at h
      · split at h <;> cases h <;> exact hgrow
      · cases h
        exact hgrow
  · cases h
    exact hinv.grow rfl rfl rfl rfl hinv.legs_lt fun _ =>
      ⟨fun _ => .inl rfl, fun _ => .inl, .inl, fun ht => ht⟩

theorem inv_gateStep (hinv : Inv cfg s) {a : Act} (h : gateStep cfg s a = some s') :
    Inv cfg s' := by
  have hpending : ∀ {n}, s.notifiers ++ [n] ≠ [] := by simp
  cases a with
  | attachLeg id =>
    obtain ⟨⟨hid, _, _⟩, heq⟩ := Option.ite_none_right_eq_some.1 h
    cases heq
    refine hinv.grow rfl rfl rfl rfl (fun i hi => ?_) fun _ =>
      ⟨fun _ => .inr hpending, fun _ _ => .inr (.inr hpending), .inl, fun ht => ht⟩
    dsimp only at hi
    by_cases heq : i = id
    · rwa [heq]
    · rw [update_of_ne heq] at hi
      exact hinv.legs_lt i hi
  | detach id =>
    cases h
    have hold : ∀ i, update s.legs id false i = true → s.legs i = true := by
      intro i hi
      by_cases heq : i = id
      · rw [heq, update_self] at hi
        cases hi
      · rwa [update_of_ne heq] at hi
    exact hinv.grow rfl rfl rfl rfl (fun i hi => hinv.legs_lt i (hold i hi)) fun _ =>
      ⟨fun hw => hw, fun i hi => .inl (hold i hi), .inl, fun ht => ht⟩
  | notify i => exact inv_notifyStep hinv h
  | markTerminalUnavailable id =>
    rw [gateStep] at h
    split at h <;> cases h
    · exact hinv
    · exact hinv.grow rfl rfl rfl rfl hinv.legs_lt fun _ =>
        ⟨fun _ => .inr hpending, fun _ => .inl, fun _ => .inr (.inr hpending), fun ht => ht⟩
  | fire =>
    obtain ⟨_, ⟨⟩⟩ := Option.ite_none_right_eq_some.1 h
    exact hinv.grow rfl rfl rfl rfl hinv.legs_lt fun _ =>
      ⟨fun hw => hw, fun _ => .inl, .inl, fun _ => nofun⟩
  | engineDone | startClose =>
    cases h
    exact hinv.grow rfl rfl rfl rfl hinv.legs_lt fun _ =>
      ⟨fun hw => hw, fun _ => .inl, .inl, fun ht => ht⟩
  | _ => cases h

/-- `await` goes on without a release. -/
theorem Inv.move (hinv : Inv cfg s) {p : Await} {wake expired started : Bool} {timer : Timer}
    {found : LegID → Bool} (hfree : p.busy = true → s.released = false)
    (hp : AwaitOK cfg { s with
      await := p, wake := wake, timer := timer, graceExpired := expired, graceStarted := started
      found := found } p) :
    Inv cfg { s with
      await := p, wake := wake, timer := timer, graceExpired := expired, graceStarted := started
      found := found } where
  legs_lt := hinv.legs_lt
  unreleased := hfree
  releases := hinv.releases
  sighted := hinv.sighted
  await := hp

theorem inv_release (hinv : Inv cfg s) (hfree : s.released = false) {reason : Reason}
    (hseen : reason.forPreferred = false → ∃ id ≠ cfg.preferred, s.found id = true) :
    Inv cfg (release s reason) := by
  have hnone : s.releases = [] := by
    have hlen := hinv.releases
    rw [hfree] at hlen
    exact length_eq_zero_iff.1 hlen
  unfold release
  rw [if_neg (by simp [hfree]), hnone]
  refine ⟨hinv.legs_lt, nofun, rfl, fun r hr => ?_, trivial⟩
  cases mem_singleton.1 hr
  exact hseen

theorem preferredReleaseReason_forPreferred (s : State) :
    (preferredReleaseReason s).forPreferred = true := by
  unfold preferredReleaseReason
  split_ifs <;> rfl

theorem inv_awaitStep (hinv : Inv cfg s) {a : Act} (h : awaitStep cfg s a = some s') :
    Inv cfg s' := by
  have hok := hinv.await
  have hfree := hinv.unreleased
  cases a with
  | enter =>
    rw [awaitStep] at h
    split at h
    · split at h <;> cases h <;> exact hinv.move (fun hbusy => nomatch hbusy) trivial
    · split at h <;> cases h <;> exact hinv.move (fun hbusy => nomatch hbusy) trivial
    · cases h
  | check =>
    obtain ⟨_, heq⟩ := Option.ite_none_right_eq_some.1 h
    split at heq
    · cases heq
      exact hinv.move (fun hbusy => nomatch hbusy) trivial
    · next hreleased =>
      cases heq
      refine hinv.move (fun _ => by simpa using hreleased) ⟨fun hp hleg => ?_, fun id hid => ?_, ?_⟩
      · rw [hp] at hleg
        cases hleg
      · simpa using (mem_filter.1 hid).2
      · -- every other leg that can be attached is still to be read
        intro id hne hm hleg
        refine absurd (mem_filter.2 ⟨?_, by simpa using hne⟩) hm
        exact mem_range.2 (hinv.legs_lt id hleg)
  | scan =>
    rw [awaitStep] at h
    split at h
    · next preferredReady id rest hawait =>
      rw [hawait] at hok hfree
      obtain ⟨hpref, hrest, hpassed⟩ := hok
      split at h
      · next hleg =>
        cases h
        exact hinv.move (fun _ => hfree rfl)
          ⟨hpref, nofun, fun _ => ⟨id, hrest id mem_cons_self, hleg⟩⟩
      · next hleg =>
        cases h
        refine hinv.move (fun _ => hfree rfl)
          ⟨hpref, fun i hi => hrest i (mem_cons_of_mem _ hi), fun i hne hm hi => ?_⟩
        refine hpassed i hne (fun hmem' => ?_) hi
        rcases mem_cons.1 hmem' with rfl | hmem'
        · exact hleg hi
        · exact hm hmem'
    · next preferredReady hawait =>
      rw [hawait] at hok hfree
      cases h
      refine hinv.move (fun _ => hfree rfl) ⟨hok.1, fun _ => ?_, fun hn => nomatch hn⟩
      rintro ⟨id, hne, hid⟩
      exact hok.2.2 id hne not_mem_nil hid
    · cases h
  | decide =>
    rw [awaitStep] at h
    split at h
    · next preferredReady nonPreferredReady hawait =>
      rw [hawait] at hok hfree
      obtain ⟨hpref, hnone, hseen⟩ := hok
      split_ifs at h with hready hterminal
      · cases h
        refine inv_release hinv (hfree rfl) fun hreason => ?_
        rw [preferredReleaseReason_forPreferred] at hreason
        cases hreason
      · cases h
        exact inv_release hinv (hfree rfl) fun _ => hseen hterminal.1
      · cases h
        refine hinv.move (fun _ => hfree rfl) ⟨hpref (by simpa using hready), hnone, hseen, ?_⟩
        exact fun hn hmark => absurd ⟨hn, hmark⟩ hterminal
    · cases h
  | arm =>
    rw [awaitStep] at h
    split at h
    · next nonPreferredReady hawait =>
      rw [hawait] at hok hfree
      obtain ⟨hpref, hnone, hseen, hterm⟩ := hok
      cases nonPreferredReady with
      | false =>
        rw [if_neg (by simp), if_pos (by simp)] at h
        cases h
        exact hinv.move (fun _ => hfree rfl)
          ⟨hpref, fun ho => .inr (hnone rfl ho), fun ho _ => hnone rfl ho⟩
      | true =>
        split at h
        · cases h
          exact inv_release hinv (hfree rfl) fun _ => hseen rfl
        · rw [if_neg (by simp)] at h
          split at h
          · cases h
            exact hinv.move (fun _ => hfree rfl)
              ⟨hpref, fun _ => .inl nofun, fun _ hmark => hterm rfl hmark⟩
          · next htimer =>
            cases h
            exact hinv.move (fun _ => hfree rfl)
              ⟨hpref, fun _ => .inl htimer, fun _ hmark => hterm rfl hmark⟩
    · cases h
  | selectDone | selectClosing | selectWake | selectTimer =>
    obtain ⟨_, ⟨⟩⟩ := Option.ite_none_right_eq_some.1 h
    exact hinv.move (fun hbusy => nomatch hbusy) trivial
  | _ => cases h

theorem inv_step (hinv : Inv cfg s) {a : Act} (h : step cfg s a = some s') : Inv cfg s' := by
  unfold step at h
  split at h
  all_goals first | exact inv_awaitStep hinv h | exact inv_gateStep hinv h

theorem inv_of_run {acts : List Act} (hrun : runActs (step cfg) start acts = some s) : Inv cfg s :=
  Reachable.invariant ⟨acts, hrun⟩ inv_start fun _ _ _ hinv h => inv_step hinv h

end Invariant

section Wakeups

variable {cfg : Config} {s : State}

/-- Nothing that `await` waits for goes unnoticed. -/
structure NoLostWakeUp (cfg : Config) (s : State) : Prop where
  /-- Blocked, with what it waits for there: a token is pending or about to be posted. -/
  ready : s.await = .selecting → s.done = false → s.closing = false →
    s.legs cfg.preferred = true ∨ s.terminal = true ∧ s.OtherAttached cfg → s.Waking
  grace : s.await = .selecting → s.done = false → s.closing = false →
    s.OtherAttached cfg → s.timer ≠ .none ∨ s.Waking
  /-- A `notify` that has not finished goes on to post. -/
  posts : s.await = .selecting → ∀ i < s.notifiers.length, ∃ s',
    step cfg s (.notify i) = some s' ∧ (s'.wake = true ∨ s'.notifiers[i]? = some .posting)
  once : s.releases.length ≤ 1
  /-- A release without the preferred leg had found another leg in the table. -/
  sighted : ∀ r ∈ s.releases, r.reason.forPreferred = false →
    ∃ id ≠ cfg.preferred, r.table id = true

theorem notify_posts (hfree : s.released = false) {i : Nat} (hi : i < s.notifiers.length) :
    ∃ s', step cfg s (.notify i) = some s' ∧
      (s'.wake = true ∨ s'.notifiers[i]? = some .posting) := by
  have hset : (s.notifiers.set i .posting)[i]? = some .posting := by simp [hi]
  obtain ⟨n, hn⟩ : ∃ n, s.notifiers[i]? = some n := ⟨_, getElem?_eq_getElem hi⟩
  have hs : step cfg s (.notify i) = notifyStep cfg s i := rfl
  rw [hs, notifyStep, hn]
  cases n with
  | posting => exact ⟨_, rfl, .inl rfl⟩
  | entering id =>
    simp only [hfree, Bool.false_eq_true, if_false]
    cases id with
    | none => exact ⟨_, rfl, .inr hset⟩
    | some id =>
      dsimp only
      split
      · exact ⟨_, rfl, .inr hset⟩
      · exact ⟨_, rfl, .inr hset⟩

theorem startup_no_lost_wakeup {acts : List Act} (hrun : runActs (step cfg) start acts = some s) :
    NoLostWakeUp cfg s := by
  have hinv := inv_of_run hrun
  have hok := hinv.await
  refine ⟨fun hblocked _ _ hready => ?_, fun hblocked _ _ hother => ?_, fun hblocked i hi => ?_,
    ?_, hinv.sighted⟩
  · rw [hblocked] at hok
    rcases hready with hleg | ⟨hmark, hother⟩
    · exact hok.1 hleg
    · exact hok.2.2 hother hmark
  · rw [hblocked] at hok
    exact hok.2.1 hother
  · exact notify_posts (hinv.unreleased (by rw [hblocked]; rfl)) hi
  · rw [hinv.releases]
    split <;> omega

/-- Two legs, leg 1 preferred. -/
def twoLegs : Config :=
  { maxActiveLegs := 2, preferred := 1, grace := 5 }

/-- `await` blocks on an empty table, and leg 1 attaches. -/
def preferredArrives : List Act :=
  [.enter, .check, .scan, .scan, .decide, .arm, .attachLeg 1]

theorem startup_no_lost_wakeup_preferredArrives :
    ∃ s, runActs (step twoLegs) start preferredArrives = some s ∧ s.await = .selecting ∧
      s.legs 1 = true ∧ s.Waking :=
  ⟨_, rfl, rfl, rfl,
    (@startup_no_lost_wakeup twoLegs _ preferredArrives rfl).ready rfl rfl rfl (.inl rfl)⟩

end Wakeups

end Smp3Multipath.Core.StartupGate
