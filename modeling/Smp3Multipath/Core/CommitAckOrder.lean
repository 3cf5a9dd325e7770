import Smp3Multipath.Core.DrainBarrier

/-!
# CommitAck and retirement

`runRemoteDrain` sends its CommitAck and retires the target after it.  The error
of that send is dropped: the comment in the source says that the answer will be
tried again on a later pass, but with an accepted Commit there is no later pass.
So a responder may retire the leg without having written a CommitAck.  What does
hold is shown for the runs in which no CommitAck send returns an error.
-/

namespace Smp3Multipath.Core.Drain

open Lib.Run Carrier Function

/-- Steps by which `sendDrainMessage` returns an error. -/
def SendAct.fails : SendAct → Bool
  | .timeout | .engineDone | .exhausted => true
  | _ => false

/-- Is a responder in `sendDrainMessage` with a CommitAck? -/
def Position.sendsAck : Position → Bool
  | .sending _ (.response .commitAck _) => true
  | _ => false

/-- A send of a CommitAck returns an error in this step. -/
def ackSendFails {κ : Type} (s : State κ) (a : Role × Act κ) : Bool :=
  match a.2 with
  | .opSend id act => act.fails && ((s a.1).drainOps id).any fun op => op.position.sendsAck
  | _ => false

/-- A responder that is about to retire its target answers, or has answered, with a
CommitAck. -/
def AckOk (op : StreamDrainOperation) : Prop :=
  match op.position with
  | .decided kind commit | .start _ (.response kind commit)
  | .sending _ (.response kind commit) => commit = true → kind = .commitAck
  | .retireCheck commit => commit = true → op.lastKind = some .commitAck
  | .retiring .responder => op.lastKind = some .commitAck
  | _ => True

section Operations

variable {κ : Type} {a : Act κ} {id : LegID} {op op' : StreamDrainOperation}

theorem AckOk.of_same (h : AckOk op) (hlast : op'.lastKind = op.lastKind)
    (hposition : op'.position = op.position) : AckOk op' := by
  unfold AckOk at h ⊢
  rw [hlast, hposition]
  exact h

theorem AckOk.of_reaches (h : AckOk op) (hlast : op'.lastKind = op.lastKind)
    (hreaches : Reaches op op'.position) : AckOk op' := by
  unfold AckOk
  split
  · next hpos =>
    rw [hpos] at hreaches
    exact hreaches
  · next hpos =>
    rw [hpos, Reaches] at hreaches
    rw [AckOk, hreaches] at h
    exact h
  · next hpos =>
    rw [hpos] at hreaches
    rcases hreaches with hstart | ⟨send, hsending⟩
    · rw [AckOk, hstart] at h
      exact h
    · rw [AckOk, hsending] at h
      exact h
  · next hpos =>
    rw [hpos] at hreaches
    obtain ⟨kind, hdecided, hkind⟩ := hreaches
    rw [AckOk, hdecided] at h
    intro hcommit
    rw [hlast, hkind, h hcommit]
  · next hpos =>
    rw [hpos, Reaches] at hreaches
    rw [AckOk, hreaches] at h
    rw [hlast]
    exact h rfl
  · trivial

/-- A send that returned leaves an answered operation, unless it was a CommitAck that failed. -/
theorem AckOk.resume {send : Send} {after : After} {err : Option DrainErr} (h : AckOk op)
    (hposition : op.position = .sending send after)
    (hack : err ≠ none → op.position.sendsAck = false) : AckOk (resume op after err) := by
  cases after with
  | response kind commit =>
    rw [AckOk, hposition] at h
    cases err with
    | none =>
      intro hcommit
      exact congrArg some (h hcommit)
    | some err =>
      intro hcommit
      have hsends := hack nofun
      rw [hposition, h hcommit] at hsends
      cases hsends
  | intent | ready snapshot | commit | timeout | notify err' restore =>
    cases err <;> trivial

theorem AckOk.move (h : AckOk op) (hmove : OpMove a id op op')
    (hack : ∀ act, a = .opSend id act → act.fails = true → op.position.sendsAck = false) :
    AckOk op' := by
  cases hmove with
  | stays _ hlast hposition => exact h.of_same hlast hposition
  | moves _ hlast hreaches => exact h.of_reaches hlast hreaches
  | resumes act send after err ha hposition herr heq =>
    subst heq
    refine h.resume hposition fun hne => hack act ha ?_
    rcases herr hne with rfl | rfl | rfl <;> rfl

end Operations

section Runs

variable {κ : Type} [DecidableEq κ] {cfg : Config} {s s' : State κ} {a : Role × Act κ}

/-- Every responder that retired its target had written its CommitAck. -/
structure AckBefore (e : Endpoint κ) : Prop where
  ops : ∀ id op, e.drainOps id = some op → AckOk op
  retired : ∀ key, .retired key false ∈ e.log → .commitAckWritten key ∈ e.log

omit [DecidableEq κ] in
theorem ackBefore_init (cfg : Config) (role : Role) : AckBefore (init κ cfg role) := by
  constructor
  · intro id op hop
    simp only [init, Endpoint.init, reduceCtorEq] at hop
  · intro key hm
    simp only [init, Endpoint.init, List.not_mem_nil] at hm

theorem ackBefore_effect {peer : List Event} {e e' : Endpoint κ} {act : Act κ} (h : AckBefore e)
    (hok : EndpointOk peer e) (hlog : e.log ⊆ e'.log)
    (hack : ∀ id op sendAct, act = .opSend id sendAct → e.drainOps id = some op →
      sendAct.fails = true → op.position.sendsAck = false) (heffect : Effect cfg act e e') :
    AckBefore e' := by
  cases heffect with
  | moves _ hops hretired =>
    constructor
    · intro id op' hop'
      obtain ⟨op, hop, hmove⟩ := hops id op' hop'
      exact (h.ops id op hop).move hmove fun sendAct ha => hack id op sendAct ha hop
    · intro key hm
      rcases hretired key hm with hm | ⟨id, op, hop, rfl, hposition⟩
      · exact hlog (h.retired key hm)
      · have hlast := h.ops id op hop
        rw [AckOk, hposition] at hlast
        exact hlog ((hok.ops id op hop).lastKind hlast)
  | registers id op' _ _ _ _ hops hposition hsame =>
    constructor
    · intro id' op hop
      rw [hops, update_apply] at hop
      split at hop
      · cases hop
        unfold AckOk
        rcases hposition with hposition | hposition
        · rw [hposition]
          trivial
        · rw [hposition]
          trivial
      · exact h.ops id' op hop
    · rw [hsame]
      exact h.retired
  | aborts id op _ _ _ _ hops hsame =>
    constructor
    · intro id' op' hop'
      rw [hops, update_apply] at hop'
      split at hop'
      · cases hop'
      · exact h.ops id' op' hop'
    · rw [hsame]
      exact h.retired

theorem ackBefore_step (h : ∀ role, AckBefore (s role)) (hbacked : Backed s)
    (hack : ackSendFails s a = false) (hs : step cfg s a = some s') :
    ∀ role, AckBefore (s' role) := by
  obtain ⟨e, he, rfl⟩ := Option.map_eq_some_iff.1 hs
  have hpeer := hbacked a.1.peer
  rw [Role.peer_peer] at hpeer
  have hfollows := follows_endpointStep (hbacked a.1) hpeer.sent he
  have hmoved : AckBefore e := by
    refine ackBefore_effect (h a.1) (hbacked a.1) hfollows.log ?_ (effect_endpointStep he)
    intro id op sendAct hact hop hfails
    simpa [ackSendFails, hact, hop, hfails] using hack
  intro role
  rw [update_apply]
  split
  · exact hmoved
  · exact h role

/-- In every run in which no send of a CommitAck returns an error, a responder retires the
target only after its CommitAck was written in full. -/
theorem commitAck_before_retire {acts : List (Role × Act κ)}
    (hrun : runActs (step cfg) (init κ cfg) acts = some s)
    (hacts : EachStep (step cfg) (fun t a => ackSendFails t a = false) (init κ cfg) acts) :
    ∀ role key, .retired key false ∈ (s role).log → .commitAckWritten key ∈ (s role).log := by
  let Inv : State κ → Prop := fun t => Backed t ∧ ∀ role, AckBefore (t role)
  have hkept : ∀ t a t', Inv t → ackSendFails t a = false → step cfg t a = some t' → Inv t' :=
    fun t a t' h hack hs => ⟨backed_step h.1 hs, ackBefore_step h.2 h.1 hack hs⟩
  have hinit : Inv (init κ cfg) := ⟨backed_init cfg, ackBefore_init cfg⟩
  exact fun role => ((invariant_of_eachStep hkept hinit hacts hrun).2 role).retired

end Runs

section Examples

/-- Does the step make some `sendDrainMessage` call of an operation return an error? -/
def sendFails (a : Role × Act Unit) : Bool :=
  match a.2 with
  | .opSend _ act => act.fails
  | _ => false

theorem ackSendFails_eq_false {s : State Unit} {a : Role × Act Unit} (h : sendFails a = false) :
    ackSendFails s a = false := by
  obtain ⟨role, act⟩ := a
  cases act with
  | opSend id act =>
    have hfails : act.fails = false := h
    simp only [ackSendFails, hfails, Bool.false_and]
  | _ => rfl

theorem drainRun_sends : ∀ a ∈ drainRun, sendFails a = false := by
  decide

/-- In the complete drain the server retires leg 0 after its CommitAck. -/
theorem commitAck_before_retire_drainRun :
    ∃ s, runActs (step drainConfig) (init Unit drainConfig) drainRun = some s ∧
      .retired ⟨5, 1, 10⟩ false ∈ (s .server).log ∧
      .commitAckWritten ⟨5, 1, 10⟩ ∈ (s .server).log := by
  obtain ⟨s, hrun, h⟩ := (Option.any_eq_true ..).1 drainRun_ends
  simp only [decide_eq_true_eq] at h
  refine ⟨s, hrun, h.1, commitAck_before_retire hrun ?_ .server _ h.1⟩
  exact eachStep_of_forall fun a ha t => ackSendFails_eq_false (drainRun_sends a ha)

/-- The only other leg fails under the CommitAck. -/
def lostAckRun : List (Role × Act Unit) :=
  commitRun ++
    [(.server, .op 0 .send), (.server, .opSend 0 .push), (.server, .writeControl 1 false),
      (.server, .opSend 0 .result), (.server, .opSend 0 .exhausted)] ++
    goroutine .server [.tryRetire, .retire]

theorem lostAckRun_retires :
    (runActs (step drainConfig) (init Unit drainConfig) lostAckRun).any (fun s =>
      decide (.retired ⟨5, 1, 10⟩ false ∈ (s .server).log ∧
        .commitAckWritten ⟨5, 1, 10⟩ ∉ (s .server).log)) = true := by
  decide +kernel

/-- The responder retires the target although no CommitAck was written. -/
theorem retire_without_commitAck :
    ¬ ∀ s, Reachable (step drainConfig) (init Unit drainConfig) s →
      ∀ role key, .retired key false ∈ (s role).log → .commitAckWritten key ∈ (s role).log := by
  intro hall
  obtain ⟨s, hrun, h⟩ := (Option.any_eq_true ..).1 lostAckRun_retires
  simp only [decide_eq_true_eq] at h
  exact h.2 (hall s ⟨lostAckRun, hrun⟩ .server _ h.1)

end Examples

end Smp3Multipath.Core.Drain
