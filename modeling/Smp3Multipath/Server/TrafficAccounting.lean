import Mathlib.Algebra.BigOperators.Group.Finset.Piecewise
import Mathlib.Algebra.Group.Pi.Basic
import Mathlib.Algebra.Order.BigOperators.Group.Finset
import Mathlib.Data.UInt
import Mathlib.Tactic.Abel

/-!
# Traffic accounting

`Collect` adds what the counters of each row have risen since the row was last sampled to the
lifetime totals and to the bucket of the minute of the sample.  A row is known by its session, leg,
generation and role; a row that is sampled for the first time, or again after a sample without it,
only sets its baseline.

Two results.  If the counters never fall, no total rises by more than its counters have, and the
totals rise by what is added to the buckets.  And a bucket contains the samples it is for exactly
where `time.Date` reads the wall clock of the minute with the offset that showed it (`ReadBack`),
as it does where the wall clock is not shown twice.

Instants are in nanoseconds from the zero time; `pruned` is what the pruned buckets held and is not
a field of the source.
-/

namespace Smp3Multipath.Server.TrafficAccounting

open Function List

section LocalMinute

def minute : Int := 60 * 1000000000

/-- A location: the offset in force at an instant, and `time.Date` of a wall clock.  Where only one
instant shows the wall clock, `time.Date` is that instant. -/
structure Location where
  offset : Int → Int
  date : Int → Int
  date_unique : ∀ t, (∀ u, u + offset u = t + offset t → u = t) → date (t + offset t) = t

/-- The fields down to the minute of a wall clock. -/
def floorMinute (wall : Int) : Int := wall - wall % minute

/-- `localMinute` from the offsets and the `time.Date` of a location. -/
def localMinuteOf (offset date : Int → Int) (t : Int) : Int := date (floorMinute (t + offset t))

def localMinute (loc : Location) (t : Int) : Int := localMinuteOf loc.offset loc.date t

/-- The minute of `t` began under the offset in force at `t`, and its wall clock is shown once. -/
def ShownOnce (loc : Location) (t : Int) : Prop :=
  let start := floorMinute (t + loc.offset t) - loc.offset t
  loc.offset start = loc.offset t ∧ ∀ u, u + loc.offset u = start + loc.offset start → u = start

/-- The offset with which `time.Date` reads a wall clock. -/
def Location.dateOffset (loc : Location) (wall : Int) : Int := wall - loc.date wall

/-- `time.Date` reads the minute of `t` with the offset in force at `t`, or with one that differs by
so little that `t` stays in the minute. -/
def ReadBack (loc : Location) (t : Int) : Prop :=
  let wall := t + loc.offset t
  let ahead := loc.offset t - loc.dateOffset (floorMinute wall)
  ahead ≤ wall % minute ∧ wall % minute < ahead + minute

theorem localMinute_eq {loc : Location} {t : Int} (h : ShownOnce loc t) :
    localMinute loc t = floorMinute (t + loc.offset t) - loc.offset t := by
  obtain ⟨hoffset, hunique⟩ := h
  have hdate := loc.date_unique _ hunique
  rw [hoffset, Int.sub_add_cancel] at hdate
  exact hdate

theorem localMinute_bounds {loc : Location} {t : Int} (h : ShownOnce loc t) :
    localMinute loc t ≤ t ∧ t < localMinute loc t + minute := by
  rw [localMinute_eq h, floorMinute]
  have hnonneg := Int.emod_nonneg (t + loc.offset t) (show minute ≠ 0 by decide)
  have hlt := Int.emod_lt_of_pos (t + loc.offset t) (show 0 < minute by decide)
  omega

theorem localMinute_bounds_iff {loc : Location} {t : Int} :
    (localMinute loc t ≤ t ∧ t < localMinute loc t + minute) ↔ ReadBack loc t := by
  unfold ReadBack Location.dateOffset localMinute localMinuteOf floorMinute
  dsimp only
  omega

/-- Offsets that are whole minutes apart leave one way to read the minute back. -/
theorem readBack_iff_of_dvd {loc : Location} {t : Int}
    (h : minute ∣ loc.offset t - loc.dateOffset (floorMinute (t + loc.offset t))) :
    ReadBack loc t ↔ loc.dateOffset (floorMinute (t + loc.offset t)) = loc.offset t := by
  have hnonneg := Int.emod_nonneg (t + loc.offset t) (show minute ≠ 0 by decide)
  have hlt := Int.emod_lt_of_pos (t + loc.offset t) (show 0 < minute by decide)
  obtain ⟨k, hk⟩ := h
  unfold ReadBack
  dsimp only
  unfold minute at *
  omega

end LocalMinute

section Model

inductive Kind where
  | carrier | useful
deriving DecidableEq

/-- The ingress role of a leg. -/
inductive Role where
  | native | standalone | other (name : String)
deriving DecidableEq

/-- Which roles a total is over. -/
inductive Scope where
  | all | native | standalone
deriving DecidableEq

def Scope.Covers : Scope → Role → Prop
  | .all, _ => True
  | .native, role => role = .native
  | .standalone, role => role = .standalone

instance (scope : Scope) (role : Role) : Decidable (scope.Covers role) := by
  cases scope <;> unfold Scope.Covers <;> infer_instance

/-- The name of a field of `volumeTotals`. -/
structure Field where
  leg : Fin 2
  kind : Kind
  scope : Scope
deriving DecidableEq

abbrev VolumeTotals := Field → UInt64

structure Counters where
  dataSent : UInt64
  useful : UInt64
deriving DecidableEq

def Counters.value (c : Counters) : Kind → UInt64
  | .carrier => c.dataSent
  | .useful => c.useful

structure Key where
  session : String
  leg : Nat
  generation : UInt64
  role : Role
deriving DecidableEq

structure Row where
  key : Key
  counters : Counters
deriving DecidableEq

/-- A snapshot; `rows` are the legs of its sessions one after the other. -/
structure Snapshot where
  timestamp : Int
  rows : List Row
deriving DecidableEq

inductive Reason where
  | serverGenerationChanged | missingTelemetrySamples
deriving DecidableEq

structure Gap where
  start : Int
  stop : Int
  reason : Reason
deriving DecidableEq

structure Accounting where
  persistInterval : Int
  generation : String
  dirty : Bool
  loaded : Bool
  generationChanged : Bool
  lastSampleAt : Int
  totals : VolumeTotals
  buckets : List (Int × VolumeTotals)
  gaps : List Gap
  baselines : Key → Option Counters
  pruned : VolumeTotals

def accountingBucketRetention : Int := 31 * 24 * 60 * minute

/-- The field is one that `addDelta` of the key adds to. -/
def Field.Covers (f : Field) (key : Key) : Prop := f.leg.val = key.leg ∧ f.scope.Covers key.role

instance (f : Field) (key : Key) : Decidable (f.Covers key) :=
  inferInstanceAs (Decidable (_ ∧ _))

/-- The delta of `addDelta`. -/
def delta (key : Key) (carrier useful : UInt64) (usefulValid : Bool) : VolumeTotals := fun f =>
  if f.Covers key then
    match f.kind with
    | .carrier => carrier
    | .useful => if usefulValid then useful else 0
  else 0

/-- The bucket of a minute, with a delta added. -/
def addBucket (start : Int) (d : VolumeTotals) :
    List (Int × VolumeTotals) → List (Int × VolumeTotals)
  | [] => [(start, d)]
  | (s, v) :: buckets =>
    if s = start then (s, v + d) :: buckets else (s, v) :: addBucket start d buckets

def Accounting.addDelta (a : Accounting) (loc : Location) (t : Int) (key : Key)
    (carrier useful : UInt64) (usefulValid : Bool) : Accounting :=
  if 1 < key.leg then a
  else
    let d := delta key carrier useful usefulValid
    { a with
      totals := a.totals + d
      buckets := addBucket (localMinute loc t) d a.buckets }

/-- How far a counter is above its baseline; a counter below it counts nothing. -/
def risen (now before : UInt64) : UInt64 := if before ≤ now then now - before else 0

/-- The body of the loop of `Collect`: what is added for the row. -/
def Accounting.countRow (a : Accounting) (loc : Location) (t : Int) (row : Row) : Accounting :=
  match a.baselines row.key with
  | none => a
  | some previous =>
    let carrierDelta := risen row.counters.dataSent previous.dataSent
    let usefulDelta := risen row.counters.useful previous.useful
    if 0 < carrierDelta ∨ 0 < usefulDelta then
      a.addDelta loc t row.key carrierDelta usefulDelta
        (decide (previous.useful ≤ row.counters.useful))
    else a

def Accounting.collectRow (loc : Location) (t : Int) (a : Accounting) (row : Row) : Accounting :=
  { a.countRow loc t row with
    baselines := update a.baselines row.key (some row.counters) }

theorem baselines_collectRow (loc : Location) (t : Int) (a : Accounting) (row : Row) (key : Key) :
    (a.collectRow loc t row).baselines key =
      if key = row.key then some row.counters else a.baselines key :=
  update_apply a.baselines row.key (some row.counters) key

def Accounting.pruneLocked (a : Accounting) (now : Int) : Accounting :=
  let cutoff := now - accountingBucketRetention
  { a with
    buckets := a.buckets.filter fun b => ¬b.1 < cutoff
    pruned := a.pruned + ((a.buckets.filter fun b => b.1 < cutoff).map Prod.snd).sum
    gaps := a.gaps.filter fun g => cutoff < g.stop }

/-- The gap of missing samples. -/
def Accounting.noteGap (a : Accounting) (t : Int) : Accounting :=
  if a.generationChanged = false ∧ a.lastSampleAt ≠ 0 ∧ a.generation ≠ "" ∧
      a.persistInterval * 2 < t - a.lastSampleAt then
    { a with gaps := a.gaps ++ [⟨a.lastSampleAt, t, .missingTelemetrySamples⟩] }
  else a

/-- The baselines of the rows the snapshot does not have are dropped. -/
def Accounting.forget (a : Accounting) (seen : List Key) : Accounting :=
  { a with baselines := fun key => if key ∈ seen then a.baselines key else none }

/-- The end of `Collect`. -/
def Accounting.finish (a : Accounting) (t : Int) : Accounting :=
  let a : Accounting := { a with lastSampleAt := t, generationChanged := false }
  { a.pruneLocked t with dirty := true }

def Accounting.collect (loc : Location) (a : Accounting) (snapshot : Snapshot) : Accounting :=
  if snapshot.timestamp = 0 then a
  else if a.loaded = false ∨ (a.lastSampleAt ≠ 0 ∧ snapshot.timestamp ≤ a.lastSampleAt) then a
  else
    let t := snapshot.timestamp
    let a := snapshot.rows.foldl (Accounting.collectRow loc t) (a.noteGap t)
    (a.forget (snapshot.rows.map Row.key)).finish t

/-- A bucket that `Report` counts for a window. -/
def InWindow (start stop bucketStart : Int) : Prop :=
  bucketStart < stop ∧ start < bucketStart + minute

instance (start stop bucketStart : Int) : Decidable (InWindow start stop bucketStart) :=
  inferInstanceAs (Decidable (_ ∧ _))

/-- The totals of `Report` for a window. -/
def windowTotals (buckets : List (Int × VolumeTotals)) (start stop : Int) : VolumeTotals :=
  ((buckets.filter fun b => InWindow start stop b.1).map Prod.snd).sum

end Model

section Buckets

/-- What all buckets hold. -/
def bucketSum (buckets : List (Int × VolumeTotals)) : VolumeTotals := (buckets.map Prod.snd).sum

theorem sum_filter_addBucket (p : Int → Bool) (start : Int) (hp : p start = true)
    (d : VolumeTotals) (buckets : List (Int × VolumeTotals)) :
    (((addBucket start d buckets).filter fun b => p b.1).map Prod.snd).sum =
      ((buckets.filter fun b => p b.1).map Prod.snd).sum + d := by
  induction buckets with
  | nil => simp [addBucket, hp]
  | cons b buckets ih =>
    obtain ⟨s, v⟩ := b
    rw [addBucket]
    split
    · next hs =>
      subst hs
      simp only [filter_cons, hp, if_true, map_cons, sum_cons]
      abel
    · cases hps : p s with
      | true =>
        simp only [filter_cons, hps, if_true, map_cons, sum_cons, ih]
        abel
      | false => simp only [filter_cons, hps, Bool.false_eq_true, if_false, ih]

theorem bucketSum_addBucket (start : Int) (d : VolumeTotals) (buckets : List (Int × VolumeTotals)) :
    bucketSum (addBucket start d buckets) = bucketSum buckets + d := by
  have h := sum_filter_addBucket (fun _ => true) start rfl d buckets
  rwa [filter_true, filter_true] at h

theorem bucketSum_filter (p : Int × VolumeTotals → Prop) [DecidablePred p]
    (buckets : List (Int × VolumeTotals)) :
    bucketSum (buckets.filter fun b => ¬p b) + bucketSum (buckets.filter fun b => p b) =
      bucketSum buckets := by
  unfold bucketSum
  induction buckets with
  | nil => rfl
  | cons b buckets ih =>
    by_cases hb : p b
    · rw [filter_cons_of_neg (by simp [hb]), filter_cons_of_pos (by simp [hb])]
      simp only [map_cons, sum_cons, ← ih]
      abel
    · rw [filter_cons_of_pos (by simp [hb]), filter_cons_of_neg (by simp [hb])]
      simp only [map_cons, sum_cons, ← ih]
      abel

end Buckets

section Booked

/-- What the totals have that the buckets, with those pruned, have not. -/
def unbooked (a : Accounting) : VolumeTotals := a.totals - (bucketSum a.buckets + a.pruned)

variable (loc : Location) (a : Accounting)

theorem unbooked_addDelta (t : Int) (key : Key) (carrier useful : UInt64) (usefulValid : Bool) :
    unbooked (a.addDelta loc t key carrier useful usefulValid) = unbooked a := by
  unfold Accounting.addDelta
  split
  · rfl
  · simp only [unbooked, bucketSum_addBucket]
    abel

theorem unbooked_collectRow (t : Int) (row : Row) :
    unbooked (a.collectRow loc t row) = unbooked a := by
  have hcount : unbooked (a.countRow loc t row) = unbooked a := by
    unfold Accounting.countRow
    split
    · rfl
    · dsimp only
      split
      · exact unbooked_addDelta loc a t ..
      · rfl
  exact hcount

theorem unbooked_forget (seen : List Key) : unbooked (a.forget seen) = unbooked a := rfl

theorem unbooked_finish (t : Int) : unbooked (a.finish t) = unbooked a := by
  simp only [unbooked, Accounting.finish, Accounting.pruneLocked]
  rw [← bucketSum_filter (fun b => b.1 < t - accountingBucketRetention) a.buckets]
  simp only [bucketSum]
  abel

theorem unbooked_noteGap (t : Int) : unbooked (a.noteGap t) = unbooked a := by
  unfold Accounting.noteGap
  split <;> rfl

theorem unbooked_rows (t : Int) (rows : List Row) :
    unbooked (rows.foldl (Accounting.collectRow loc t) a) = unbooked a := by
  induction rows generalizing a with
  | nil => rfl
  | cons row rows ih => rw [foldl_cons, ih, unbooked_collectRow]

/-- A snapshot books all it counts. -/
theorem unbooked_collect (snapshot : Snapshot) :
    unbooked (a.collect loc snapshot) = unbooked a := by
  unfold Accounting.collect
  split
  · rfl
  split
  · rfl
  · dsimp only
    rw [unbooked_finish, unbooked_forget, unbooked_rows, unbooked_noteGap]

end Booked

section LowerBound

/-- A snapshot of the counters of a moment.  `meter` says which counters a key reports: those of its
own, or with other keys those of a leg that go on over generations and roles; a snapshot has one key
for a meter. -/
structure Sample {M : Type} (meter : Key → M) where
  snapshot : Snapshot
  counters : M → Counters
  reports : ∀ row ∈ snapshot.rows, row.counters = counters (meter row.key)
  single : ∀ row ∈ snapshot.rows, ∀ row' ∈ snapshot.rows, meter row.key = meter row'.key →
    row.key = row'.key

variable {M : Type} {meter : Key → M}

/-- The keys that are reported. -/
def Sample.keys (samples : List (Sample meter)) : List Key :=
  samples.flatMap fun s => s.snapshot.rows.map Row.key

/-- No counter of the first is above that of the second. -/
def AtMost (c d : M → Counters) : Prop := ∀ m kind, (c m).value kind ≤ (d m).value kind

/-- The counters never fall from one sample to the next. -/
def Grows : (M → Counters) → List (Sample meter) → Prop
  | _, [] => True
  | c, s :: samples => AtMost c s.counters ∧ Grows s.counters samples

/-- The counters at the end. -/
def countersAfter : (M → Counters) → List (Sample meter) → M → Counters
  | c, [] => c
  | _, s :: samples => countersAfter s.counters samples

def collectAll (loc : Location) (a : Accounting) (samples : List (Sample meter)) : Accounting :=
  samples.foldl (fun a s => a.collect loc s.snapshot) a

theorem AtMost.refl (c : M → Counters) : AtMost c c := fun _ _ => UInt64.le_refl _

theorem AtMost.trans {c d e : M → Counters} (h : AtMost c d) (h' : AtMost d e) : AtMost c e :=
  fun m kind => UInt64.le_trans (h m kind) (h' m kind)

/-- How far the counters of a set of meters are above those of the start. -/
def rise (kind : Kind) (meters : Finset M) (start now : M → Counters) : Nat :=
  ∑ m ∈ meters, (((now m).value kind).toNat - ((start m).value kind).toNat)

theorem rise_mono (kind : Kind) (meters : Finset M) (start : M → Counters) {c d : M → Counters}
    (h : AtMost c d) : rise kind meters start c ≤ rise kind meters start d :=
  Finset.sum_le_sum fun m _ =>
    Nat.sub_le_sub_right (UInt64.le_iff_toNat_le.1 (h m kind)) _

theorem baselines_rows (loc : Location) (t : Int) (rows : List Row) {a : Accounting}
    {c : M → Counters} (hreports : ∀ row ∈ rows, row.counters = c (meter row.key)) {key : Key}
    (hkey : key ∈ rows.map Row.key ∨ a.baselines key = some (c (meter key))) :
    (rows.foldl (Accounting.collectRow loc t) a).baselines key = some (c (meter key)) := by
  induction rows generalizing a with
  | nil => exact hkey.resolve_left not_mem_nil
  | cons row rows ih =>
    rw [forall_mem_cons] at hreports
    refine ih hreports.2 ?_
    by_cases hk : key = row.key
    · subst hk
      refine .inr ?_
      rw [baselines_collectRow, if_pos rfl, hreports.1]
    · rcases hkey with hkey | hkey
      · exact .inl ((mem_cons.1 hkey).resolve_left hk)
      · refine .inr ?_
        rwa [baselines_collectRow, if_neg hk]

theorem unbooked_collectAll (loc : Location) (a : Accounting) (samples : List (Sample meter)) :
    unbooked (collectAll loc a samples) = unbooked a := by
  induction samples generalizing a with
  | nil => rfl
  | cons s samples ih => exact (ih _).trans (unbooked_collect loc a s.snapshot)

variable [DecidableEq M]

/-- The meters of the keys that a field covers. -/
def Field.meters (f : Field) (meter : Key → M) (keys : List Key) : Finset M :=
  ((keys.filter fun key => f.Covers key).map meter).toFinset

/-- The counters of one meter move up. -/
theorem rise_update (kind : Kind) {meters : Finset M} {start c : M → Counters} {m : M}
    (hm : m ∈ meters) (hstart : AtMost start c) {b : Counters}
    (hb : (c m).value kind ≤ b.value kind) :
    rise kind meters start (update c m b) =
      rise kind meters start c + ((b.value kind).toNat - ((c m).value kind).toNat) := by
  have hterm : ∀ k ∈ meters,
      ((update c m b k).value kind).toNat - ((start k).value kind).toNat =
      (((c k).value kind).toNat - ((start k).value kind).toNat) +
        if k = m then (b.value kind).toNat - ((c m).value kind).toNat else 0 := by
    intro k _
    by_cases hk : k = m
    · subst hk
      have hle := UInt64.le_iff_toNat_le.1 (hstart k kind)
      have hle' := UInt64.le_iff_toNat_le.1 hb
      simp only [update_self, if_true]
      omega
    · simp only [update_of_ne hk, if_neg hk, Nat.add_zero]
  rw [rise, Finset.sum_congr rfl hterm, Finset.sum_add_distrib, Finset.sum_ite_eq' meters m,
    if_pos hm, rise]

/-- What holds of the accounting when the counters are `c`.  Every meter has been counted up to its
`basis` at most; a key that can still be counted from its baseline has it at the basis or above. -/
structure Below (meter : Key → M) (keys : List Key) (start : M → Counters) (initial : VolumeTotals)
    (c basis : M → Counters) (pending : Key → Prop) (a : Accounting) : Prop where
  above : AtMost start basis
  below : AtMost basis c
  tied : ∀ key, pending key → ∀ b, a.baselines key = some b → ∀ kind,
    (basis (meter key)).value kind ≤ b.value kind ∧ b.value kind ≤ (c (meter key)).value kind
  counted : ∀ f, ∃ n, a.totals f = initial f + UInt64.ofNat n ∧
    n ≤ rise f.kind (f.meters meter keys) start basis

variable {loc : Location} {keys : List Key} {start c basis : M → Counters} {initial : VolumeTotals}
  {pending : Key → Prop} {a : Accounting}

theorem Below.grow (h : Below meter keys start initial c basis pending a) {c' : M → Counters}
    (hgrow : AtMost c c') : Below meter keys start initial c' basis pending a where
  above := h.above
  below := h.below.trans hgrow
  tied key hkey b hb kind :=
    ⟨(h.tied key hkey b hb kind).1, UInt64.le_trans (h.tied key hkey b hb kind).2 (hgrow _ kind)⟩
  counted := h.counted

theorem countRow_totals (loc : Location) (t : Int) {row : Row} {previous : Counters}
    (hprevious : a.baselines row.key = some previous)
    (hle : ∀ kind, previous.value kind ≤ row.counters.value kind) (f : Field) :
    (a.countRow loc t row).totals f = a.totals f +
      if f.Covers row.key then row.counters.value f.kind - previous.value f.kind else 0 := by
  have hcarrier : previous.dataSent ≤ row.counters.dataSent := hle .carrier
  have huseful : previous.useful ≤ row.counters.useful := hle .useful
  rw [Accounting.countRow, hprevious]
  simp only [risen, if_pos hcarrier, if_pos huseful]
  split
  · unfold Accounting.addDelta
    split
    · next hleg =>
      have hcovers : ¬f.Covers row.key := fun h => by
        have := f.leg.isLt
        have := h.1
        omega
      rw [if_neg hcovers]
      exact (UInt64.add_zero _).symm
    · simp only [Pi.add_apply, delta, huseful, decide_true, if_true]
      congr 1
      split
      · cases f.kind <;> rfl
      · rfl
  · next hzero =>
    rw [not_or] at hzero
    have hsame : row.counters.value f.kind - previous.value f.kind = 0 := by
      cases f.kind with
      | carrier => exact UInt64.le_zero_iff.1 (UInt64.not_lt.1 hzero.1)
      | useful => exact UInt64.le_zero_iff.1 (UInt64.not_lt.1 hzero.2)
    rw [hsame, ite_self]
    exact (UInt64.add_zero _).symm

theorem Below.firstRow (h : Below meter keys start initial c basis pending a) {t : Int}
    {row : Row} (hreports : row.counters = c (meter row.key)) (hnone : a.baselines row.key = none) :
    Below meter keys start initial c basis pending (a.collectRow loc t row) where
  above := h.above
  below := h.below
  tied key hkey b hb kind := by
    by_cases hk : key = row.key
    · subst hk
      rw [baselines_collectRow, if_pos rfl] at hb
      cases hb
      rw [hreports]
      exact ⟨h.below _ kind, UInt64.le_refl _⟩
    · rw [baselines_collectRow, if_neg hk] at hb
      exact h.tied key hkey b hb kind
  counted f := by
    have htotals : (a.collectRow loc t row).totals = a.totals := by
      simp only [Accounting.collectRow, Accounting.countRow, hnone]
    rw [htotals]
    exact h.counted f

/-- A row of a key with a baseline counts its meter up to the present; the keys still to come of the
same meter are this one. -/
theorem Below.nextRow (h : Below meter keys start initial c basis pending a) {t : Int} {row : Row}
    {previous : Counters} (hkey : row.key ∈ keys) (hpending : pending row.key)
    (hsingle : ∀ key, pending key → meter key = meter row.key → key = row.key)
    (hreports : row.counters = c (meter row.key))
    (hprevious : a.baselines row.key = some previous) :
    Below meter keys start initial c (update basis (meter row.key) row.counters) pending
      (a.collectRow loc t row) := by
  have htied := h.tied row.key hpending previous hprevious
  have hup : AtMost basis (update basis (meter row.key) row.counters) := fun m kind => by
    by_cases hm : m = meter row.key
    · subst hm
      rw [update_self, hreports]
      exact h.below _ kind
    · rw [update_of_ne hm]
      exact UInt64.le_refl _
  refine ⟨h.above.trans hup, fun m kind => ?_, fun key hk b hb kind => ?_, fun f => ?_⟩
  · by_cases hm : m = meter row.key
    · subst hm
      rw [update_self, hreports]
      exact UInt64.le_refl _
    · rw [update_of_ne hm]
      exact h.below m kind
  · by_cases hm : meter key = meter row.key
    · have hsame := hsingle key hk hm
      subst hsame
      rw [baselines_collectRow, if_pos rfl] at hb
      cases hb
      rw [update_self, hreports]
      exact ⟨UInt64.le_refl _, UInt64.le_refl _⟩
    · have hne : key ≠ row.key := fun heq => hm (congrArg meter heq)
      rw [baselines_collectRow, if_neg hne] at hb
      rw [update_of_ne hm]
      exact h.tied key hk b hb kind
  · obtain ⟨n, hn, hle⟩ := h.counted f
    have hprev : ∀ kind, previous.value kind ≤ row.counters.value kind := fun kind =>
      hreports ▸ (htied kind).2
    have htotals := (countRow_totals loc t hprevious hprev f).trans
      (congrArg (· + _) hn)
    by_cases hcovers : f.Covers row.key
    · refine ⟨n + ((row.counters.value f.kind).toNat - (previous.value f.kind).toNat), ?_, ?_⟩
      · refine htotals.trans ?_
        rw [if_pos hcovers, UInt64.ofNat_add, ← UInt64.toNat_sub_of_le _ _ (hprev f.kind),
          UInt64.ofNat_toNat, UInt64.add_assoc]
      · have hmeter : meter row.key ∈ f.meters meter keys := by
          rw [Field.meters, mem_toFinset]
          exact mem_map_of_mem (mem_filter.2 ⟨hkey, decide_eq_true hcovers⟩)
        have hbasis : (basis (meter row.key)).value f.kind ≤ row.counters.value f.kind :=
          UInt64.le_trans (htied f.kind).1 (hprev f.kind)
        rw [rise_update f.kind hmeter h.above hbasis]
        have := UInt64.le_iff_toNat_le.1 (htied f.kind).1
        omega
    · refine ⟨n, htotals.trans ?_, hle.trans (rise_mono _ _ start hup)⟩
      rw [if_neg hcovers]
      exact UInt64.add_zero _

theorem Below.rows (loc : Location) (t : Int) (rows : List Row)
    (h : Below meter keys start initial c basis (· ∈ rows.map Row.key) a)
    (hkeys : ∀ row ∈ rows, row.key ∈ keys)
    (hreports : ∀ row ∈ rows, row.counters = c (meter row.key))
    (hsingle : ∀ row ∈ rows, ∀ row' ∈ rows, meter row.key = meter row'.key → row.key = row'.key) :
    ∃ basis', Below meter keys start initial c basis' (fun _ => False)
      (rows.foldl (Accounting.collectRow loc t) a) := by
  induction rows generalizing a basis with
  | nil => exact ⟨basis, h.above, h.below, fun _ hk => hk.elim, h.counted⟩
  | cons row rows ih =>
    have hrest : ∀ {basis' a'},
        Below meter keys start initial c basis' (· ∈ (row :: rows).map Row.key) a' →
          Below meter keys start initial c basis' (· ∈ rows.map Row.key) a' := fun hb =>
      ⟨hb.above, hb.below, fun key hk => hb.tied key (mem_cons_of_mem _ hk), hb.counted⟩
    have hsingle' : ∀ key ∈ (row :: rows).map Row.key, meter key = meter row.key →
        key = row.key := fun key hk hm => by
      obtain ⟨row', hrow', rfl⟩ := mem_map.1 hk
      exact hsingle row' hrow' row mem_cons_self hm
    have htail : ∀ row' ∈ rows, ∀ row'' ∈ rows, meter row'.key = meter row''.key →
        row'.key = row''.key := fun row' hrow' row'' hrow'' =>
      hsingle row' (mem_cons_of_mem _ hrow') row'' (mem_cons_of_mem _ hrow'')
    rw [forall_mem_cons] at hkeys hreports
    cases hprevious : a.baselines row.key with
    | none => exact ih (hrest (h.firstRow hreports.1 hprevious)) hkeys.2 hreports.2 htail
    | some previous =>
      exact ih (hrest (h.nextRow hkeys.1 mem_cons_self hsingle' hreports.1 hprevious)) hkeys.2
        hreports.2 htail

/-- One snapshot. -/
theorem Below.collect (loc : Location)
    (h : Below meter keys start initial c basis (fun _ => True) a) (snapshot : Snapshot)
    (hkeys : ∀ row ∈ snapshot.rows, row.key ∈ keys)
    (hreports : ∀ row ∈ snapshot.rows, row.counters = c (meter row.key))
    (hsingle : ∀ row ∈ snapshot.rows, ∀ row' ∈ snapshot.rows, meter row.key = meter row'.key →
      row.key = row'.key) :
    ∃ basis', Below meter keys start initial c basis' (fun _ => True) (a.collect loc snapshot) := by
  unfold Accounting.collect
  split
  · exact ⟨basis, h⟩
  split
  · exact ⟨basis, h⟩
  have hgap : Below meter keys start initial c basis (· ∈ snapshot.rows.map Row.key)
      (a.noteGap snapshot.timestamp) := by
    unfold Accounting.noteGap
    split <;> exact ⟨h.above, h.below, fun key _ => h.tied key trivial, h.counted⟩
  obtain ⟨basis', hrows⟩ := hgap.rows loc snapshot.timestamp snapshot.rows hkeys hreports hsingle
  refine ⟨basis', hrows.above, hrows.below, fun key _ b hb kind => ?_, hrows.counted⟩
  -- only the keys of the snapshot keep a baseline, and it is the present one
  have hforget := Option.ite_none_right_eq_some.1 (show (if key ∈ snapshot.rows.map Row.key then
    _ else none) = some b from hb)
  have hnow := baselines_rows (a := a.noteGap snapshot.timestamp) loc snapshot.timestamp
    snapshot.rows hreports (.inl hforget.1)
  cases hnow.symm.trans hforget.2
  exact ⟨hrows.below _ kind, UInt64.le_refl _⟩

/-- A run of snapshots. -/
theorem Below.collectAll (loc : Location) (samples : List (Sample meter))
    (h : Below meter keys start initial c basis (fun _ => True) a) (hgrows : Grows c samples)
    (hkeys : ∀ s ∈ samples, ∀ row ∈ s.snapshot.rows, row.key ∈ keys) :
    ∃ basis', Below meter keys start initial (countersAfter c samples) basis' (fun _ => True)
      (collectAll loc a samples) := by
  induction samples generalizing a c basis with
  | nil => exact ⟨basis, h⟩
  | cons s samples ih =>
    rw [forall_mem_cons] at hkeys
    obtain ⟨basis', hsample⟩ :=
      (h.grow hgrows.1).collect loc s.snapshot hkeys.1 s.reports s.single
    exact ih hsample hgrows.2 hkeys.2

end LowerBound

/-- From an accounting without baselines, as it is loaded: over any run of snapshots of counters
that never fall, no total rises by more than the counters it is over, and the totals rise by what
the buckets, with those that have been pruned, have been given.  With the identity as `meter` the
counters are those of each session, leg, generation and role. -/
theorem totals_lower_bound {M : Type} [DecidableEq M] (meter : Key → M) (loc : Location)
    (a : Accounting) (hfresh : ∀ key, a.baselines key = none) (start : M → Counters)
    (samples : List (Sample meter)) (hgrows : Grows start samples) :
    (∀ f, ((collectAll loc a samples).totals f - a.totals f).toNat ≤
      rise f.kind (f.meters meter (Sample.keys samples)) start (countersAfter start samples)) ∧
    (collectAll loc a samples).totals - a.totals =
      (bucketSum (collectAll loc a samples).buckets + (collectAll loc a samples).pruned) -
        (bucketSum a.buckets + a.pruned) := by
  have hbegin : Below meter (Sample.keys samples) start a.totals start start (fun _ => True) a := by
    refine ⟨AtMost.refl start, AtMost.refl start, fun key _ b hb => ?_,
      fun f => ⟨0, (UInt64.add_zero _).symm, Nat.zero_le _⟩⟩
    rw [hfresh] at hb
    cases hb
  have hkeys : ∀ s ∈ samples, ∀ row ∈ s.snapshot.rows, row.key ∈ Sample.keys samples :=
    fun s hs row hrow => mem_flatMap.2 ⟨s, hs, mem_map_of_mem hrow⟩
  obtain ⟨basis, hend⟩ := hbegin.collectAll loc samples hgrows hkeys
  constructor
  · intro f
    obtain ⟨n, hn, hle⟩ := hend.counted f
    have hdiff : (collectAll loc a samples).totals f - a.totals f = UInt64.ofNat n := by
      rw [hn, UInt64.add_comm, UInt64.add_sub_cancel]
    rw [hdiff, UInt64.toNat_ofNat']
    exact (Nat.mod_le _ _).trans (hle.trans (rise_mono _ _ start hend.below))
  · have hbooked := unbooked_collectAll loc a samples
    unfold unbooked at hbooked
    rw [sub_eq_sub_iff_add_eq_add] at hbooked ⊢
    rw [hbooked]
    abel

def hour : Int := 60 * minute

/-- An offset of one hour until the instant zero, and none from then on; `time.Date` takes the later
of two instants. -/
def fallBack : Location where
  offset t := if t < 0 then hour else 0
  date wall := if wall < 0 then wall - hour else wall
  date_unique t h := by
    have hlength : 0 < hour := by decide
    have hlater := h (t + hour)
    grind

def utc : Location where
  offset _ := 0
  date wall := wall
  date_unique t _ := Int.add_zero t

/-- An accounting as `newTrafficAccounting` makes it. -/
def freshAccounting : Accounting where
  persistInterval := 10
  generation := "g"
  dirty := false
  loaded := true
  generationChanged := false
  lastSampleAt := 0
  totals := 0
  buckets := []
  gaps := []
  baselines _ := none
  pruned := 0

def sampleKey (generation : UInt64) : Key := ⟨"s", 0, generation, .native⟩

/-- The meter of a leg. -/
def legMeter (key : Key) : String × Nat := (key.session, key.leg)

/-- A sample of one leg. -/
def oneRow (t : Int) (generation : UInt64) (c : Counters) : Sample legMeter where
  snapshot := ⟨t, [⟨sampleKey generation, c⟩]⟩
  counters _ := c
  reports := by simp
  single := by simp

/-- The leg is attached again, and then a third time under its first generation. -/
def reattached : List (Sample legMeter) :=
  [oneRow 1 1 ⟨10, 4⟩, oneRow 2 1 ⟨30, 9⟩, oneRow 3 2 ⟨40, 9⟩, oneRow 4 2 ⟨45, 9⟩,
    oneRow 5 1 ⟨60, 9⟩]

theorem totals_lower_bound_reattached :
    (collectAll utc freshAccounting reattached).totals ⟨0, .carrier, .native⟩ = 25 ∧
    ∀ f, ((collectAll utc freshAccounting reattached).totals f - freshAccounting.totals f).toNat ≤
      rise f.kind (f.meters legMeter (Sample.keys reattached)) (fun _ => ⟨0, 0⟩)
        (countersAfter (fun _ => ⟨0, 0⟩) reattached) := by
  have hgrows : Grows (fun _ => ⟨0, 0⟩) reattached := by
    refine ⟨?_, ?_, ?_, ?_, ?_, trivial⟩ <;> intro _ kind <;> cases kind <;>
      simp [oneRow, Counters.value]
  exact ⟨by decide, (totals_lower_bound legMeter utc freshAccounting (fun _ => rfl) _ _ hgrows).1⟩

/-- A report of every window with the instant `t` in it counts a delta of `t`. -/
def WindowsCount (loc : Location) (t : Int) : Prop :=
  ∀ (a : Accounting) (key : Key) (carrier useful : UInt64) (usefulValid : Bool) (start stop : Int),
    key.leg ≤ 1 → start ≤ t → t < stop →
      windowTotals (a.addDelta loc t key carrier useful usefulValid).buckets start stop =
        windowTotals a.buckets start stop + delta key carrier useful usefulValid

theorem windowsCount_of_bounds {loc : Location} {t : Int}
    (h : localMinute loc t ≤ t ∧ t < localMinute loc t + minute) : WindowsCount loc t := by
  intro a key carrier useful usefulValid start stop hleg hstart hstop
  rw [Accounting.addDelta, if_neg (Nat.not_lt.2 hleg)]
  refine sum_filter_addBucket (fun s => decide (InWindow start stop s)) _ ?_ _ _
  exact decide_eq_true ⟨by omega, by omega⟩

/-- The window of one nanosecond at `t` counts the bucket of `t` only if `t` lies in it. -/
theorem bounds_of_windowsCount {loc : Location} {t : Int} (h : WindowsCount loc t) :
    localMinute loc t ≤ t ∧ t < localMinute loc t + minute := by
  have hcount := h freshAccounting (sampleKey 1) 1 0 true t (t + 1) (Nat.zero_le 1) (Int.le_refl t)
    (Int.lt_succ t)
  by_cases hin : InWindow t (t + 1) (localMinute loc t)
  · exact ⟨Int.lt_add_one_iff.1 hin.1, hin.2⟩
  · have hone := congrFun hcount ⟨0, .carrier, .all⟩
    simp [Accounting.addDelta, addBucket, windowTotals, freshAccounting, sampleKey, delta,
      Field.Covers, Scope.Covers, hin] at hone

end Smp3Multipath.Server.TrafficAccounting
