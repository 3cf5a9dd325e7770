import Smp3Multipath.Core.StreamTx
import Smp3Multipath.Lib.KeyedList
import Smp3Multipath.Lib.Run

/-!
# The registry of shared carrier capacity

Providers of several sessions share the entries of a registry: a provider has a key for each leg,
counts as one reference of the entry under each nonempty key, and reports the demand of its session
to the entry under its first key.  An entry without references may be pruned, when it has been idle
or when there are too many entries; the order in which Go visits a map is a parameter.

The estimators of the entries are left out, and the clock is read once in each call.  A sum of bytes
is taken modulo `2 ^ 64`.
-/

namespace Smp3Multipath.Core.CarrierRegistry

open Lib.KeyedList Lib.Run List

section Model

def carrierCapacityIdleTTL : Int := 10 * 60 * 1000000000
def carrierCapacityMaxEntries : Nat := 1024

structure Entry where
  key : String
  refs : Nat
  lastUsed : Int
  demandStart : Int
  demandAt : Int
  demandBytes : Nat
  backlog : Nat
deriving DecidableEq

structure Provider where
  closed : Bool
  unfinished : Nat
  keys : List String
deriving DecidableEq

structure State where
  entries : List Entry
  providers : List Provider
deriving DecidableEq

def init : State := ⟨[], []⟩

/-- The key under which the provider reports its demand. -/
def Provider.demandKey (p : Provider) : String := p.keys.headD ""

/-- The second loop of `pruneLocked`, over the keys in some order. -/
def pruneExcess : List String → List Entry → List Entry
  | [], entries => entries
  | key :: order, entries =>
    match lookup Entry.key entries key with
    | none => pruneExcess order entries
    | some e =>
      if e.refs = 0 then
        let entries := remove Entry.key entries key
        if entries.length ≤ carrierCapacityMaxEntries then entries else pruneExcess order entries
      else pruneExcess order entries

def pruneLocked (now : Int) (order : List String) (entries : List Entry) : List Entry :=
  let entries := entries.filter fun e =>
    ¬(e.refs = 0 ∧ e.lastUsed ≠ 0 ∧ carrierCapacityIdleTTL < now - e.lastUsed)
  if entries.length ≤ carrierCapacityMaxEntries then entries else pruneExcess order entries

/-- The keys of a provider: one for each leg. -/
def legKeys (keys : List String) (legCount : Int) : List String :=
  let count := if legCount < 1 ∨ maxStreamLegIDCount < legCount then 2 else legCount.toNat
  (keys ++ List.replicate (count - keys.length) "").take count

/-- The loop of `ProviderForLegs`. -/
def useKey (now : Int) (entries : List Entry) (key : String) : List Entry :=
  if key = "" then entries
  else
    match lookup Entry.key entries key with
    | none => put Entry.key entries ⟨key, 1, now, 0, 0, 0, 0⟩
    | some e => put Entry.key entries { e with refs := e.refs + 1, lastUsed := now }

/-- The loop of `Close`. -/
def releaseKey (now : Int) (entries : List Entry) (key : String) : List Entry :=
  if key = "" then entries
  else
    match lookup Entry.key entries key with
    | none => entries
    | some e =>
      put Entry.key entries
        { e with refs := if 0 < e.refs then e.refs - 1 else e.refs, lastUsed := now }

/-- A difference that stops at zero. -/
def lower (total amount : Nat) : Nat := if total ≤ amount then 0 else total - amount

/-- The entry after `ObserveActivationDemand`; `retired` is within what is unfinished. -/
def Entry.observe (e : Entry) (produced retired : Nat) (now : Int) : Entry :=
  let fresh := e.demandAt ≠ 0 ∧ 2 * 1000000000 < now - e.demandAt
  { e with
    demandStart := if fresh then now else if e.demandStart = 0 then now else e.demandStart
    demandAt := now
    demandBytes := ((if fresh then 0 else e.demandBytes) + produced) % 2 ^ 64
    backlog := (lower e.backlog retired + produced) % 2 ^ 64 }

def State.observeActivationDemand (s : State) (i : Nat) (p : Provider) (produced retired : Nat)
    (now : Int) : State :=
  if p.closed ∨ p.demandKey = "" ∨ (produced = 0 ∧ retired = 0) then s
  else
    match lookup Entry.key s.entries p.demandKey with
    | none => s
    | some e =>
      let retired := min retired p.unfinished
      { entries := put Entry.key s.entries (e.observe produced retired now)
        providers := s.providers.set i
          { p with unfinished := (p.unfinished - retired + produced) % 2 ^ 64 } }

/-- The first half of `Close`: what is unfinished is taken off the backlog. -/
def takeBacklog (p : Provider) (entries : List Entry) : List Entry :=
  match lookup Entry.key entries p.demandKey with
  | none => entries
  | some e => put Entry.key entries { e with backlog := lower e.backlog p.unfinished }

def State.close (s : State) (i : Nat) (p : Provider) (now : Int) : State :=
  -- `once`
  if p.closed then s
  else
    { entries := p.keys.foldl (releaseKey now) (takeBacklog p s.entries)
      providers := s.providers.set i { p with closed := true, unfinished := 0 } }

inductive Act where
  | providerForLegs (keys : List String) (legCount : Int) (now : Int) (order order' : List String)
  | observe (i : Nat) (produced retired : Nat) (now : Int)
  | close (i : Nat) (now : Int)
deriving DecidableEq

def step (s : State) : Act → Option State
  | .providerForLegs keys legCount now order order' =>
    let keys := legKeys keys legCount
    some
      { entries := pruneLocked now order'
          (keys.foldl (useKey now) (pruneLocked now order s.entries))
        providers := s.providers ++ [⟨false, 0, keys⟩] }
  | .observe i produced retired now =>
    (s.providers[i]?).map fun p => s.observeActivationDemand i p produced retired now
  | .close i now => (s.providers[i]?).map fun p => s.close i p now

end Model

section Sums

/-- What an open provider with this demand key has unfinished. -/
def Provider.owes (p : Provider) (key : String) : Nat :=
  if p.closed = false ∧ p.demandKey = key then p.unfinished else 0

/-- The legs for which an open provider uses a key. -/
def Provider.uses (p : Provider) (key : String) : Nat := if p.closed then 0 else p.keys.count key

/-- The unfinished bytes of the open providers with this demand key. -/
def owed (providers : List Provider) (key : String) : Nat :=
  (providers.map fun p => p.owes key).sum

/-- The uses of a key by open providers and their legs. -/
def uses (providers : List Provider) (key : String) : Nat :=
  (providers.map fun p => p.uses key).sum

/-- Byte totals stay below `2 ^ 64`. -/
def Fits (s : State) : Act → Prop
  | .observe i produced _ _ =>
    ∀ p ∈ s.providers[i]?, owed s.providers p.demandKey + produced < 2 ^ 64
  | _ => True

instance (s : State) (a : Act) : Decidable (Fits s a) := by
  cases a <;> unfold Fits <;> infer_instance

theorem sum_map_set {α : Type} (f : α → Nat) {l : List α} {i : Nat} {a : α} (h : l[i]? = some a)
    (b : α) : ((l.set i b).map f).sum + f a = (l.map f).sum + f b := by
  induction l generalizing i with
  | nil => cases h
  | cons x l ih =>
    cases i with
    | zero =>
      cases h
      simp only [set_cons_zero, map_cons, sum_cons]
      omega
    | succ i =>
      have hrest := ih h
      simp only [set_cons_succ, map_cons, sum_cons]
      omega

theorem le_sum_map {α : Type} (f : α → Nat) {l : List α} {i : Nat} {a : α} (h : l[i]? = some a) :
    f a ≤ (l.map f).sum :=
  single_le_sum (fun _ _ => Nat.zero_le _) _
    (mem_map_of_mem (mem_of_getElem? h))

/-- A key that no open provider uses is the demand key of none. -/
theorem owed_eq_zero {providers : List Provider} {key : String} (hkey : key ≠ "")
    (h : uses providers key = 0) : owed providers key = 0 := by
  refine sum_eq_zero fun n hn => ?_
  obtain ⟨p, hp, rfl⟩ := mem_map.1 hn
  have huses : p.uses key = 0 := by
    refine Nat.eq_zero_of_le_zero (h ▸ ?_)
    exact single_le_sum (fun _ _ => Nat.zero_le _) _ (mem_map_of_mem hp)
  unfold Provider.owes
  split
  · next hdemand =>
    -- the demand key is one of the keys
    exfalso
    obtain ⟨hopen, hhead⟩ := hdemand
    rw [Provider.uses, hopen, if_neg Bool.false_ne_true, count_eq_zero] at huses
    cases hkeys : p.keys with
    | nil =>
      rw [Provider.demandKey, hkeys] at hhead
      exact hkey hhead.symm
    | cons k ks =>
      rw [Provider.demandKey, hkeys] at hhead
      rw [hkeys] at huses
      exact huses (hhead ▸ mem_cons_self)
  · rfl

end Sums

section Books

/-- The entries have the given sums, and there is one for every key in use. -/
structure Books (owed uses : String → Nat) (entries : List Entry) : Prop where
  nodup : (entries.map Entry.key).Nodup
  named : ∀ e ∈ entries, e.key ≠ ""
  exact : ∀ e ∈ entries, e.backlog = owed e.key ∧ e.refs = uses e.key
  covered : ∀ key ≠ "", 0 < uses key → key ∈ entries.map Entry.key

variable {owed uses owed' uses' : String → Nat} {entries entries' : List Entry} {e : Entry}

/-- One entry is written, for new sums under its key alone. -/
theorem Books.put (h : Books owed uses entries) (x : Entry) (hname : x.key ≠ "")
    (hx : x.backlog = owed' x.key ∧ x.refs = uses' x.key)
    (hother : ∀ key ≠ "", key ≠ x.key → owed' key = owed key ∧ uses' key = uses key) :
    Books owed' uses' (put Entry.key entries x) where
  nodup := nodup_put h.nodup x
  named e he := by
    rcases mem_put_iff.1 he with rfl | ⟨he, _⟩
    · exact hname
    · exact h.named e he
  exact e he := by
    rcases mem_put_iff.1 he with rfl | ⟨he, hne⟩
    · exact hx
    · rw [(hother e.key (h.named e he) hne).1, (hother e.key (h.named e he) hne).2]
      exact h.exact e he
  covered key hkey hpos := by
    by_cases hxk : key = x.key
    · rw [hxk]
      exact mem_map_of_mem (mem_put_iff.2 (.inl rfl))
    · rw [(hother key hkey hxk).2] at hpos
      obtain ⟨e, he, rfl⟩ := mem_map.1 (h.covered key hkey hpos)
      exact mem_map_of_mem (mem_put_iff.2 (.inr ⟨he, hxk⟩))

/-- The same entries, for sums that differ under the empty key at most. -/
theorem Books.congr (h : Books owed uses entries)
    (hsame : ∀ key ≠ "", owed' key = owed key ∧ uses' key = uses key) :
    Books owed' uses' entries where
  nodup := h.nodup
  named := h.named
  exact e he := by
    rw [(hsame e.key (h.named e he)).1, (hsame e.key (h.named e he)).2]
    exact h.exact e he
  covered key hkey hpos := h.covered key hkey ((hsame key hkey).2 ▸ hpos)

/-- Entries without references may go. -/
theorem Books.sublist (h : Books owed uses entries) (hsub : entries'.Sublist entries)
    (hkept : ∀ e ∈ entries, 0 < e.refs → e ∈ entries') : Books owed uses entries' where
  nodup := h.nodup.sublist (hsub.map Entry.key)
  named e he := h.named e (hsub.subset he)
  exact e he := h.exact e (hsub.subset he)
  covered key hkey hpos := by
    obtain ⟨e, he, rfl⟩ := mem_map.1 (h.covered key hkey hpos)
    exact mem_map_of_mem (hkept e he ((h.exact e he).2 ▸ hpos))

theorem pruneExcess_sublist (order : List String) (entries : List Entry) :
    (pruneExcess order entries).Sublist entries := by
  induction order generalizing entries with
  | nil => exact List.Sublist.refl _
  | cons key order ih =>
    rw [pruneExcess]
    split
    · exact ih entries
    · split
      · dsimp only
        split
        · exact filter_sublist
        · exact (ih _).trans filter_sublist
      · exact ih entries

/-- A referenced entry is never the one under the key that is removed. -/
theorem mem_pruneExcess (order : List String) {entries : List Entry}
    (hnodup : (entries.map Entry.key).Nodup) (he : e ∈ entries) (hrefs : 0 < e.refs) :
    e ∈ pruneExcess order entries := by
  induction order generalizing entries with
  | nil => exact he
  | cons key order ih =>
    rw [pruneExcess]
    split
    · exact ih hnodup he
    · next f hf =>
      split
      · next hzero =>
        have hkey : e.key ≠ key := by
          rintro rfl
          rw [lookup_of_mem hnodup he] at hf
          cases hf
          omega
        have hm : e ∈ remove Entry.key entries key := mem_remove_iff.2 ⟨he, hkey⟩
        dsimp only
        split
        · exact hm
        · exact ih (nodup_remove hnodup key) hm
      · exact ih hnodup he

theorem pruneLocked_sublist (now : Int) (order : List String) (entries : List Entry) :
    (pruneLocked now order entries).Sublist entries := by
  unfold pruneLocked
  dsimp only
  split
  · exact filter_sublist
  · exact (pruneExcess_sublist order _).trans filter_sublist

theorem mem_pruneLocked (now : Int) (order : List String) (hnodup : (entries.map Entry.key).Nodup)
    (he : e ∈ entries) (hrefs : 0 < e.refs) : e ∈ pruneLocked now order entries := by
  have hm : e ∈ entries.filter fun e =>
      ¬(e.refs = 0 ∧ e.lastUsed ≠ 0 ∧ carrierCapacityIdleTTL < now - e.lastUsed) :=
    mem_filter.2 ⟨he, decide_eq_true fun hidle => by omega⟩
  unfold pruneLocked
  dsimp only
  split
  · exact hm
  · exact mem_pruneExcess order (hnodup.sublist (filter_sublist.map Entry.key)) hm hrefs

theorem Books.pruneLocked (h : Books owed uses entries) (now : Int) (order : List String) :
    Books owed uses (pruneLocked now order entries) :=
  h.sublist (pruneLocked_sublist now order entries) fun _ he hrefs =>
    mem_pruneLocked now order h.nodup he hrefs

theorem Books.useKey (h : Books owed uses entries) (now : Int) (key : String)
    (hidle : ∀ key ≠ "", uses key = 0 → owed key = 0) :
    Books owed (fun k => uses k + [key].count k) (useKey now entries key) := by
  have hother : ∀ k, k ≠ key → uses k + [key].count k = uses k := fun k hk => by
    rw [count_singleton, beq_eq_false_iff_ne.2 (Ne.symm hk)]
    rfl
  have hself : uses key + [key].count key = uses key + 1 := by rw [count_singleton_self]
  unfold CarrierRegistry.useKey
  split
  · next hempty =>
    exact h.congr fun k hk => ⟨rfl, hother k (hempty ▸ hk)⟩
  next hname =>
  split
  · next hnone =>
    have hnot : uses key = 0 :=
      Nat.eq_zero_of_not_pos fun hpos => lookup_eq_none_iff.1 hnone (h.covered key hname hpos)
    refine h.put _ hname ⟨(hidle key hname hnot).symm, ?_⟩ fun k _ hk => ⟨rfl, hother k hk⟩
    exact (hself.trans (congrArg (· + 1) hnot)).symm
  · next e he =>
    have hkey : e.key = key := key_of_lookup he
    have hexact := h.exact e (mem_of_lookup he)
    rw [hkey] at hexact
    refine h.put _ (hkey ▸ hname) ?_ fun k _ hk => ⟨rfl, hother k (hkey ▸ hk)⟩
    simp only [hkey, hexact.1, hexact.2, hself, and_self]

theorem Books.useKeys (keys : List String) (now : Int) (h : Books owed uses entries)
    (hidle : ∀ key ≠ "", uses key = 0 → owed key = 0) :
    Books owed (fun k => uses k + keys.count k)
      (keys.foldl (CarrierRegistry.useKey now) entries) := by
  induction keys generalizing uses entries with
  | nil => exact h
  | cons key keys ih =>
    have hrest := ih (h.useKey now key hidle) fun k hk hzero => hidle k hk (by omega)
    refine hrest.congr fun k _ => ⟨rfl, ?_⟩
    rw [← singleton_append, count_append, Nat.add_assoc]

theorem Books.releaseKey (h : Books owed uses entries) (now : Int) (key : String)
    (hused : 0 < uses key) :
    Books owed (fun k => uses k - [key].count k) (releaseKey now entries key) := by
  have hother : ∀ k, k ≠ key → uses k - [key].count k = uses k := fun k hk => by
    rw [count_singleton, beq_eq_false_iff_ne.2 (Ne.symm hk)]
    rfl
  unfold CarrierRegistry.releaseKey
  split
  · next hempty =>
    exact h.congr fun k hk => ⟨rfl, hother k (hempty ▸ hk)⟩
  next hname =>
  split
  · next hnone => exact absurd (h.covered key hname hused) (lookup_eq_none_iff.1 hnone)
  · next e he =>
    have hkey : e.key = key := key_of_lookup he
    have hexact := h.exact e (mem_of_lookup he)
    rw [hkey] at hexact
    refine h.put _ (hkey ▸ hname) ?_ fun k _ hk => ⟨rfl, hother k (hkey ▸ hk)⟩
    simp only [hkey, hexact.1, hexact.2, if_pos hused, count_singleton_self, and_self]

theorem Books.releaseKeys (keys : List String) (now : Int) (h : Books owed uses entries)
    (hused : ∀ key, keys.count key ≤ uses key) :
    Books owed (fun k => uses k - keys.count k)
      (keys.foldl (CarrierRegistry.releaseKey now) entries) := by
  induction keys generalizing uses entries with
  | nil => exact h
  | cons key keys ih =>
    have hcount : ∀ k, (key :: keys).count k = [key].count k + keys.count k := fun k => by
      rw [← singleton_append, count_append]
    have hpos : 0 < uses key := by
      have := hused key
      rw [hcount, count_singleton_self] at this
      omega
    have hrest := ih (h.releaseKey now key hpos) fun k => by
      have := hused k
      rw [hcount] at this
      omega
    refine hrest.congr fun k _ => ⟨rfl, ?_⟩
    rw [hcount, Nat.sub_add_eq]

end Books

section Invariant

/-- The entries have the sums of the providers. -/
def Inv (s : State) : Prop := Books (owed s.providers) (uses s.providers) s.entries

theorem inv_init : Inv init where
  nodup := nodup_nil
  named _ h := absurd h not_mem_nil
  exact _ h := absurd h not_mem_nil
  covered _ _ h := absurd h (Nat.lt_irrefl 0)

variable {s : State} {i : Nat} {p : Provider}

theorem owes_of_ne {key : String} (h : key ≠ p.demandKey) : p.owes key = 0 :=
  if_neg fun hc => h hc.2.symm

theorem owes_demandKey (hopen : p.closed = false) : p.owes p.demandKey = p.unfinished :=
  if_pos ⟨hopen, rfl⟩

theorem uses_setUnfinished (hp : s.providers[i]? = some p) (n : Nat) (key : String) :
    uses (s.providers.set i { p with unfinished := n }) key = uses s.providers key :=
  Nat.add_right_cancel (sum_map_set (fun q => q.uses key) hp { p with unfinished := n })

theorem owed_setUnfinished (hp : s.providers[i]? = some p) (hopen : p.closed = false) (n : Nat) :
    owed (s.providers.set i { p with unfinished := n }) p.demandKey + p.unfinished =
      owed s.providers p.demandKey + n := by
  have hsum := sum_map_set (fun q => q.owes p.demandKey) hp { p with unfinished := n }
  have hnew : Provider.owes { p with unfinished := n } p.demandKey = n :=
    owes_demandKey (p := { p with unfinished := n }) hopen
  simp only [owes_demandKey hopen, hnew] at hsum
  exact hsum

theorem owed_setUnfinished_of_ne (hp : s.providers[i]? = some p) (n : Nat) {key : String}
    (hne : key ≠ p.demandKey) :
    owed (s.providers.set i { p with unfinished := n }) key = owed s.providers key := by
  have hsum := sum_map_set (fun q => q.owes key) hp { p with unfinished := n }
  have hnew : Provider.owes { p with unfinished := n } key = 0 :=
    owes_of_ne (p := { p with unfinished := n }) hne
  simp only [owes_of_ne hne, hnew] at hsum
  exact hsum

theorem Inv.providerForLegs (h : Inv s) (keys : List String) (now : Int)
    (order order' : List String) :
    Inv
      { entries := pruneLocked now order'
          (keys.foldl (useKey now) (pruneLocked now order s.entries))
        providers := s.providers ++ [⟨false, 0, keys⟩] } := by
  have hbooks := ((h.pruneLocked now order).useKeys keys now fun _ => owed_eq_zero).pruneLocked now
    order'
  refine hbooks.congr fun key _ => ⟨?_, ?_⟩
  · simp only [owed, map_append, sum_append, map_singleton, sum_singleton,
      Provider.owes, ite_self, Nat.add_zero]
  · simp only [uses, map_append, sum_append, map_singleton, sum_singleton,
      Provider.uses, Bool.false_eq_true, if_false]

/-- What a provider has unfinished is part of the backlog of its entry. -/
theorem Inv.observe (h : Inv s) (hp : s.providers[i]? = some p) {produced : Nat} (retired : Nat)
    (now : Int) (hfits : owed s.providers p.demandKey + produced < 2 ^ 64) :
    Inv (s.observeActivationDemand i p produced retired now) := by
  unfold State.observeActivationDemand
  split
  · exact h
  next hguard =>
  rw [not_or, not_or, Bool.not_eq_true] at hguard
  obtain ⟨hopen, hname, _⟩ := hguard
  split
  · exact h
  next e he =>
  have hkey : e.key = p.demandKey := key_of_lookup he
  have hexact := h.exact e (mem_of_lookup he)
  rw [hkey] at hexact
  have hpart : p.unfinished ≤ owed s.providers p.demandKey :=
    owes_demandKey hopen ▸ le_sum_map (fun q => q.owes p.demandKey) hp
  refine h.put _ (hkey.trans_ne hname) ⟨?_, ?_⟩ fun key _ hne => ⟨?_, ?_⟩
  · have hsum := owed_setUnfinished hp hopen
      ((p.unfinished - min retired p.unfinished + produced) % 2 ^ 64)
    show (lower e.backlog _ + produced) % 2 ^ 64 = owed (s.providers.set i _) e.key
    rw [hkey, hexact.1, lower]
    split <;> omega
  · show e.refs = uses (s.providers.set i _) e.key
    rw [hkey, hexact.2]
    exact (uses_setUnfinished hp _ _).symm
  · exact owed_setUnfinished_of_ne hp _ (hkey ▸ hne)
  · exact uses_setUnfinished hp _ key

theorem Inv.close (h : Inv s) (hp : s.providers[i]? = some p) (now : Int) :
    Inv (s.close i p now) := by
  unfold State.close
  split
  · exact h
  next hguard =>
  have hopen : p.closed = false := Bool.eq_false_iff.2 hguard
  let providers' := s.providers.set i { p with closed := true, unfinished := 0 }
  have howed : ∀ key, owed providers' key + p.owes key = owed s.providers key := fun key =>
    (sum_map_set (fun q => q.owes key) hp _).trans (Nat.add_zero _)
  have huses : ∀ key, uses providers' key + p.keys.count key = uses s.providers key := fun key => by
    have hsum := sum_map_set (fun q => q.uses key) hp { p with closed := true, unfinished := 0 }
    rw [show p.uses key = p.keys.count key by rw [Provider.uses, hopen]; rfl] at hsum
    exact hsum.trans (Nat.add_zero _)
  have htake : Books (owed providers') (uses s.providers) (takeBacklog p s.entries) := by
    unfold takeBacklog
    split
    · next hnone =>
      -- an open provider has an entry under its demand key, unless the key is empty
      refine h.congr fun key hname => ⟨?_, rfl⟩
      have hne : key ≠ p.demandKey := by
        rintro rfl
        refine lookup_eq_none_iff.1 hnone (h.covered _ hname ?_)
        refine Nat.pos_of_ne_zero fun hzero => ?_
        have hcount : p.keys.count p.demandKey = 0 := by
          have := huses p.demandKey
          omega
        rw [count_eq_zero] at hcount
        cases hkeys : p.keys with
        | nil => exact hname (by rw [Provider.demandKey, hkeys]; rfl)
        | cons k ks =>
          refine hcount ?_
          rw [Provider.demandKey, hkeys]
          exact mem_cons_self
      rw [← howed key, owes_of_ne hne, Nat.add_zero]
    · next e he =>
      have hkey : e.key = p.demandKey := key_of_lookup he
      have hm := mem_of_lookup he
      have hexact := h.exact e hm
      refine h.put _ (h.named e hm) ⟨?_, hexact.2⟩ fun key _ hne => ⟨?_, rfl⟩
      · have hsum := howed p.demandKey
        rw [owes_demandKey hopen] at hsum
        show lower e.backlog p.unfinished = owed providers' e.key
        rw [hexact.1, hkey, lower]
        split <;> omega
      · rw [← howed key, owes_of_ne (hkey ▸ hne), Nat.add_zero]
  refine (htake.releaseKeys p.keys now fun key => ?_).congr fun key _ => ⟨rfl, ?_⟩
  · rw [← huses key]
    exact Nat.le_add_left _ _
  · rw [← huses key, Nat.add_sub_cancel]

theorem inv_step (s : State) (a : Act) (s' : State) (h : Inv s) (hfits : Fits s a)
    (hs : step s a = some s') : Inv s' := by
  cases a with
  | providerForLegs keys legCount now order order' =>
    cases hs
    exact h.providerForLegs (legKeys keys legCount) now order order'
  | observe i produced retired now =>
    obtain ⟨p, hp, rfl⟩ := Option.map_eq_some_iff.1 hs
    exact h.observe hp retired now (hfits p hp)
  | close i now =>
    obtain ⟨p, hp, rfl⟩ := Option.map_eq_some_iff.1 hs
    exact h.close hp now

theorem close_close {s s' : State} {i : Nat} {now : Int} (hs : step s (.close i now) = some s')
    (now' : Int) : step s' (.close i now') = some s' := by
  obtain ⟨p, hp, rfl⟩ := Option.map_eq_some_iff.1 hs
  have hlt : i < s.providers.length := (List.getElem?_eq_some_iff.1 hp).1
  by_cases hclosed : p.closed = true
  · simp only [step, State.close, hclosed, if_true, hp, Option.map_some]
  · simp only [step, State.close, hclosed, Bool.false_eq_true, if_false, getElem?_set_self hlt,
      Option.map_some, if_true]

end Invariant

/-- In every state of every run with byte totals below `2 ^ 64`: the backlog of an entry is what
the open providers with its key as their demand key have unfinished, its reference count is the
number of uses of its key by open providers and legs, and every key in use has an entry; no prune,
of whatever entries, takes one with references, and closing a provider again does nothing. -/
theorem capacity_accounts
    (acts : List Act)
    (s : State)
    (hrun : runActs step init acts = some s)
    (hfits : EachStep step Fits init acts) :
    (∀ e ∈ s.entries, e.backlog = owed s.providers e.key ∧ e.refs = uses s.providers e.key) ∧
    (∀ key ≠ "", 0 < uses s.providers key → ∃ e ∈ s.entries, e.key = key) ∧
    (∀ now order entries, (entries.map Entry.key).Nodup → ∀ e ∈ entries, 0 < e.refs →
      e ∈ pruneLocked now order entries) ∧
    (∀ i now now' s', step s (.close i now) = some s' → step s' (.close i now') = some s') := by
  have hinv : Inv s := invariant_of_eachStep inv_step inv_init hfits hrun
  refine ⟨hinv.exact, fun key hkey hused => mem_map.1 (hinv.covered key hkey hused), ?_,
    fun _ _ now' _ hs => close_close hs now'⟩
  exact fun now order _ hnodup _ he hrefs => mem_pruneLocked now order hnodup he hrefs

/-- Two sessions share a key, one of them for both legs; the second closes with bytes unfinished. -/
def sharedActs : List Act :=
  [.providerForLegs ["a", "b"] 2 1 [] [], .providerForLegs ["a", "a"] 2 2 [] [],
    .observe 0 100 0 3, .observe 1 40 10 4, .observe 0 0 30 5, .close 1 6]

theorem capacity_accounts_shared :
    ∃ s, runActs step init sharedActs = some s ∧
      ∃ e ∈ s.entries, e.key = "a" ∧ e.backlog = 70 ∧ e.refs = 1 := by
  refine ⟨_, rfl, ?_⟩
  obtain ⟨haccounts, hcovered, _⟩ := capacity_accounts sharedActs _ rfl (by decide)
  obtain ⟨e, he, hkey⟩ := hcovered "a" (by decide) (by decide)
  have hsums := haccounts e he
  rw [hkey] at hsums
  exact ⟨e, he, hkey, hsums⟩

end Smp3Multipath.Core.CarrierRegistry
