import Mathlib.Data.List.Basic

/-!
# Ordered streams with a confirmed frontier

The abstract purpose of a reliable stream: blocks are pushed at one end and
delivered in order at the other, and the pushing end learns a frontier below
which everything was delivered.  The two orderings of the three frontiers are
fields, so a state in which something is confirmed but not delivered cannot be
built.
-/

namespace Smp3Multipath.Lib

universe u

/-- Blocks pushed, how many were delivered and how many are confirmed. -/
structure OrderedStream (β : Type u) where
  sent : List β
  delivered : Nat
  confirmed : Nat
  confirmed_le : confirmed ≤ delivered
  delivered_le : delivered ≤ sent.length

namespace OrderedStream

variable {β : Type u}

/-- The stream on which nothing happened yet. -/
def empty : OrderedStream β :=
  { sent := []
    delivered := 0
    confirmed := 0
    confirmed_le := Nat.le_refl 0
    delivered_le := Nat.le_refl 0 }

/-- The blocks delivered so far. -/
def output (c : OrderedStream β) : List β :=
  c.sent.take c.delivered

/-- One move of the stream: push a block, deliver the next one, or confirm a
delivered frontier (possibly the old one again). -/
inductive Move (c : OrderedStream β) : OrderedStream β → Prop where
  | push (c' : OrderedStream β) (b : β)
      (hsent : c'.sent = c.sent ++ [b])
      (hdelivered : c'.delivered = c.delivered)
      (hconfirmed : c'.confirmed = c.confirmed) : Move c c'
  | deliver (c' : OrderedStream β)
      (hsent : c'.sent = c.sent)
      (hdelivered : c'.delivered = c.delivered + 1)
      (hconfirmed : c'.confirmed = c.confirmed) : Move c c'
  | confirm (c' : OrderedStream β)
      (hsent : c'.sent = c.sent)
      (hdelivered : c'.delivered = c.delivered)
      (hconfirmed : c.confirmed ≤ c'.confirmed) : Move c c'

theorem output_eq_sent_of_confirmed (c : OrderedStream β) (h : c.confirmed = c.sent.length) :
    c.output = c.sent := by
  have hle := c.confirmed_le
  exact List.take_of_length_le (by omega)

end OrderedStream
end Smp3Multipath.Lib
