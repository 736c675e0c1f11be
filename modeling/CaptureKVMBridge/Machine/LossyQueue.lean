import Mathlib.Data.List.Basic

/-!
# Queues that may lose from the front

What a buffer that drops its oldest entries is for: what comes out is, in order,
some of what went in, and none of it twice. The queue is kept as all that was
ever sent, the number of entries that have left, and those of them that were
received; that these are in order among the former is a field, so each operation
hands on the proof.
-/

namespace CaptureKVMBridge.Machine

variable {α : Type}

/-- A queue with its history. -/
structure LossyQueue (α : Type) where
  sent : List α
  /-- how many entries have left at the front -/
  gone : Nat
  received : List α
  gone_le : gone ≤ sent.length
  received_sublist : received.Sublist (sent.take gone)

namespace LossyQueue

/-- What is in the queue. -/
def content (q : LossyQueue α) : List α := q.sent.drop q.gone

theorem length_content (q : LossyQueue α) : q.content.length = q.sent.length - q.gone :=
  List.length_drop

def empty : LossyQueue α where
  sent := []
  gone := 0
  received := []
  gone_le := Nat.le_refl 0
  received_sublist := List.nil_sublist _

/-- New entries go to the back. -/
def send (q : LossyQueue α) (as : List α) : LossyQueue α where
  sent := q.sent ++ as
  gone := q.gone
  received := q.received
  gone_le := by
    rw [List.length_append]
    exact Nat.le_add_right_of_le q.gone_le
  received_sublist := by
    rw [List.take_append_of_le_length q.gone_le]
    exact q.received_sublist

/-- Entries are lost from the front. -/
def drop (q : LossyQueue α) (n : Nat) (h : n ≤ q.content.length) : LossyQueue α where
  sent := q.sent
  gone := q.gone + n
  received := q.received
  gone_le := by
    have := q.gone_le
    rw [q.length_content] at h
    omega
  received_sublist :=
    q.received_sublist.trans (List.take_sublist_take_left (Nat.le_add_right _ _))

/-- Entries are received from the front. -/
def receive (q : LossyQueue α) (n : Nat) (h : n ≤ q.content.length) : LossyQueue α where
  sent := q.sent
  gone := q.gone + n
  received := q.received ++ q.content.take n
  gone_le := (q.drop n h).gone_le
  received_sublist := by
    rw [List.take_add]
    exact q.received_sublist.append (List.Sublist.refl _)

theorem content_send (q : LossyQueue α) (as : List α) :
    (q.send as).content = q.content ++ as := List.drop_append_of_le_length q.gone_le

theorem content_drop (q : LossyQueue α) (n : Nat) (h : n ≤ q.content.length) :
    (q.drop n h).content = q.content.drop n := List.drop_drop.symm

theorem content_receive (q : LossyQueue α) (n : Nat) (h : n ≤ q.content.length) :
    (q.receive n h).content = q.content.drop n := q.content_drop n h

/-- **What was received is, in order, some of what was sent.** -/
theorem received_sublist_sent (q : LossyQueue α) : q.received.Sublist q.sent :=
  q.received_sublist.trans (List.take_sublist ..)

end LossyQueue

end CaptureKVMBridge.Machine
