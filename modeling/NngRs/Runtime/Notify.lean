/-
**A one-permit notification, as the async runtime documents it.**

`notify_one` wakes the task that waits, or else stores a permit for the next one; at most one permit
is ever stored. A `Notified` future registers itself as a waiter the first time it is polled without
finding a permit. Dropped after it was woken but before it saw that, it passes the notification on;
with nobody else waiting that means the permit is stored again.

One owner polls at a time, so there is at most one waiter. Each operation comes with its values on
the four shapes a `Notify` takes: permit or none, and nobody, a sleeping or a woken waiter.
-/

import Mathlib.Logic.Basic

/-- What the registered `Notified` future knows. -/
inductive Waiter
  | waiting
  | notified
deriving DecidableEq, Repr

structure Notify where
  permit : Bool
  waiter : Option Waiter
deriving DecidableEq, Repr

namespace Notify

/-- No permit, nobody waiting. -/
def new : Notify := ⟨false, none⟩

/-- `Notify::notify_one`. -/
def notifyOne (n : Notify) : Notify :=
  match n.waiter with
  | some .waiting => { n with waiter := some .notified }
  | _ => { n with permit := true }

/-- The first poll of a `Notified` future: ready if it finds the permit, else it registers. -/
def pollNew (n : Notify) : Bool × Notify :=
  if n.permit then (true, { n with permit := false }) else (false, { n with waiter := some .waiting })

/-- A later poll of the registered future. -/
def pollWaiting (n : Notify) : Bool × Notify :=
  match n.waiter with
  | some .notified => (true, { n with waiter := none })
  | _ => (false, n)

/-- Dropping the registered future: an unseen notification is passed on. -/
def dropWaiting (n : Notify) : Notify :=
  match n.waiter with
  | some .notified => notifyOne { n with waiter := none }
  | _ => { n with waiter := none }

end Notify
