/-
**A program with any number of sockets and contexts.**

Sockets and contexts come and go, their futures interleave in any way, and what one of them receives
another one may send. One ledger keeps the messages of all of them: those that the callers, the library
and the heap's free list hold. The others are read off the handles: inside a `send_msg` that was not
polled, in the aio slot, or in `recovered_msg`.

* `Kept`, for one handle, becomes `ProgramKept`: the handles and the ledger hold every known message
  together, once.
* `program_messages_have_one_owner` — over every run of every program.
* `program_shows_iff_mailboxes` — a program shows exactly what it would show with mailboxes.
-/

import Mathlib.Algebra.BigOperators.Fin
import NngRs.Anng.Mailbox
import NngRs.Anng.Ownership
import NngRs.Machine.Parties

namespace NngRs.Anng

open NngRs.Sys EventMachine Custody

/-- Who can own a message outside the handles. -/
inductive Holder
  | caller
  | nng
  | freed
deriving DecidableEq, Repr

instance : Fintype Holder := ⟨{.caller, .nng, .freed}, fun o => by cases o <;> decide⟩

/-- Where a handle can own a message. -/
inductive Place
  /-- In a `send_msg` that was not polled. -/
  | unsent
  | slot
  | recovered
deriving DecidableEq, Repr

instance : Fintype Place := ⟨{.unsent, .slot, .recovered}, fun o => by cases o <;> decide⟩

section Definitions

variable {M : Type}

/-- What a handle owns. -/
def State.owns (s : State M) : Place → Multiset M
  | .unsent => one s.future.message
  | .slot => one s.slot
  | .recovered => one (s.endpoint.recoveredMsg.map Message.inner)

/-- **Who holds what in a program.** -/
def programHoldings (all : List (Handle × State M)) (g : Ledger M) :
    Holder ⊕ Fin all.length × Place → Multiset M
  | .inl .caller => g.caller
  | .inl .nng => g.nng
  | .inl .freed => g.freed
  | .inr (i, place) => (all[i]).2.owns place

/-- What is inside the handles. -/
def allInside (all : List (Handle × State M)) : Multiset M := (all.map fun p => p.2.inside).sum

/-- The ledger of a program. -/
def programLedger (M : Type) [DecidableEq M] :
    Watcher (List (Handle × State M)) (PartyAction Handle (Action M)) (Nat × Event M) (Ledger M)
      (CallerAction M) (Event M) where
  start := ⟨0, 0, 0, 0, none⟩
  react g t :=
    match t.act with
    | .join _ => some (g, [])
    | .act _ (.sendMsg message) => (g.send message).map (·, t.out.map Prod.snd)
    | .act _ _ => (g.seeAll (t.out.map Prod.snd)).map (·, t.out.map Prod.snd)
  own _ g b := (ledger M).own (machine M .Socket).start g b

/-- The handles of a program, with the ledger. -/
abbrev program (M : Type) [DecidableEq M] := (parties (machine M)).watched (programLedger M)

theorem sum_places (s : State M) : ∑ place, s.owns place = s.inside := by
  rw [show (Finset.univ : Finset Place) = {.unsent, .slot, .recovered} from rfl]
  simp only [Finset.sum_insert, Finset.mem_insert, Finset.mem_singleton, reduceCtorEq, or_self,
    not_false_eq_true, Finset.sum_singleton, State.owns, State.inside]
  abel

theorem sum_programHoldings (all : List (Handle × State M)) (g : Ledger M) :
    ∑ o, programHoldings all g o = allInside all + g.outside := by
  have holders : ∑ o : Holder, programHoldings all g (.inl o) = g.outside := by
    rw [show (Finset.univ : Finset Holder) = {.caller, .nng, .freed} from rfl]
    simp only [Finset.sum_insert, Finset.mem_insert, Finset.mem_singleton, reduceCtorEq, or_self,
      not_false_eq_true, Finset.sum_singleton, programHoldings, Ledger.outside]
    abel
  have handles : ∑ o : Fin all.length × Place, programHoldings all g (.inr o) = allInside all := by
    rw [Fintype.sum_prod_type, allInside, ← Fin.sum_univ_fun_getElem]
    exact Finset.sum_congr rfl fun i _ => sum_places (all[i]).2
  rw [Fintype.sum_sum_type, holders, handles, add_comm]

end Definitions

/-! ### What a step moves -/

section Balance

variable {M : Type} [DecidableEq M] {g g' : Ledger M}

/-- A message given to `send_msg` leaves the caller. -/
theorem Ledger.send_balance {message : Message M} (sent : g.send message = some g') :
    g'.outside + {message.inner} = g.outside ∧ g'.known = g.known ∧ g'.freed = g.freed := by
  unfold Ledger.send at sent
  split_ifs at sent with own
  cases sent
  refine ⟨?_, rfl, rfl⟩
  obtain ⟨rest, split⟩ := Multiset.exists_cons_of_mem own
  have erased : g.caller.erase message.inner = rest := by rw [split, Multiset.erase_cons_head]
  simp only [Ledger.outside, erased]
  rw [split, ← Multiset.singleton_add]
  abel

omit [DecidableEq M] in
/-- And is inside the handle. -/
theorem inside_sendNew {s : State M} {message : Message M} (free : s.future = .none) :
    State.inside { s with future := .sendNew message } = s.inside + {message.inner} := by
  have slot : s.slot = s.endpoint.aio.aio.msg :=
    slot_of_not_sending fun _ live => nomatch free.symm.trans live
  have slot' : State.slot { s with future := .sendNew message } = s.endpoint.aio.aio.msg :=
    slot_of_not_sending fun _ live => nomatch live
  simp only [State.inside, slot, slot', free, Future.message, one_some, one_none]
  abel

/-- What a caller makes and frees. -/
theorem own_balance {s : State M} {b : CallerAction M} {shown : List (Event M)}
    (taken : (ledger M).own s g b = some (g', shown)) (distinct : g.known.Nodup) :
    g'.outside + g.known = g.outside + g'.known ∧ g'.known.Nodup ∧
      ∀ msg, g'.freed.count msg = g.freed.count msg + shown.count (.freed msg) := by
  cases b with
  | alloc msg =>
    simp only [ledger] at taken
    split_ifs at taken with fresh
    cases taken
    refine ⟨?_, Multiset.nodup_cons.mpr ⟨fresh, distinct⟩, fun _ => rfl⟩
    simp only [Ledger.outside, ← Multiset.singleton_add]
    abel
  | free msg =>
    simp only [ledger] at taken
    split_ifs at taken with own
    cases taken
    refine ⟨?_, distinct, fun m => count_freed msg m g.freed⟩
    obtain ⟨rest, split⟩ := Multiset.exists_cons_of_mem own
    have erased : g.caller.erase msg = rest := by rw [split, Multiset.erase_cons_head]
    simp only [Ledger.outside, erased]
    rw [split, ← Multiset.singleton_add, ← Multiset.singleton_add]
    abel

theorem programLedger_react {t : Transition (List (Handle × State M)) (PartyAction Handle (Action M))
      (Nat × Event M)} {i : Nat} {a : Action M} (act : t.act = .act i a)
    (notSend : ∀ message, a ≠ .sendMsg message) :
    (programLedger M).react g t =
      (g.seeAll (t.out.map Prod.snd)).map (·, t.out.map Prod.snd) := by
  obtain ⟨pre, _, post, out⟩ := t
  cases act
  cases a with
  | sendMsg message => exact absurd rfl (notSend message)
  | _ => rfl

end Balance

/-! ### Runs -/

section Runs

variable {M : Type} [DecidableEq M]

/-- **The invariant of a program with its ledger.** -/
structure ProgramKept (history : List (Event M)) (s : List (Handle × State M) × Ledger M) : Prop where
  total : allInside s.1 + s.2.outside = s.2.known
  distinct : s.2.known.Nodup
  frees : ∀ msg, history.count (.freed msg) = s.2.freed.count msg

variable {history shown : List (Event M)} {all : List (Handle × State M)} {g g' : Ledger M} {i : Nat}
  {h : Handle} {s s' : State M}

/-- A handle that gains what the rest of the program loses. -/
theorem ProgramKept.moves (kept : ProgramKept history (all, g)) (found : all[i]? = some (h, s))
    (balance : s'.inside + g'.outside + g.known = s.inside + g.outside + g'.known) :
    allInside (all.set i (h, s')) + g'.outside = g'.known := by
  have parties : allInside (all.set i (h, s')) + s.inside = allInside all + s'.inside :=
    sum_map_set (fun p : Handle × State M => p.2.inside) (h, s') found
  have total : allInside all + g.outside = g.known := kept.total
  refine add_right_cancel (b := s.inside + g.outside) ?_
  calc allInside (all.set i (h, s')) + g'.outside + (s.inside + g.outside)
      = (allInside (all.set i (h, s')) + s.inside) + g'.outside + g.outside := by abel
    _ = s'.inside + g'.outside + (allInside all + g.outside) := by rw [parties]; abel
    _ = g'.known + (s.inside + g.outside) := by rw [total, balance]; abel

/-- A step of a handle, but for a new `send_msg`. -/
theorem ProgramKept.move {a : Action M} {out : List (Event M)}
    (kept : ProgramKept history (all, g)) (found : all[i]? = some (h, s)) (sound : Sound s)
    (move : Move h s a s' out) (notSend : ∀ message, a ≠ .sendMsg message)
    (seen : g.seeAll out = some g') :
    ProgramKept (history ++ out) (all.set i (h, s'), g') := by
  refine ⟨kept.moves found ?_, Ledger.seeAll_distinct seen kept.distinct, fun msg => ?_⟩
  · have inside := move.balance sound notSend
    have outside := Ledger.seeAll_balance seen
    refine add_right_cancel (b := (out.map Event.departs).sum + (out.map Event.arrives).sum) ?_
    calc s'.inside + g'.outside + g.known +
          ((out.map Event.departs).sum + (out.map Event.arrives).sum)
        = (s'.inside + (out.map Event.departs).sum) +
          (g'.outside + g.known + (out.map Event.arrives).sum) := by abel
      _ = (s.inside + (out.map Event.arrives).sum) +
          (g.outside + g'.known + (out.map Event.departs).sum) := by rw [inside, outside]
      _ = s.inside + g.outside + g'.known +
          ((out.map Event.departs).sum + (out.map Event.arrives).sum) := by abel
  · rw [List.count_append, kept.frees msg, Ledger.seeAll_freed msg seen]

/-- A new `send_msg`. -/
theorem ProgramKept.send {message : Message M} (kept : ProgramKept history (all, g))
    (found : all[i]? = some (h, s)) (free : s.future = .none) (sent : g.send message = some g') :
    ProgramKept history (all.set i (h, { s with future := .sendNew message }), g') := by
  obtain ⟨outside, known, freed⟩ := Ledger.send_balance sent
  refine ⟨kept.moves found ?_, ?_, fun msg => ?_⟩
  · rw [inside_sendNew free, known, ← outside]
    abel
  · rw [known]
    exact kept.distinct
  · rw [freed]
    exact kept.frees msg

/-- **Every step of a program keeps the messages.** -/
theorem programKept_of_run
    {trace : List (Transition (List (Handle × State M) × Ledger M)
      (PartyAction Handle (Action M) ⊕ CallerAction M) (Event M))}
    {s : List (Handle × State M) × Ledger M} (run : (program M).Run trace s) :
    ProgramKept (events trace) s := by
  have base (all : List (Handle × State M)) (reached : (parties (machine M)).Reachable all) :
      ∀ p ∈ all, Sound p.2 := fun p member => sound_of_reachable (reached.party p member)
  refine run.watched_invariant base (fun _ => True)
    ⟨rfl, Multiset.nodup_zero, fun _ => rfl⟩ ?_ ?_ fun _ _ => trivial
  · rintro history all g (kind | ⟨i, a⟩) all' out g' shown sound - kept stepped reacted -
    · cases stepped
      cases reacted
      refine ⟨?_, kept.distinct, fun msg => by rw [List.append_nil]; exact kept.frees msg⟩
      rw [allInside, List.map_append, List.sum_append]
      exact (congrArg (· + _) (add_zero _)).trans kept.total
    · obtain ⟨h, s, s', out, found, moved, rfl, rfl⟩ := parties_act stepped
      obtain ⟨-, move⟩ := step_move (sound _ (List.mem_of_getElem? found)) moved
      have plain : (out.map (i, ·)).map Prod.snd = out := by
        rw [List.map_map]
        exact List.map_id out
      by_cases sends : ∃ message, a = .sendMsg message
      · obtain ⟨message, rfl⟩ := sends
        cases move with
        | turn _ _ _ _ thread => simp at thread
        | sendMsg _ free =>
          obtain ⟨_, sent, same⟩ := Option.map_eq_some_iff.mp reacted
          cases same
          rw [List.map_nil, List.map_nil, List.append_nil]
          exact kept.send found free sent
      · have notSend : ∀ message, a ≠ .sendMsg message := fun message same => sends ⟨message, same⟩
        rw [programLedger_react rfl notSend, plain] at reacted
        obtain ⟨_, seen, same⟩ := Option.map_eq_some_iff.mp reacted
        cases same
        exact kept.move found (sound _ (List.mem_of_getElem? found)) move notSend seen
  · intro history all g b g' shown _ kept taken _
    obtain ⟨outside, distinct, frees⟩ := own_balance (s := (machine M .Socket).start) taken kept.distinct
    refine ⟨?_, distinct, fun msg => ?_⟩
    · have total : allInside all + g.outside = g.known := kept.total
      refine add_right_cancel (b := g.known) ?_
      calc allInside all + g'.outside + g.known
          = allInside all + (g'.outside + g.known) := add_assoc _ _ _
        _ = (allInside all + g.outside) + g'.known := by rw [outside]; abel
        _ = g'.known + g.known := by rw [total, add_comm]
    · rw [List.count_append, kept.frees msg, frees msg]

/-- **Every message of a program has exactly one owner, at every step of every run**, with any number
of sockets and contexts: the callers, the library, the free list, or one place of one handle. No message
is freed twice, a handle without a future has an empty slot, a dropped handle owns nothing, and when all
are dropped no message is lost. -/
theorem program_messages_have_one_owner
    {trace : List (Transition (List (Handle × State M) × Ledger M)
      (PartyAction Handle (Action M) ⊕ CallerAction M) (Event M))}
    {s : List (Handle × State M) × Ledger M} (run : (program M).Run trace s) :
    (∀ msg ∈ s.2.known, ∃! o, msg ∈ programHoldings s.1 s.2 o) ∧
      (∀ o, (programHoldings s.1 s.2 o).Nodup ∧
        ∀ msg ∈ programHoldings s.1 s.2 o, msg ∈ s.2.known) ∧
      (∀ msg, (events trace).count (.freed msg) ≤ 1) ∧
      (∀ p ∈ s.1, p.2.future = .none → p.2.owns .slot = 0) ∧
      (∀ p ∈ s.1, p.2.status = .closed → ∀ place, p.2.owns place = 0) ∧
      ((∀ p ∈ s.1, p.2.status = .closed) → s.2.caller + s.2.nng + s.2.freed = s.2.known) := by
  obtain ⟨total, distinct, frees⟩ := programKept_of_run run
  have linear : Linear (programHoldings s.1 s.2) s.2.known :=
    ⟨(sum_programHoldings s.1 s.2).trans total, distinct⟩
  have reached (p : Handle × State M) (member : p ∈ s.1) : (machine M p.1).Reachable p.2 :=
    Reachable.party (M := machine M) (Reachable.unwatched ⟨trace, run⟩) p member
  have vacant (p : Handle × State M) (member : p ∈ s.1) (free : p.2.future = .none) :
      p.2.owns .slot = 0 := by
    have idle := (sound_of_reachable (reached p member)).idle fun _ _ => by rw [free]; nofun
    have slot : p.2.slot = p.2.endpoint.aio.aio.msg :=
      slot_of_not_sending fun _ live => nomatch free.symm.trans live
    rw [State.owns, slot, idle.msgNull, one_none]
  have empty (p : Handle × State M) (member : p ∈ s.1) (closed : p.2.status = .closed)
      (place : Place) : p.2.owns place = 0 := by
    obtain ⟨free, none⟩ := closed_empty (reached p member) closed
    cases place with
    | unsent =>
      rw [State.owns, free]
      rfl
    | slot => exact vacant p member free
    | recovered =>
      rw [State.owns, none]
      rfl
  refine ⟨fun msg known => linear.existsUnique known,
    fun o => ⟨linear.nodup o, fun msg owned => linear.known_of_mem owned⟩, fun msg => ?_, vacant,
    empty, fun closed => ?_⟩
  · rw [frees msg]
    exact Multiset.nodup_iff_count_le_one.mp (linear.nodup (.inl .freed)) msg
  · have inside : allInside s.1 = 0 := by
      refine List.sum_eq_zero fun held member => ?_
      obtain ⟨p, there, rfl⟩ := List.mem_map.mp member
      rw [← sum_places]
      exact Finset.sum_eq_zero fun place _ => empty p there (closed p there) place
    rw [inside, zero_add] at total
    exact total

end Runs

/-- A relay: a socket receives a message, a context fails to send it on and sends it again, and both are
dropped. -/
theorem program_messages_have_one_owner_relay :
    ∃ (trace : List (Transition (List (Handle × State Nat) × Ledger Nat)
        (PartyAction Handle (Action Nat) ⊕ CallerAction Nat) (Event Nat)))
      (s : List (Handle × State Nat) × Ledger Nat), (program Nat).Run trace s ∧
        s.1.length = 2 ∧ (∀ p ∈ s.1, p.2.status = .closed) ∧ s.2.known = {7} ∧ s.2.nng = {7} ∧
        (∃! o, 7 ∈ programHoldings s.1 s.2 o) ∧ (events trace).count (.freed 7) ≤ 1 ∧
        s.2.caller + s.2.nng + s.2.freed = s.2.known := by
  have run := run_of_replay (M := program Nat)
    [.inl (.join .Socket), .inl (.join .Context), .inl (.act 0 .recvMsg), .inl (.act 0 .poll),
      .inl (.act 0 .run), .inl (.act 0 (.complete (.received 7))), .inl (.act 0 .callback),
      .inl (.act 0 .callbackReturn), .inl (.act 0 .poll), .inl (.act 0 .run),
      .inl (.act 1 (.sendMsg ⟨7, 0⟩)), .inl (.act 1 .poll), .inl (.act 0 .close), .inl (.act 1 .run),
      .inl (.act 1 (.complete (.failed ⟨20, by decide⟩))), .inl (.act 1 .callback),
      .inl (.act 1 .callbackReturn), .inl (.act 1 .poll), .inl (.act 1 .run),
      .inl (.act 1 (.sendMsg ⟨7, 0⟩)), .inl (.act 1 .poll), .inl (.act 1 .run),
      .inl (.act 1 (.complete (.sent true))), .inl (.act 1 .callback),
      .inl (.act 1 .callbackReturn), .inl (.act 1 .poll), .inl (.act 1 .run), .inl (.act 1 .close)]
    rfl
  obtain ⟨owner, _, frees, _, _, kept⟩ := program_messages_have_one_owner run
  have both {a b : Handle × State Nat} (first : a.2.status = .closed) (second : b.2.status = .closed) :
      ∀ p ∈ [a, b], p.2.status = .closed :=
    List.forall_mem_cons.mpr ⟨first, List.forall_mem_singleton.mpr second⟩
  exact ⟨_, _, run, rfl, both rfl rfl, rfl, rfl, owner 7 (by decide), frees 7, kept (both rfl rfl)⟩

/-- **A program shows exactly what it would show with mailboxes**, however its sockets and contexts
interleave. -/
theorem program_shows_iff_mailboxes {M : Type} (shown : List (Nat × Event M)) :
    (parties (machine M)).Shows shown ↔ (parties (mailbox M)).Shows shown :=
  shows_iff (Simulation.beside fun h => mailbox_simulates h)
    (Simulation.beside fun h => handle_simulates h) shown

end NngRs.Anng
