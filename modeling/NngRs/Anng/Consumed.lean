/-
**Reading a message: consumed bytes stay consumed, unless something is put before them.**

A message starts empty and is written, shortened, advanced and read in any order. Every byte written
is one of a kind; a byte is consumed when `advance` moves the read position past it. The body and the
read position are a window (`Reader.ledger`), and each method is one change of it (`Use.new_change`):
`prepend` is the one that puts bytes in front, and it does not move the read position with them.

* `Reader.Sound` — the read position stays inside the body, so `chunk` never panics, and every byte is
  there once.
* `consumed_never_reappear_iff` — over every run: no consumed byte is in a later chunk and none is
  skipped, exactly when nothing is prepended behind which bytes were read.
-/

import NngRs.Anng.Buffer
import NngRs.Machine.Run
import NngRs.Machine.Window

namespace NngRs.Anng

open Sys EventMachine Message

/-- A message without a body, in an allocation that is an object. -/
structure Message.Empty {α : Type} (target : Target) (msg : Message (NngMsg α)) : Prop where
  body : msg.asSlice = []
  pos : msg.pos = 0
  fits : msg.inner.Fits target

/-- A new message is empty. -/
theorem Message.withCapacity_empty {α : Type} {target : Target} {size : Nat}
    {before body after : List α} {msg : Message (NngMsg α)}
    (created : withCapacity target size before body after = .ok msg) : msg.Empty target := by
  obtain ⟨body, pos, valid⟩ := withCapacity_valid created
  exact ⟨body, pos, valid.fits⟩

/-- What is done to the message, with the library's decisions. -/
inductive Use (α : Type)
  | write (buf : List α) (reserving appending : Placement α)
  | putSlice (src : List α) (reserving appending : Placement α)
  | prepend (buf : List α) (inserting : Placement α)
  | truncate (len : Nat)
  | truncateFront (len : Nat) (trimming : Placement α)
  | advance (cnt : Nat)
  | chunk
deriving DecidableEq, Repr

namespace Use

variable {α : Type}

/-- The bytes handed to a method that writes. -/
def bytes : Use α → List α
  | write buf _ _ | putSlice buf _ _ | prepend buf _ => buf
  | truncate _ | truncateFront _ _ | advance _ | chunk => []

/-- Whether the method did what it is for, and the message after it. -/
def outcome (target : Target) (capacity : Capacity) (msg : Message (NngMsg α)) :
    Use α → Bool × Message (NngMsg α)
  | write buf reserving appending =>
    match msg.write target capacity reserving appending buf with
    | .ok outcome => outcome
    | .error _ => (false, msg)
  | putSlice src reserving appending =>
    match msg.putSlice target capacity reserving appending src with
    | .ok outcome => outcome
    | .error _ => (false, msg)
  | prepend buf inserting =>
    match msg.prepend target inserting buf with
    | some msg => (true, msg)
    | none => (false, msg)
  | truncate len => (true, msg.truncate len)
  | truncateFront len trimming => (true, msg.truncateFront target trimming len)
  | advance cnt =>
    match msg.advance target cnt with
    | .ok msg => (true, msg)
    | .error _ => (false, msg)
  | chunk => (true, msg)

/-- The bytes that a method has written. -/
def written (target : Target) (capacity : Capacity) (msg : Message (NngMsg α)) (use : Use α) :
    List α :=
  if (use.outcome target capacity msg).1 then use.bytes else []

/-- The bytes a method consumes. -/
def consumed (msg : Message (NngMsg α)) : Use α → List α
  | advance cnt => (msg.asSlice.drop msg.pos).take cnt
  | write _ _ _ | putSlice _ _ _ | prepend _ _ | truncate _ | truncateFront _ _ | chunk => []

end Use

/-- A message, the bytes written so far and the bytes consumed so far. -/
structure Reader (α : Type) where
  msg : Message (NngMsg α)
  seen : List α
  consumed : List α
deriving DecidableEq

section Reading

variable {α : Type} (target : Target) (capacity : Capacity)

/-- Every byte handed in is new, and `advance` stays within `remaining`. -/
def Reader.Admits (s : Reader α) (use : Use α) : Prop :=
  use.bytes.Nodup ∧ (∀ byte ∈ use.bytes, byte ∉ s.seen)
    ∧ match use with
      | .advance cnt => cnt ≤ s.msg.remaining
      | _ => True

instance [DecidableEq α] (s : Reader α) (use : Use α) : Decidable (s.Admits use) :=
  match use with
  | .advance cnt => inferInstanceAs (Decidable (_ ∧ _ ∧ cnt ≤ s.msg.remaining))
  | .write .. | .putSlice .. | .prepend .. | .truncate _ | .truncateFront _ _ | .chunk =>
    inferInstanceAs (Decidable (_ ∧ _ ∧ True))

/-- The reader after a method. -/
def Reader.next (s : Reader α) (use : Use α) : Reader α :=
  { msg := (use.outcome target capacity s.msg).2
    seen := s.seen ++ use.written target capacity s.msg
    consumed := s.consumed ++ use.consumed s.msg }

/-- One message; the events are what `chunk` returned. -/
def reader [DecidableEq α] (start : Message (NngMsg α)) :
    EventMachine (Reader α) (Use α) (List α) where
  start := ⟨start, [], []⟩
  step s use :=
    if s.Admits use then
      some (s.next target capacity use,
        match use, s.msg.chunk with
        | .chunk, .ok bytes => [bytes]
        | _, _ => [])
    else none

/-- A reader as a ledger over the body. -/
def Reader.ledger (s : Reader α) : WindowLedger α :=
  ⟨⟨s.msg.asSlice, s.msg.pos⟩, s.seen, s.consumed⟩

/-- The change of the body that a method makes. -/
def Use.change (msg : Message (NngMsg α)) (use : Use α) : Window.Change α :=
  match use with
  | .write _ _ _ | .putSlice _ _ _ => .grow (use.written target capacity msg)
  | .prepend _ _ => .push (use.written target capacity msg)
  | .truncate len => .cut len
  | .truncateFront len _ => .trim (msg.len - len)
  | .advance cnt => .advance cnt
  | .chunk => .grow []

variable {target : Target} {capacity : Capacity}

/-! ## A method is one change of the body -/

/-- The body and the read position after a method. -/
theorem Use.outcome_becomes (capacity : Capacity) {msg : Message (NngMsg α)} (use : Use α)
    (positioned : msg.Positioned) (fits : msg.inner.Fits target)
    (within : ∀ cnt, use = .advance cnt → cnt ≤ msg.remaining) :
    Becomes target msg (use.outcome target capacity msg).2
      ((Window.mk msg.asSlice msg.pos).apply (use.change target capacity msg)).items
      ((Window.mk msg.asSlice msg.pos).apply (use.change target capacity msg)).pos := by
  have unchanged : Becomes target msg msg msg.asSlice msg.pos := Becomes.refl msg
  cases use with
  | write buf reserving appending =>
    rw [change, written, outcome]
    cases written : msg.write target capacity reserving appending buf with
    | error p => simpa [Window.apply] using unchanged
    | ok outcome => exact write_ok written
  | putSlice src reserving appending =>
    rw [change, written, outcome]
    cases put : msg.putSlice target capacity reserving appending src with
    | error p => simpa [Window.apply] using unchanged
    | ok outcome => exact putSlice_ok put
  | prepend buf inserting =>
    rw [change, written, outcome]
    cases prepended : msg.prepend target inserting buf with
    | none => exact unchanged
    | some msg' => exact prepend_some prepended
  | truncate len => exact truncate_becomes len positioned
  | truncateFront len trimming => exact truncateFront_becomes trimming len
  | advance cnt =>
    rw [change, outcome, advance_within fits positioned (within cnt rfl)]
    exact ⟨rfl, rfl, rfl, id⟩
  | chunk =>
    rw [change, outcome]
    simpa [Window.apply] using unchanged

variable {s s' : Reader α} {use : Use α}

/-- The read position is inside the body, every byte is there once, and the allocation is an
object. -/
structure Reader.Sound (target : Target) (s : Reader α) : Prop where
  labelled : s.ledger.Labelled
  fits : s.msg.inner.Fits target

theorem Reader.Sound.positioned (sound : s.Sound target) : s.msg.Positioned := sound.labelled.inside

theorem Reader.Admits.within (admits : s.Admits use) :
    ∀ cnt, use = .advance cnt → cnt ≤ s.msg.remaining := by
  rintro cnt rfl
  exact admits.2.2

theorem Use.new_change (msg : Message (NngMsg α)) (use : Use α) :
    (use.change target capacity msg).new = use.written target capacity msg := by
  cases use with
  | write | putSlice | prepend => rfl
  | truncate | truncateFront | advance | chunk => exact (ite_self _).symm

theorem Use.written_sublist (msg : Message (NngMsg α)) (use : Use α) :
    (use.written target capacity msg).Sublist use.bytes := by
  rw [written]
  split
  · exact List.Sublist.refl _
  · exact List.nil_sublist _

/-- **A method is one change of the ledger.** -/
theorem Reader.next_ledger (capacity : Capacity) (sound : s.Sound target) (admits : s.Admits use) :
    (s.next target capacity use).ledger = s.ledger.apply (use.change target capacity s.msg) := by
  have becomes := use.outcome_becomes capacity sound.positioned sound.fits admits.within
  have window : Window.mk (use.outcome target capacity s.msg).2.asSlice
      (use.outcome target capacity s.msg).2.pos =
        (Window.mk s.msg.asSlice s.msg.pos).apply (use.change target capacity s.msg) := by
    rw [asSlice, becomes.body, becomes.pos]
  have taken : use.consumed s.msg =
      (Window.mk s.msg.asSlice s.msg.pos).taken (use.change target capacity s.msg) := by
    cases use <;> rfl
  rw [ledger, next, window, ← use.new_change, taken]
  rfl

/-- What the machine admits is what the ledger allows. -/
theorem Reader.Admits.allows (admits : s.Admits use) :
    s.ledger.Allows (use.change target capacity s.msg) := by
  obtain ⟨nodup, fresh, -⟩ := id admits
  refine ⟨?_, ?_, ?_⟩
  · rw [use.new_change]
    exact nodup.sublist (use.written_sublist s.msg)
  · rw [use.new_change]
    exact fun byte member => fresh byte ((use.written_sublist s.msg).subset member)
  · intro cnt same
    have within := admits.within
    cases use with
    | advance cnt' =>
      cases same
      rw [ledger, Window.unread, List.length_drop]
      exact within cnt rfl
    | _ => cases same

/-! ## Along a run -/

theorem Reader.Sound.next (sound : s.Sound target) (admits : s.Admits use) :
    (s.next target capacity use).Sound target := by
  constructor
  · rw [next_ledger capacity sound admits]
    exact WindowLedger.apply_labelled sound.labelled admits.allows
  · exact (use.outcome_becomes capacity sound.positioned sound.fits admits.within).fits sound.fits

/-- Sound, and what was read is what was consumed. -/
structure Reader.Tidy (target : Target) (s : Reader α) : Prop where
  sound : s.Sound target
  clean : s.ledger.Clean

theorem Reader.tidy_start {start : Message (NngMsg α)} (empty : start.Empty target) :
    (Reader.mk start [] []).Tidy target := by
  have same : (Reader.mk start [] []).ledger = WindowLedger.empty := by
    rw [ledger, empty.body, empty.pos]
    rfl
  refine ⟨⟨?_, empty.fits⟩, ?_⟩
  · rw [same]
    exact WindowLedger.labelled_empty
  · rw [same]
    exact WindowLedger.clean_empty

/-- `chunk` returns what is unread. -/
theorem Reader.Sound.chunk (sound : s.Sound target) :
    s.msg.chunk = .ok s.ledger.window.unread := by
  have inside : s.msg.pos ≤ s.msg.len := sound.positioned
  rw [Message.chunk, if_pos inside]
  rfl

/-- A call of `chunk` now returns no consumed byte. -/
def Reader.Hides (s : Reader α) : Prop :=
  ∃ bytes, s.msg.chunk = .ok bytes ∧ ∀ byte ∈ s.consumed, byte ∉ bytes

/-- No step but an advance takes a byte out of the chunk that stays in the body. -/
def SkipsNothing (t : Transition (Reader α) (Use α) (List α)) : Prop :=
  (∀ cnt, t.act ≠ .advance cnt) →
    ∃ bytes bytes', t.pre.msg.chunk = .ok bytes ∧ t.post.msg.chunk = .ok bytes'
      ∧ ∀ byte ∈ bytes, byte ∈ t.post.msg.asSlice → byte ∈ bytes'

/-- Nothing is prepended where bytes were read, unless the library has no memory for it. -/
def PrependsUnread (target : Target) (t : Transition (Reader α) (Use α) (List α)) : Prop :=
  match t.act with
  | .prepend buf inserting =>
    (t.pre.msg.inner.insert target inserting buf).isSome → buf = [] ∨ t.pre.msg.pos = 0
  | _ => True

instance [DecidableEq α] (t : Transition (Reader α) (Use α) (List α)) :
    Decidable (PrependsUnread target t) := by
  unfold PrependsUnread
  split <;> infer_instance

/-- A method is harmless for the ledger exactly when it prepends nothing where bytes were read. -/
theorem harmless_iff {a : Use α} {out : List (List α)} :
    s.ledger.window.Harmless (a.change target capacity s.msg) ↔
      PrependsUnread target ⟨s, a, s', out⟩ := by
  cases a with
  | prepend buf inserting =>
    have written : (Use.prepend buf inserting).written target capacity s.msg =
        if (s.msg.inner.insert target inserting buf).isSome then buf else [] := by
      rw [Use.written, Use.outcome, Message.prepend]
      cases s.msg.inner.insert target inserting buf <;> rfl
    rw [Use.change, written]
    constructor
    · intro harmless done
      exact harmless buf (by rw [if_pos done])
    · rintro unread new ⟨⟩
      by_cases done : (s.msg.inner.insert target inserting buf).isSome
      · rw [if_pos done]
        exact unread done
      · rw [if_neg done]
        exact Or.inl rfl
  | _ => exact iff_of_true (by rintro new ⟨⟩) trivial

/-- **Nothing is ever skipped.** -/
theorem skipsNothing (sound : s.Sound target) {a : Use α} (admits : s.Admits a)
    (out : List (List α)) : SkipsNothing ⟨s, a, s.next target capacity a, out⟩ := by
  intro other
  refine ⟨_, _, sound.chunk, (sound.next admits).chunk, fun byte unread stays => ?_⟩
  have other' : ∀ count, a.change target capacity s.msg ≠ .advance count := by
    intro count same
    cases a with
    | advance cnt => exact other cnt rfl
    | _ => cases same
  have ledger := Reader.next_ledger capacity sound admits
  have stays : byte ∈ (s.next target capacity a).ledger.window.items := stays
  rw [ledger] at stays ⊢
  exact WindowLedger.apply_unskipped sound.labelled admits.allows other' unread stays

variable [DecidableEq α] {start : Message (NngMsg α)}

theorem reader_step {a : Use α} {out : List (List α)}
    (stepped : (reader target capacity start).step s a = some (s', out)) :
    s.Admits a ∧ s' = s.next target capacity a := by
  obtain ⟨admits, same⟩ := Option.ite_none_right_eq_some.mp stepped
  cases same
  exact ⟨admits, rfl⟩

theorem Reader.Tidy.step {a : Use α} {out : List (List α)} (tidy : s.Tidy target)
    (stepped : (reader target capacity start).step s a = some (s', out))
    (unread : PrependsUnread target ⟨s, a, s', out⟩) : s'.Tidy target := by
  obtain ⟨admits, rfl⟩ := reader_step stepped
  refine ⟨tidy.sound.next admits, ?_⟩
  rw [next_ledger capacity tidy.sound admits]
  exact WindowLedger.apply_clean tidy.sound.labelled tidy.clean admits.allows (harmless_iff.mpr unread)

theorem Reader.Tidy.step_iff {a : Use α} {out : List (List α)} (tidy : s.Tidy target)
    (stepped : (reader target capacity start).step s a = some (s', out)) :
    (s'.Hides ∧ SkipsNothing ⟨s, a, s', out⟩) ↔ PrependsUnread target ⟨s, a, s', out⟩ := by
  obtain ⟨admits, rfl⟩ := reader_step stepped
  have sound := tidy.sound
  have hides : (s.next target capacity a).Hides ↔
      s.ledger.window.Harmless (a.change target capacity s.msg) := by
    rw [← WindowLedger.apply_unread_iff sound.labelled tidy.clean admits.allows,
      ← next_ledger capacity sound admits, Hides, (sound.next admits).chunk]
    constructor
    · rintro ⟨bytes, ⟨⟩, hidden⟩ byte unread consumed
      exact hidden byte consumed unread
    · exact fun hidden => ⟨_, rfl, fun byte consumed unread => hidden byte unread consumed⟩
  exact (and_iff_left (skipsNothing sound admits out)).trans (hides.trans harmless_iff)

/-- **Over every run: no consumed byte is in a later chunk and none is skipped, exactly when nothing is
prepended where bytes were read.** -/
theorem consumed_never_reappear_iff (empty : start.Empty target)
    {steps : List (Transition (Reader α) (Use α) (List α))}
    (run : (reader target capacity start).Run steps s) :
    (∀ t ∈ steps, t.post.Hides ∧ SkipsNothing t) ↔ ∀ t ∈ steps, PrependsUnread target t := by
  refine run.forall_while_iff ?_
    (fun _ _ _ _ (tidy : Reader.Tidy target _) stepped unread => tidy.step stepped unread)
    fun _ _ _ _ tidy stepped => tidy.step_iff stepped
  exact Reader.tidy_start empty

end Reading

/-- A new message with room on both sides. -/
def roomy : Message (NngMsg Nat) := ⟨⟨[], [0, 0], [], [0, 0, 0, 0, 0, 0, 0, 0]⟩, 0⟩

theorem roomy_empty : roomy.Empty .x64 := by
  have created : withCapacity .x64 8 [0, 0] [0, 0, 0, 0, 0, 0, 0, 0] [] = .ok roomy := rfl
  exact withCapacity_empty created

theorem consumed_never_reappear_prepended :
    ∃ steps s, (reader .x64 .contents roomy).Run steps s
      ∧ events steps = [[4, 1, 2, 3], [2, 3], [2, 3, 5]]
      ∧ ∀ t ∈ steps, t.post.Hides ∧ SkipsNothing t := by
  have run := run_of_replay (M := reader .x64 .contents roomy)
    [.write [1, 2, 3] .keep .keep, .prepend [4] .keep, .chunk, .advance 2, .chunk, .truncateFront 3 .keep,
      .putSlice [5, 6] .keep .keep, .truncate 4, .chunk]
    rfl
  exact ⟨_, _, run, by decide, (consumed_never_reappear_iff roomy_empty run).mpr (by decide)⟩

/-- **Consumed bytes do reappear**: three bytes are written and two of them read; a byte is prepended,
and the second of the two is unread again. -/
theorem consumed_byte_reappears :
    ¬ ∀ (start : Message (NngMsg Nat)), start.Empty .x64 →
      ∀ steps s, (reader .x64 .contents start).Run steps s →
        ∀ t ∈ steps, t.post.Hides ∧ SkipsNothing t := by
  intro always
  have run := run_of_replay (M := reader .x64 .contents roomy)
    [.write [1, 2, 3] .keep .keep, .advance 2, .prepend [4] .keep]
    rfl
  obtain ⟨⟨bytes, found, hidden⟩, -⟩ := always roomy roomy_empty _ _ run _
    (List.mem_of_getLast? rfl)
  cases found
  exact absurd (by decide) (hidden 2 (by decide))

end NngRs.Anng
