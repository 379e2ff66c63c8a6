/-
**Collecting the responses of a survey, with `next` and with `try_next`.**

`SurveyResponses::next` waits in `recv_msg`, `SurveyResponses::try_next` asks with `try_recv_msg` and is
called again while there is nothing yet. Each translates the library's error twice: `next` by the match
of `Aio::wait` and its own, `try_next` by the match of `try_recv_msg` and its own.

A collector is a watcher of the survey's context, from any state in which the handle can be used. It
calls one of the two until that reports an end, and keeps what the library's receive produced (`heard`)
and what the caller has (`report`).

* `ending_iff` — the translations agree on two codes.
* `Nexting`, `Trying` — the invariants: the caller has what was recovered before and then what was heard,
  and the end is the translation of the last outcome (`reports_of_next`, `reports_of_try`).
* `next_ends`, `try_ends` — for all outcomes there is a collection that hears them and ends.
* `survey_report_iff` — over every survey and all outcomes: the reports agree exactly on these codes.
-/

import NngRs.Anng.Exchange

namespace NngRs.Anng

open NngRs.Sys EventMachine

variable {M : Type}

/-! ### The two collectors -/

/-- How a collection ends: the survey ended, or the call returned an error or panicked. -/
inductive Ending
  | surveyEnded
  | failed (e : AioError)
  | panicked (p : Panic)
deriving DecidableEq, Repr

/-- What the caller has collected. -/
structure Report (M : Type) where
  responses : List (Message M)
  ending : Option Ending
deriving DecidableEq, Repr

/-- A collection in progress, with what the library's receive has produced for it. -/
structure Collection (Heard M : Type) where
  heard : List Heard
  report : Report M
deriving DecidableEq, Repr

/-- What the caller makes of the return of `next`. -/
def Report.next (report : Report M) : Option (Except AioError (Message M)) → Report M
  | some (.ok message) => { report with responses := report.responses ++ [message] }
  | some (.error e) => { report with ending := some (.failed e) }
  | none => { report with ending := some .surveyEnded }

/-- What the caller makes of the return of `try_next`: on `None` it calls again. -/
def Report.tryNext (report : Report M) : Option (Except AioError (Option (Message M))) → Report M
  | some (.ok (some message)) => { report with responses := report.responses ++ [message] }
  | some (.ok none) => { report with ending := some .surveyEnded }
  | some (.error e) => { report with ending := some (.failed e) }
  | none => report

/-- The report after an event of the context. -/
def Report.see (report : Report M) : Event M → Report M
  | .recvReturned result => report.next (SurveyResponses.next result)
  | .tryRecvReturned result => report.tryNext (SurveyResponses.tryNext result)
  | .panicked p => { report with ending := some (.panicked p) }
  | _ => report

/-- Calls `next` until it reports an end. A `next` future may be dropped, and made again. -/
def nextCollector (M : Type) :
    Watcher (State M) (Action M) (Event M) (Collection (Completion M) M) Empty Empty where
  start := ⟨[], [], none⟩
  react c t :=
    match t.act with
    | .recvMsg => if c.report.ending.isSome then none else some (c, [])
    | .complete completion => some ({ c with heard := c.heard ++ [completion] }, [])
    | .poll | .run | .drop => some ({ c with report := t.out.foldl Report.see c.report }, [])
    | .callback | .callbackReturn => some (c, [])
    | _ => none
  own _ _ := nofun

/-- Whether `try_recv_msg` asks the library, and not in vain. -/
def Heard (recovered : Option (Message M)) (returned : Recvmsg M) : Prop :=
  recovered = none ∧ returned.errno ≠ ErrorCode.EAGAIN.value.toNat

instance (recovered : Option (Message M)) (returned : Recvmsg M) :
    Decidable (Heard recovered returned) :=
  decidable_of_iff (recovered.isNone = true ∧ returned.errno ≠ ErrorCode.EAGAIN.value.toNat)
    (and_congr_left' Option.isNone_iff_eq_none)

/-- Calls `try_next` until it reports an end. -/
def tryCollector (M : Type) :
    Watcher (State M) (Action M) (Event M) (Collection (Recvmsg M) M) Empty Empty where
  start := ⟨[], [], none⟩
  react c t :=
    match t.act with
    | .tryRecvMsg returned =>
      if c.report.ending.isSome then none
      else some (⟨if Heard t.pre.endpoint.recoveredMsg returned then c.heard ++ [returned] else c.heard,
        t.out.foldl Report.see c.report⟩, [])
    | _ => none
  own _ _ := nofun

/-- Collecting with `next`, from a state of the survey's context. -/
abbrev nextCollecting (s : State M) := ((machine M .Context).startedAt s).watched (nextCollector M)

/-- Collecting with `try_next`, from a state of the survey's context. -/
abbrev tryCollecting (s : State M) := ((machine M .Context).startedAt s).watched (tryCollector M)

/-- The outcomes of the library's receive: responses, and an error that ends the survey. -/
structure Outcomes (M : Type) where
  responses : List M
  terminal : NonZeroU32
deriving DecidableEq, Repr

/-- The outcomes, as `nng_ctx_recv` completes with them. -/
def Outcomes.completions (outcomes : Outcomes M) : List (Completion M) :=
  outcomes.responses.map .received ++ [.failed outcomes.terminal]

/-- The error as `nng_ctx_recvmsg` returns it. -/
def refusal (err : NngErr) : Recvmsg M := ⟨err.toNat, none⟩

/-- The outcomes, as `nng_ctx_recvmsg` returns them. -/
def Outcomes.answers (outcomes : Outcomes M) : List (Recvmsg M) :=
  outcomes.responses.map (fun msg => ⟨0, some msg⟩) ++ [refusal outcomes.terminal.val]

/-! ### The translations of an error -/

/-- What the error arms of `next` come to. -/
def nextEnd : AioError → Ending
  | .TimedOut => .surveyEnded
  | .Operation (.NngError .ESTATE) => .surveyEnded
  | e => .failed e

/-- What the error arms of `try_next` come to. -/
def tryEnd : AioError → Ending
  | .Operation (.NngError .ESTATE) => .surveyEnded
  | e => .failed e

theorem Report.see_recvError (report : Report M) (e : AioError) :
    report.see (.recvReturned (.error e)) = { report with ending := some (nextEnd e) } := by
  cases e with
  | TimedOut | Cancelled => rfl
  | Operation kind =>
    cases kind with
    | NngError code => cases code <;> rfl
    | _ => rfl

theorem Report.see_tryError (report : Report M) (e : AioError) :
    report.see (.tryRecvReturned (.error e)) = { report with ending := some (tryEnd e) } := by
  cases e with
  | TimedOut | Cancelled => rfl
  | Operation kind =>
    cases kind with
    | NngError code => cases code <;> rfl
    | _ => rfl

/-- How `next` ends on an error of the library. -/
def nextEnding (err : NngErr) : Option Ending := (Aio.errorOf err).map nextEnd

/-- How `try_next` ends on an answer of the library. -/
def tryEnding (returned : Recvmsg M) : Option Ending :=
  match recvmsgResult returned with
  | .error p => some (.panicked p)
  | .ok (.error e) => some (tryEnd e)
  | .ok (.ok _) => none

theorem recvmsgResult_refusal {err : NngErr} (nonzero : err ≠ 0) :
    recvmsgResult (refusal err : Recvmsg M) = recvmsgError err := by
  have positive : ¬((err.toNat : Int) < 0) := by omega
  have failed : (err.toNat : Int) ≠ 0 := fun zero =>
    nonzero (UInt32.toNat_inj.mp (Int.ofNat_eq_zero.mp zero))
  rw [recvmsgResult, refusal, if_neg positive, if_neg failed, Int.toNat_natCast, UInt32.ofNat_toNat]

theorem recvmsgError_definite {err : NngErr} {nothing : Option (Message M)}
    (definite : err ≠ ErrorCode.EAGAIN.value) : recvmsgError err ≠ .ok (.ok nothing) := by
  rw [recvmsgError, if_neg definite]
  split_ifs <;> rintro ⟨⟩

/-- `next` never reports a panic. -/
theorem nextEnding_ne_panicked (err : NngErr) (p : Panic) : nextEnding err ≠ some (.panicked p) := by
  intro ends
  obtain ⟨e, -, same⟩ := Option.map_eq_some_iff.mp ends
  unfold nextEnd at same
  split at same <;> cases same

/-- **The two translations agree on the two codes only**: on a timeout `next` reports the end of the
survey and `try_next` an error, and on all other codes `try_recv_msg` panics. -/
theorem ending_iff {err : NngErr} (nonzero : err ≠ 0) (definite : err ≠ ErrorCode.EAGAIN.value) :
    nextEnding err = tryEnding (refusal err : Recvmsg M) ↔
      err = ErrorCode.ESTATE.value ∨ err = ErrorCode.ENOTSUP.value := by
  rw [tryEnding, recvmsgResult_refusal nonzero, recvmsgError, if_neg definite]
  by_cases notSupported : err = ErrorCode.ENOTSUP.value
  · rw [notSupported]
    exact iff_of_true rfl (.inr rfl)
  by_cases state : err = ErrorCode.ESTATE.value
  · rw [state]
    exact iff_of_true rfl (.inl rfl)
  by_cases timedOut : err = ErrorCode.ETIMEDOUT.value
  · rw [timedOut]
    refine iff_of_false ?_ (by decide)
    show some Ending.surveyEnded ≠ some (.failed .TimedOut)
    decide
  refine iff_of_false ?_ (not_or.mpr ⟨state, notSupported⟩)
  rw [if_neg notSupported, if_neg state, if_neg timedOut]
  split_ifs <;> exact nextEnding_ne_panicked _ _

/-! ### What a collection with `next` has collected -/

/-- The response that a receive completed with. -/
def Completion.response : Completion M → Option (Message M)
  | .received msg => some (.fromRawUnchecked msg)
  | _ => none

/-- What has been received and is not returned yet. -/
def State.unreturned (s : State M) : List (Message M) :=
  s.endpoint.recoveredMsg.toList ++ match s.future with
    | .waiting _ _ => (s.endpoint.aio.aio.msg.map .fromRawUnchecked).toList
    | _ => []

section Next

variable {s s' : State M} {c c' : Collection (Completion M) M} {act : Action M} {out : List (Event M)}
  {first : List (Message M)} {shown : List Empty}

/-- **The invariant of a collection with `next`**, of which `first` was received before it began. -/
structure Nexting (first : List (Message M)) (s : State M) (c : Collection (Completion M) M) :
    Prop where
  notNew : ∀ message, s.future ≠ .sendNew message
  notSent : ∀ point, s.future ≠ .waiting .Sent point
  responses : c.report.responses ++ s.unreturned = first ++ c.heard.filterMap Completion.response
  /-- The last outcome is the failure of the operation. -/
  failed : ∀ point, s.future = .waiting .Received point → s.endpoint.aio.aio.stage.running = false →
    s.endpoint.aio.aio.result ≠ NNG_OK →
    ∃ err, c.heard.getLast? = some (.failed err) ∧ err.val = s.endpoint.aio.aio.result
  ended : ∀ ending, c.report.ending = some ending → s.future = .none ∧
    s.endpoint.recoveredMsg = none ∧
    ∃ err, c.heard.getLast? = some (.failed err) ∧ nextEnding err.val = some ending

theorem unreturned_of_waiting {implication : ImplicationOnMessage} {point : WaitPoint}
    (live : s.future = .waiting implication point) :
    s.unreturned = s.endpoint.recoveredMsg.toList ++
      (s.endpoint.aio.aio.msg.map .fromRawUnchecked).toList := by
  rw [State.unreturned, live]

theorem unreturned_of_free (free : s.future = .none ∨ s.future = .recvNew) :
    s.unreturned = s.endpoint.recoveredMsg.toList := by
  rcases free with free | free <;> rw [State.unreturned, free, List.append_nil]

/-- No send is live where a response is waited for, or nothing is. -/
theorem no_send {future : Future M}
    (shape : future = .none ∨ ∃ point, future = .waiting .Received point) :
    (∀ message, future ≠ .sendNew message) ∧ ∀ point, future ≠ .waiting .Sent point := by
  obtain rfl | ⟨_, rfl⟩ := shape
  · exact ⟨nofun, nofun⟩
  · exact ⟨nofun, nofun⟩

theorem nexting_start (free : s.future = .none) :
    Nexting s.endpoint.recoveredMsg.toList s (nextCollector M).start := by
  obtain ⟨notNew, notSent⟩ := no_send (.inl free)
  refine ⟨notNew, notSent, ?_, ?_, nofun⟩
  · rw [unreturned_of_free (.inl free)]
    exact (List.append_nil _).symm
  · rw [free]
    nofun

/-- A live future collects still. -/
theorem Nexting.open' (inv : Nexting first s c) (live : s.future ≠ .none) :
    c.report.ending = none :=
  Option.eq_none_iff_forall_ne_some.mpr fun ending ends => live (inv.ended ending ends).1

/-- A wait for a response goes on, with what was received and heard. -/
theorem Nexting.goesOn {point point' : WaitPoint} (inv : Nexting first s c)
    (live : s.future = .waiting .Received point) (live' : s'.future = .waiting .Received point')
    (recovered : s'.endpoint.recoveredMsg = s.endpoint.recoveredMsg)
    (msg : s'.endpoint.aio.aio.msg = s.endpoint.aio.aio.msg)
    (result : s'.endpoint.aio.aio.result = s.endpoint.aio.aio.result)
    (stopped : s'.endpoint.aio.aio.stage.running = false →
      s.endpoint.aio.aio.stage.running = false) : Nexting first s' c where
  notNew := (no_send (.inr ⟨_, live'⟩)).1
  notSent := (no_send (.inr ⟨_, live'⟩)).2
  responses := by
    rw [unreturned_of_waiting live', recovered, msg, ← unreturned_of_waiting live]
    exact inv.responses
  failed _ _ done failure := by
    rw [result] at failure ⊢
    exact inv.failed point live (stopped done) failure
  ended ending ends := nomatch (inv.open' (by rw [live]; nofun)).symm.trans ends

/-- A wait for a response hears the outcome of its operation. -/
theorem Nexting.hears {point : WaitPoint} (inv : Nexting first s c)
    (live : s.future = .waiting .Received point) (live' : s'.future = .waiting .Received point)
    {completion : Completion M} (new : s'.unreturned = s.unreturned ++ completion.response.toList)
    (failed : s'.endpoint.aio.aio.result ≠ NNG_OK →
      ∃ err, completion = .failed err ∧ err.val = s'.endpoint.aio.aio.result) :
    Nexting first s' { c with heard := c.heard ++ [completion] } where
  notNew := (no_send (.inr ⟨_, live'⟩)).1
  notSent := (no_send (.inr ⟨_, live'⟩)).2
  responses := by
    have heard : [completion].filterMap Completion.response = completion.response.toList := by
      cases completion <;> rfl
    rw [new, List.filterMap_append, heard, ← List.append_assoc, ← List.append_assoc, inv.responses]
  failed _ _ _ failure := by
    obtain ⟨err, rfl, same⟩ := failed failure
    exact ⟨err, List.getLast?_concat, same⟩
  ended ending ends := nomatch (inv.open' (by rw [live]; nofun)).symm.trans ends

/-- The end of a live future, with a new report. -/
theorem Nexting.finishes (inv : Nexting first s c) (free : s'.future = .none) {report : Report M}
    (same : report.responses ++ s'.unreturned = c.report.responses ++ s.unreturned)
    (ended : ∀ ending, report.ending = some ending → s'.endpoint.recoveredMsg = none ∧
      ∃ err, c.heard.getLast? = some (.failed err) ∧ nextEnding err.val = some ending) :
    Nexting first s' ⟨c.heard, report⟩ where
  notNew := (no_send (.inl free)).1
  notSent := (no_send (.inl free)).2
  responses := same.trans inv.responses
  failed _ waits := nomatch free.symm.trans waits
  ended ending ends := ⟨free, ended ending ends⟩

/-- The end of a live future that does not end the collection. -/
theorem Nexting.returns (inv : Nexting first s c) (live : s.future ≠ .none) (free : s'.future = .none)
    {responses : List (Message M)}
    (same : responses ++ s'.unreturned = c.report.responses ++ s.unreturned) :
    Nexting first s' ⟨c.heard, { c.report with responses }⟩ :=
  inv.finishes free same fun _ ends => nomatch (inv.open' live).symm.trans ends

/-- **A step keeps the invariant.** -/
theorem Nexting.step (sound : Sound s) (inv : Nexting first s c) (move : Move .Context s act s' out)
    (reacted : (nextCollector M).react c ⟨s, act, s', out⟩ = some (c', shown)) :
    Nexting first s' c' := by
  cases move with
  | sendMsg | tryRecovered | tryReceived | tryRefused | tryPanicked | close => cases reacted
  | sendStart message live | dropSendNew message live => exact absurd live (inv.notNew message)
  | sendOk live | sendFailed _ _ live | sendDroppedOk live | sendDroppedFailed _ live
  | completeSent _ _ _ live => exact absurd live (inv.notSent _)
  | recvMsg free =>
    simp only [nextCollector] at reacted
    by_cases finished : c.report.ending.isSome = true
    · rw [if_pos finished] at reacted
      cases reacted
    · rw [if_neg finished] at reacted
      cases reacted
      have responses := inv.responses
      rw [unreturned_of_free (.inl free)] at responses
      refine ⟨nofun, nofun, ?_, nofun, fun ending ends => ?_⟩
      · rw [unreturned_of_free (.inr rfl)]
        exact responses
      · rw [ends] at finished
        exact absurd rfl finished
  | recvRecovered message live recovered =>
    cases reacted
    refine inv.returns (by rw [live]; nofun) rfl ?_
    rw [unreturned_of_free (.inl rfl), unreturned_of_free (.inr live), recovered]
    exact List.append_nil _
  | recvStart live vacant =>
    cases reacted
    have open' := inv.open' (by rw [live]; nofun)
    refine ⟨nofun, nofun, ?_, nofun, fun ending ends => (nomatch open'.symm.trans ends)⟩
    rw [unreturned_of_waiting rfl, ← inv.responses, unreturned_of_free (.inr live)]
    exact congrArg _ (List.append_nil _)
  | turn _ implication point point' thread live =>
    cases implication with
    | Sent => exact absurd live (inv.notSent point)
    | Received =>
      rcases thread with rfl | rfl | rfl <;> cases reacted <;> exact inv.goesOn live rfl rfl rfl rfl id
  | recvOk msg live stage ok held =>
    cases reacted
    refine inv.returns (by rw [live]; nofun) rfl ?_
    have empty := sound.recovered_none live
    rw [unreturned_of_waiting live, unreturned_of_free (.inl rfl), held, empty]
    exact List.append_nil _
  | recvFailed e live stage failed empty reported =>
    -- no other operation has completed since the one that failed
    cases reacted
    obtain ⟨err, last, same⟩ := inv.failed _ live (by rw [stage]; rfl) failed
    refine inv.finishes rfl ?_ fun ending ends => ?_
    · rw [unreturned_of_waiting live, unreturned_of_free (.inl rfl), empty, List.foldl_cons,
        Report.see_recvError]
      exact congrArg _ (List.append_nil _).symm
    · rw [List.foldl_cons, Report.see_recvError] at ends
      cases ends
      refine ⟨sound.recovered_none live, err, last, ?_⟩
      rw [nextEnding, same, reported]
      rfl
  | dropRecvNew live =>
    cases reacted
    refine inv.returns (by rw [live]; nofun) rfl ?_
    rw [unreturned_of_free (.inr live), unreturned_of_free (.inl rfl)]
  | recvDroppedOk msg live stage held empty =>
    -- the response came too late for this call, and is recovered for the next one
    cases reacted
    refine inv.returns (by rw [live]; nofun) rfl ?_
    rw [unreturned_of_waiting live, unreturned_of_free (.inl rfl), held, empty]
    rfl
  | recvDroppedFailed live stage empty =>
    cases reacted
    refine inv.returns (by rw [live]; nofun) rfl ?_
    rw [unreturned_of_waiting live, unreturned_of_free (.inl rfl), empty]
    exact congrArg _ (List.append_nil _).symm
  | completeReceived point msg live stage vacant =>
    cases reacted
    have live' : (s.withNng ⟨some msg, NNG_OK, .completed⟩).future = .waiting .Received point := live
    refine inv.hears live live' ?_ fun failed => absurd rfl failed
    rw [unreturned_of_waiting live, unreturned_of_waiting live', vacant]
    exact congrArg (· ++ _) (List.append_nil _).symm
  | completeFailed implication point err live stage =>
    cases implication with
    | Sent => exact absurd live (inv.notSent point)
    | Received =>
      cases reacted
      have live' : (s.withNng ⟨s.endpoint.aio.aio.msg, err.val, .completed⟩).future =
          .waiting .Received point := live
      refine inv.hears live live' ?_ fun _ => ⟨err, rfl, rfl⟩
      rw [unreturned_of_waiting live, unreturned_of_waiting live']
      exact (List.append_nil _).symm
  | callback implication point live stage =>
    cases implication with
    | Sent => exact absurd live (inv.notSent point)
    | Received =>
      cases reacted
      exact inv.goesOn live rfl rfl rfl rfl fun _ => by rw [stage]; rfl
  | callbackReturn implication point live stage =>
    cases implication with
    | Sent => exact absurd live (inv.notSent point)
    | Received =>
      cases reacted
      have live' : (s.withNng { s.endpoint.aio.aio with stage := .idle }).future =
          .waiting .Received point := live
      exact inv.goesOn live live' rfl rfl rfl fun _ => by rw [stage]; rfl

end Next

/-- The responses of the outcomes, as the caller has them. -/
def Outcomes.messages (outcomes : Outcomes M) : List (Message M) :=
  outcomes.responses.map .fromRawUnchecked

theorem filterMap_completions (outcomes : Outcomes M) :
    outcomes.completions.filterMap Completion.response = outcomes.messages := by
  rw [Outcomes.completions, List.filterMap_append, List.filterMap_map]
  exact (List.append_nil _).trans (congrFun (List.filterMap_eq_map (f := Message.fromRawUnchecked)) _)

section NextRuns

variable {s : State M} {state : State M × Collection (Completion M) M}
  {trace : List (Transition (State M × Collection (Completion M) M) (Action M ⊕ Empty) Empty)}

theorem nexting_of_run (reached : (machine M .Context).Reachable s) (free : s.future = .none)
    (run : (nextCollecting s).Run trace state) :
    Nexting s.endpoint.recoveredMsg.toList state.1 state.2 := by
  refine run.watched_invariant (fun _ later => sound_of_reachable (reached.further later))
    (fun _ => True) (I := fun _ state => Nexting s.endpoint.recoveredMsg.toList state.1 state.2)
    ?_ ?_ ?_ fun _ _ => trivial
  · exact nexting_start free
  · intro _ s c a s' out c' shown sound _ inv stepped reacted _
    obtain ⟨-, move⟩ := step_move sound stepped
    exact inv.step sound move reacted
  · intro _ s c b
    exact b.elim

/-- **What `next` reports**: the recovered response, the responses that were received, and `next`'s
translation of the error. -/
theorem reports_of_next (reached : (machine M .Context).Reachable s) (free : s.future = .none)
    (run : (nextCollecting s).Run trace state) (finished : state.2.report.ending ≠ none)
    {outcomes : Outcomes M} (heard : state.2.heard = outcomes.completions) :
    state.2.report =
      ⟨s.endpoint.recoveredMsg.toList ++ outcomes.messages, nextEnding outcomes.terminal.val⟩ := by
  have inv := nexting_of_run reached free run
  obtain ⟨ending, ends⟩ := Option.ne_none_iff_exists'.mp finished
  obtain ⟨done, empty, err, last, translated⟩ := inv.ended ending ends
  have responses := inv.responses
  rw [unreturned_of_free (.inl done), empty, Option.toList_none, List.append_nil, heard,
    filterMap_completions] at responses
  rw [heard, Outcomes.completions, List.getLast?_concat] at last
  cases last
  rw [← responses, translated, ← ends]

end NextRuns

/-! ### What a collection with `try_next` has collected -/

/-- The response that `nng_ctx_recvmsg` returned. -/
def Recvmsg.response (returned : Recvmsg M) : Option (Message M) :=
  if returned.errno = 0 then returned.msg.map .fromRawUnchecked else none

section Try

variable {s s' : State M} {c c' : Collection (Recvmsg M) M} {act : Action M} {out : List (Event M)}
  {first : List (Message M)} {shown : List Empty}

/-- **The invariant of a collection with `try_next`**, of which `first` was received before it began. -/
structure Trying (first : List (Message M)) (s : State M) (c : Collection (Recvmsg M) M) : Prop where
  responses : c.report.responses ++ s.endpoint.recoveredMsg.toList =
    first ++ c.heard.filterMap Recvmsg.response
  ended : ∀ ending, c.report.ending = some ending → s.endpoint.recoveredMsg = none ∧
    ∃ returned, c.heard.getLast? = some returned ∧ tryEnding returned = some ending

/-- `try_recv_msg` would block on one code only, and then returns nothing. -/
theorem recvmsgResult_again {returned : Recvmsg M}
    (again : returned.errno = ErrorCode.EAGAIN.value.toNat) :
    recvmsgResult returned = .ok (.ok none) := by
  rw [recvmsgResult, again]
  rfl

theorem response_of_refused {returned : Recvmsg M} {result : Except AioError (Option (Message M))}
    (refused : ∀ msg, result ≠ .ok (some msg)) (answer : recvmsgResult returned = .ok result) :
    returned.response = none := by
  obtain ⟨errno, slot⟩ := returned
  by_cases ok : errno = 0
  · subst ok
    cases slot with
    | none => cases answer
    | some msg =>
      cases answer
      exact absurd rfl (refused _)
  · exact if_neg ok

theorem response_of_panicked {returned : Recvmsg M} {p : Panic}
    (answer : recvmsgResult returned = .error p) : returned.response = none := by
  obtain ⟨errno, slot⟩ := returned
  by_cases ok : errno = 0
  · subst ok
    cases slot with
    | none => rfl
    | some msg => cases answer
  · exact if_neg ok

theorem filterMap_heard {p : Prop} [Decidable p] {heard : List (Recvmsg M)} {returned : Recvmsg M}
    (empty : returned.response = none) :
    (if p then heard ++ [returned] else heard).filterMap Recvmsg.response =
      heard.filterMap Recvmsg.response := by
  by_cases asked : p
  · rw [if_pos asked, List.filterMap_append, List.filterMap_cons_none empty]
    exact List.append_nil _
  · rw [if_neg asked]

/-- The reaction to a call of `try_next`. -/
theorem tryCollector_react {returned : Recvmsg M}
    (reacted : (tryCollector M).react c ⟨s, .tryRecvMsg returned, s', out⟩ = some (c', shown)) :
    c.report.ending = none ∧
      c' = ⟨if Heard s.endpoint.recoveredMsg returned then c.heard ++ [returned] else c.heard,
        out.foldl Report.see c.report⟩ := by
  simp only [tryCollector] at reacted
  cases ending : c.report.ending with
  | some end' =>
    rw [ending] at reacted
    cases reacted
  | none =>
    rw [ending] at reacted
    cases reacted
    exact ⟨rfl, rfl⟩

/-- An answer that ends the collection was heard. -/
theorem Trying.ends (inv : Trying first s c) (vacant : s.endpoint.recoveredMsg = none)
    {returned : Recvmsg M} {ending : Ending} (empty : returned.response = none)
    (translated : tryEnding returned = some ending) :
    Trying first s
      ⟨if Heard s.endpoint.recoveredMsg returned then c.heard ++ [returned] else c.heard,
        { c.report with ending := some ending }⟩ := by
  have asked : Heard s.endpoint.recoveredMsg returned := by
    refine ⟨vacant, fun again => ?_⟩
    rw [tryEnding, recvmsgResult_again again] at translated
    cases translated
  refine ⟨?_, fun other same => ?_⟩
  · rw [filterMap_heard empty]
    exact inv.responses
  · cases same
    refine ⟨vacant, returned, ?_, translated⟩
    rw [if_pos asked]
    exact List.getLast?_concat

/-- **A step keeps the invariant.** -/
theorem Trying.step (inv : Trying first s c) (move : Move .Context s act s' out)
    (reacted : (tryCollector M).react c ⟨s, act, s', out⟩ = some (c', shown)) :
    Trying first s' c' := by
  have responses := inv.responses
  cases move with
  | tryRecovered returned message free recovered =>
    -- the library is not asked, whatever it would have returned
    obtain ⟨open', rfl⟩ := tryCollector_react reacted
    refine ⟨?_, fun ending ends => (nomatch open'.symm.trans ends)⟩
    have silent : ¬Heard s.endpoint.recoveredMsg returned := fun asked =>
      nomatch recovered.symm.trans asked.1
    rw [if_neg silent]
    rw [recovered] at responses
    exact (List.append_nil _).trans responses
  | tryReceived msg free vacant =>
    obtain ⟨open', rfl⟩ := tryCollector_react reacted
    refine ⟨?_, fun ending ends => (nomatch open'.symm.trans ends)⟩
    have definite : (0 : Int) ≠ ErrorCode.EAGAIN.value.toNat := by decide
    have asked : Heard s.endpoint.recoveredMsg ⟨0, some msg⟩ := ⟨vacant, definite⟩
    rw [vacant, Option.toList_none, List.append_nil] at responses
    rw [if_pos asked, vacant, Option.toList_none, List.append_nil, List.filterMap_append,
      ← List.append_assoc, ← responses]
    rfl
  | tryRefused returned result free vacant refused answer =>
    obtain ⟨open', rfl⟩ := tryCollector_react reacted
    have empty := response_of_refused refused answer
    match result with
    | .ok (some msg) => exact absurd rfl (refused msg)
    | .ok none =>
      refine ⟨?_, fun ending ends => (nomatch open'.symm.trans ends)⟩
      rw [filterMap_heard empty]
      exact responses
    | .error e =>
      have translated : tryEnding returned = some (tryEnd e) := by rw [tryEnding, answer]
      simp only [List.foldl_cons, List.foldl_nil, Report.see_tryError]
      exact inv.ends vacant empty translated
  | tryPanicked returned p free vacant answer =>
    obtain ⟨open', rfl⟩ := tryCollector_react reacted
    have translated : tryEnding returned = some (.panicked p) := by rw [tryEnding, answer]
    exact inv.ends vacant (response_of_panicked answer) translated
  | turn _ _ _ _ thread => rcases thread with rfl | rfl | rfl <;> cases reacted
  | _ => cases reacted

end Try

theorem filterMap_answers (outcomes : Outcomes M) :
    outcomes.answers.filterMap Recvmsg.response = outcomes.messages := by
  have failed : ((outcomes.terminal.val.toNat : Nat) : Int) ≠ 0 := fun zero =>
    outcomes.terminal.property (UInt32.toNat_inj.mp (Int.ofNat_eq_zero.mp zero))
  have silent : (refusal outcomes.terminal.val : Recvmsg M).response = none := if_neg failed
  rw [Outcomes.answers, List.filterMap_append, List.filterMap_cons_none silent, List.filterMap_map]
  exact (List.append_nil _).trans (congrFun (List.filterMap_eq_map (f := Message.fromRawUnchecked)) _)

section TryRuns

variable {s : State M} {state : State M × Collection (Recvmsg M) M}
  {trace : List (Transition (State M × Collection (Recvmsg M) M) (Action M ⊕ Empty) Empty)}

theorem trying_of_run (reached : (machine M .Context).Reachable s)
    (run : (tryCollecting s).Run trace state) :
    Trying s.endpoint.recoveredMsg.toList state.1 state.2 := by
  refine run.watched_invariant (fun _ later => sound_of_reachable (reached.further later))
    (fun _ => True) (I := fun _ state => Trying s.endpoint.recoveredMsg.toList state.1 state.2)
    ?_ ?_ ?_ fun _ _ => trivial
  · exact ⟨(List.append_nil _).symm, nofun⟩
  · intro _ s c a s' out c' shown sound _ inv stepped reacted _
    obtain ⟨-, move⟩ := step_move sound stepped
    exact inv.step move reacted
  · intro _ s c b
    exact b.elim

/-- **What `try_next` reports**: the recovered response, the responses that were returned, and
`try_next`'s translation of the error. -/
theorem reports_of_try (reached : (machine M .Context).Reachable s)
    (run : (tryCollecting s).Run trace state) (finished : state.2.report.ending ≠ none)
    {outcomes : Outcomes M} (heard : state.2.heard = outcomes.answers) :
    state.2.report = ⟨s.endpoint.recoveredMsg.toList ++ outcomes.messages,
      tryEnding (refusal outcomes.terminal.val : Recvmsg M)⟩ := by
  have inv := trying_of_run reached run
  obtain ⟨ending, ends⟩ := Option.ne_none_iff_exists'.mp finished
  obtain ⟨empty, returned, last, translated⟩ := inv.ended ending ends
  have responses := inv.responses
  rw [empty, Option.toList_none, List.append_nil, heard, filterMap_answers] at responses
  rw [heard, Outcomes.answers, List.getLast?_concat] at last
  cases last
  rw [← responses, translated, ← ends]

end TryRuns

/-! ### Every survey can be collected -/

section Exists

variable {s : State M}

/-- The context between two calls. -/
def betweenCalls (result : NngErr) (recovered : Option (Message M)) : State M :=
  ⟨⟨idleAio result, recovered⟩, .none, .live⟩

theorem eq_betweenCalls (reached : (machine M .Context).Reachable s) (free : s.future = .none)
    (live : s.status = .live) :
    s = betweenCalls s.endpoint.aio.aio.result s.endpoint.recoveredMsg := by
  have idle := (sound_of_reachable reached).idle fun _ _ => by rw [free]; nofun
  obtain ⟨⟨⟨⟨slot, result, stage⟩, notify, wasSet⟩, recovered⟩, future, status⟩ := s
  obtain rfl : future = .none := free
  obtain rfl : status = .live := live
  obtain rfl : stage = .idle := NngAio.busy_eq_false.mp idle.notBusy
  obtain rfl : slot = none := idle.msgNull
  obtain rfl : wasSet = false := idle.notSet
  obtain rfl : notify = .new := idle.quiet
  rfl

/-- A call of `next` whose receive completes, up to the end of its last poll. -/
def awaitNext (completion : Completion M) : List (Action M ⊕ Empty) :=
  [.inl .recvMsg, .inl .poll, .inl .run, .inl (.complete completion), .inl .callback,
    .inl .callbackReturn, .inl .poll]

/-- A `next` future in its last poll, after a receive that failed. -/
def failedReceive (err : NngErr) : State M :=
  ⟨⟨⟨⟨none, err, .idle⟩, .new, false⟩, none⟩, .waiting .Received .woken, .live⟩

theorem run_failedReceive (err : NonZeroU32) (c : Collection (Completion M) M) :
    ∃ ending, (nextCollecting s).step (failedReceive err.val, c) (.inl .run) =
      some ((betweenCalls err.val none, { c with report := { c.report with ending := some ending } }),
        []) := by
  obtain ⟨e, reported⟩ := Option.isSome_iff_exists.mp (Aio.errorOf_isSome err.property)
  have finished : recvFinish (failedReceive err.val : State M) =
      (betweenCalls err.val none, [.recvReturned (.error e)]) := by
    unfold recvFinish
    rw [Aio.waitResult_failed (a := (failedReceive err.val : State M).endpoint.aio) rfl err.property
      reported]
    rfl
  refine ⟨nextEnd e, ?_⟩
  have stepped : ((machine M .Context).startedAt s).step (failedReceive err.val) .run =
      some (betweenCalls err.val none, [.recvReturned (.error e)]) := congrArg some finished
  simp only [watched, watchedStep, stepped, ← Report.see_recvError]
  rfl

/-- Calls of `next` with a response each. -/
theorem next_hears (responses : List M) :
    ∀ {trace} {result : NngErr} {heard : List (Completion M)} {collected : List (Message M)},
      (nextCollecting s).Run trace (betweenCalls result none, ⟨heard, collected, none⟩) →
      ∃ trace result collected, (nextCollecting s).Run trace
        (betweenCalls result none, ⟨heard ++ responses.map .received, collected, none⟩) := by
  induction responses with
  | nil =>
    intro trace result heard collected run
    rw [List.map_nil, List.append_nil]
    exact ⟨trace, result, collected, run⟩
  | cons msg rest ih =>
    intro trace result heard collected run
    rw [List.map_cons, List.append_cons]
    have called : (nextCollecting s).replay (betweenCalls result none, ⟨heard, collected, none⟩)
        (awaitNext (.received msg) ++ [.inl .run]) = some (_, betweenCalls NNG_OK none,
          ⟨heard ++ [.received msg], collected ++ [.fromRawUnchecked msg], none⟩) := rfl
    exact ih (run.replay called)

/-- **For all outcomes, a collection with `next` hears them and ends.** -/
theorem next_ends (reached : (machine M .Context).Reachable s) (free : s.future = .none)
    (live : s.status = .live) (outcomes : Outcomes M) :
    ∃ trace state, (nextCollecting s).Run trace state ∧ state.2.report.ending ≠ none ∧
      state.2.heard = outcomes.completions := by
  have first : ∃ trace result collected,
      (nextCollecting s).Run trace (betweenCalls result none, ⟨[], collected, none⟩) := by
    rw [eq_betweenCalls reached free live]
    cases s.endpoint.recoveredMsg with
    | none => exact ⟨[], _, [], .nil⟩
    | some message => exact ⟨_, _, [message], run_of_replay [.inl .recvMsg, .inl .poll] rfl⟩
  obtain ⟨trace, result, collected, run⟩ := first
  obtain ⟨trace, result, collected, run⟩ := next_hears outcomes.responses run
  have called (heard : List (Completion M)) :
      (nextCollecting s).replay (betweenCalls result none, ⟨heard, collected, none⟩)
        (awaitNext (.failed outcomes.terminal)) = some (_, failedReceive outcomes.terminal.val,
          ⟨heard ++ [.failed outcomes.terminal], collected, none⟩) := rfl
  obtain ⟨ending, stepped⟩ := run_failedReceive outcomes.terminal _
  exact ⟨_, _, (run.replay (called _)).snoc stepped, nofun, rfl⟩

/-- Calls of `try_next` with a response each. -/
theorem try_hears (responses : List M) :
    ∀ {trace} {result : NngErr} {heard : List (Recvmsg M)} {collected : List (Message M)},
      (tryCollecting s).Run trace (betweenCalls result none, ⟨heard, collected, none⟩) →
      ∃ trace collected, (tryCollecting s).Run trace (betweenCalls result none,
        ⟨heard ++ responses.map (fun msg => ⟨0, some msg⟩), collected, none⟩) := by
  induction responses with
  | nil =>
    intro trace result heard collected run
    rw [List.map_nil, List.append_nil]
    exact ⟨trace, collected, run⟩
  | cons msg rest ih =>
    intro trace result heard collected run
    rw [List.map_cons, List.append_cons]
    have stepped : (tryCollecting s).step (betweenCalls result none, ⟨heard, collected, none⟩)
        (.inl (.tryRecvMsg ⟨0, some msg⟩)) = some ((betweenCalls result none,
          ⟨heard ++ [⟨0, some msg⟩], collected ++ [.fromRawUnchecked msg], none⟩), []) := rfl
    exact ih (run.snoc stepped)

/-- A call of `try_next` that the library refuses ends the collection. -/
theorem step_refused {err : NonZeroU32} (definite : err.val ≠ ErrorCode.EAGAIN.value)
    (result : NngErr) (heard : List (Recvmsg M)) (collected : List (Message M)) :
    ∃ ending, (tryCollecting s).step (betweenCalls result none, ⟨heard, collected, none⟩)
        (.inl (.tryRecvMsg (refusal err.val))) =
      some ((betweenCalls result none, ⟨heard ++ [refusal err.val], collected, some ending⟩), []) := by
  have asked : Heard (none : Option (Message M)) (refusal err.val) :=
    ⟨rfl, fun again => definite (UInt32.toNat_inj.mp (Int.ofNat_inj.mp again))⟩
  have step : (tryCollecting s).step (betweenCalls result none, ⟨heard, collected, none⟩)
      (.inl (.tryRecvMsg (refusal err.val))) =
    some (((tryRecvMsg .Context (betweenCalls result none) (refusal err.val)).1,
      ⟨if Heard (none : Option (Message M)) (refusal err.val) then heard ++ [refusal err.val] else heard,
        (tryRecvMsg .Context (betweenCalls result none) (refusal err.val)).2.foldl Report.see
          ⟨collected, none⟩⟩), []) := rfl
  rw [step, if_pos asked, tryRecvMsg]
  simp only [betweenCalls, recvmsgResult_refusal err.property]
  cases answer : recvmsgError err.val with
  | error p => exact ⟨.panicked p, rfl⟩
  | ok result =>
    cases result with
    | error e =>
      refine ⟨tryEnd e, ?_⟩
      have ends := Report.see_tryError (⟨collected, none⟩ : Report M) e
      exact congrArg (fun report => some ((_, Collection.mk _ report), [])) ends
    | ok nothing => exact absurd answer (recvmsgError_definite definite)

/-- **For all outcomes, a collection with `try_next` hears them and ends.** -/
theorem try_ends (reached : (machine M .Context).Reachable s) (free : s.future = .none)
    (live : s.status = .live) {outcomes : Outcomes M}
    (definite : outcomes.terminal.val ≠ ErrorCode.EAGAIN.value) :
    ∃ trace state, (tryCollecting s).Run trace state ∧ state.2.report.ending ≠ none ∧
      state.2.heard = outcomes.answers := by
  have first : ∃ trace result collected,
      (tryCollecting s).Run trace (betweenCalls result none, ⟨[], collected, none⟩) := by
    rw [eq_betweenCalls reached free live]
    cases s.endpoint.recoveredMsg with
    | none => exact ⟨[], _, [], .nil⟩
    | some message =>
      exact ⟨_, _, [message], run_of_replay [.inl (.tryRecvMsg (refusal NNG_OK))] rfl⟩
  obtain ⟨trace, result, collected, run⟩ := first
  obtain ⟨trace, collected, run⟩ := try_hears outcomes.responses run
  obtain ⟨ending, stepped⟩ := step_refused (s := s) definite result _ collected
  exact ⟨_, _, run.snoc stepped, nofun, rfl⟩

end Exists

/-! ### The two reports -/

/-- **The report of a collector on what it hears**: a collection hears that and ends, and all that do
have this report. -/
structure Reports {Heard : Type}
    (N : EventMachine (State M × Collection Heard M) (Action M ⊕ Empty) Empty) (heard : List Heard)
    (report : Report M) : Prop where
  ends : ∃ trace state, N.Run trace state ∧ state.2.report.ending ≠ none ∧ state.2.heard = heard
  same : ∀ trace state, N.Run trace state → state.2.report.ending ≠ none → state.2.heard = heard →
    state.2.report = report

section Surveys

variable {s : State M} {outcomes : Outcomes M}

theorem next_reports (reached : (machine M .Context).Reachable s) (free : s.future = .none)
    (live : s.status = .live) :
    Reports (nextCollecting s) outcomes.completions
      ⟨s.endpoint.recoveredMsg.toList ++ outcomes.messages, nextEnding outcomes.terminal.val⟩ where
  ends := next_ends reached free live outcomes
  same _ _ run finished heard := reports_of_next reached free run finished heard

theorem try_reports (reached : (machine M .Context).Reachable s) (free : s.future = .none)
    (live : s.status = .live) (definite : outcomes.terminal.val ≠ ErrorCode.EAGAIN.value) :
    Reports (tryCollecting s) outcomes.answers
      ⟨s.endpoint.recoveredMsg.toList ++ outcomes.messages,
        tryEnding (refusal outcomes.terminal.val : Recvmsg M)⟩ where
  ends := try_ends reached free live definite
  same _ _ run finished heard := reports_of_try reached run finished heard

end Surveys

/-- **`next` and `try_next` report the same survey on two errors only.** From every state of a context
in which the handle can be used, with or without a recovered response, and for all outcomes of the
library's receive: a collection with `next` and one with `try_next` both end, with the same responses in
the same order, and they report the same exactly when the error is `ESTATE` or `ENOTSUP`. -/
theorem survey_report_iff {s : State M} (reached : (machine M .Context).Reachable s)
    (free : s.future = .none) (live : s.status = .live) (outcomes : Outcomes M)
    (definite : outcomes.terminal.val ≠ ErrorCode.EAGAIN.value) :
    ∃ next try', Reports (nextCollecting s) outcomes.completions next ∧
      Reports (tryCollecting s) outcomes.answers try' ∧ next.responses = try'.responses ∧
      (next = try' ↔ outcomes.terminal.val = ErrorCode.ESTATE.value ∨
        outcomes.terminal.val = ErrorCode.ENOTSUP.value) := by
  refine ⟨_, _, next_reports reached free live, try_reports reached free live definite, rfl, ?_⟩
  rw [← ending_iff (M := M) outcomes.terminal.property definite, Report.mk.injEq]
  exact and_iff_right rfl

/-- A receive that is dropped just too late, so that its response is recovered. -/
def recoverResponse (msg : Nat) : List (Action Nat) :=
  [.recvMsg, .poll, .run, .complete (.received msg), .drop, .run, .callback, .callbackReturn, .run]

/-- A survey with a recovered response that was over before the last call. -/
theorem survey_report_over :
    ∃ s : State Nat, s.endpoint.recoveredMsg = some ⟨4, 0⟩ ∧
      ∃ report, Reports (nextCollecting s)
          (Outcomes.completions ⟨[5, 6], ErrorCode.ESTATE.value, by decide⟩) report ∧
        Reports (tryCollecting s)
          (Outcomes.answers ⟨[5, 6], ErrorCode.ESTATE.value, by decide⟩) report := by
  have run := run_of_replay (M := machine Nat .Context) (recoverResponse 4) rfl
  obtain ⟨next, try', reports, reports', -, same⟩ := survey_report_iff ⟨_, run⟩ rfl rfl
    ⟨[5, 6], ErrorCode.ESTATE.value, by decide⟩ (by decide)
  have agree := same.mpr (.inl rfl)
  rw [← agree] at reports'
  exact ⟨_, rfl, next, reports, reports'⟩

/-- **Not every survey is reported the same**: on a timeout `next` reports the end of the survey and
`try_next` an error. -/
theorem survey_timeout_differs :
    ¬ ∀ (s : State Nat), (machine Nat .Context).Reachable s → s.future = .none → s.status = .live →
      ∀ outcomes : Outcomes Nat, outcomes.terminal.val ≠ ErrorCode.EAGAIN.value →
      ∀ next try', Reports (nextCollecting s) outcomes.completions next →
        Reports (tryCollecting s) outcomes.answers try' → next = try' := by
  intro always
  have start : (machine Nat .Context).Reachable (machine Nat .Context).start := .start
  have definite : ErrorCode.ETIMEDOUT.value ≠ ErrorCode.EAGAIN.value := by decide
  have same := always _ start rfl rfl ⟨[5], ErrorCode.ETIMEDOUT.value, by decide⟩ definite _ _
    (next_reports start rfl rfl) (try_reports start rfl rfl definite)
  exact absurd (congrArg Report.ending same) (by decide)

end NngRs.Anng
