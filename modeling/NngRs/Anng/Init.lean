/-
**Initialising the library from `anng`: `init_nng`, `deinit_nng` and `create_socket`.**

The library counts its users. `init_nng` adds one, and so does every `create_socket`, which calls
`init_nng(None)` first; dropping a socket takes none away, and `deinit_nng` takes away one. With
parameters `nng_init` fails with `EBUSY` while the library is initialised.

A configuration is checked pool by pool before it reaches `nng_init`; `initParams` is that part of
`init_nng`, up to the call.

* `initParams_ok_iff` — a configuration is accepted exactly when it is valid.
* `validatePoolConfig_names` — every complaint about a pool names that pool.
* `counter_of_run` — the count is what was initialised less what was deinitialised.
* `deinit_uninitialises_iff` — the runs in which every `deinit_nng` leaves the library uninitialised
  are exactly those in which at most one more initialisation than `deinit_nng` came before each.
-/

import Mathlib.Data.Int.Order.Basic
import NngRs.Machine.Run
import NngRs.Nng.Library

namespace NngRs.Anng

open NngRs.Sys EventMachine
open NngRs.Nng (Library)

/-- `NonZeroI16`. -/
structure NonZeroI16 where
  get : Int16
  ne_zero : get ≠ 0
deriving DecidableEq, Repr

/-- `ThreadLimit`. -/
inductive ThreadLimit
  | Unlimited
  | Limit (max : NonZeroI16)
deriving DecidableEq, Repr

/-- `ThreadPoolConfig`. -/
structure ThreadPoolConfig where
  num : NonZeroI16
  max : ThreadLimit
deriving DecidableEq, Repr

/-- `NngConfig`; `none` stands for the library's default. -/
structure NngConfig where
  taskThreads : Option ThreadPoolConfig
  expireThreads : Option ThreadPoolConfig
  pollerThreads : Option ThreadPoolConfig
  numResolverThreads : Option NonZeroI16
deriving DecidableEq, Repr

/-- `NngConfig::new`. -/
def NngConfig.new : NngConfig := ⟨none, none, none, none⟩

/-- `InitError`. -/
inductive InitError
  | Invalid (msg : String)
  | AlreadyInitialized
deriving DecidableEq, Repr

/-- `nng_init_params`, but for the allocator, which is always the library's own. -/
structure NngInitParams where
  numTaskThreads : Int16
  maxTaskThreads : Int16
  numExpireThreads : Int16
  maxExpireThreads : Int16
  numPollerThreads : Int16
  maxPollerThreads : Int16
  numResolverThreads : Int16
deriving DecidableEq, Repr

/-- Where the modelled code panics. -/
inductive InitPanic
  /-- "nng_init never returns {err}" -/
  | initUndocumented (err : NngErr)
  /-- "init_nng(None) cannot fail" -/
  | initFailed
  /-- "errno is never negative" -/
  | negativeErrno
  /-- "OOM" -/
  | outOfMemory
  /-- "{proto:?} is listed as an unsupported protocol" -/
  | unsupportedProtocol
  /-- "nng_{proto:?}_open documentation claims errno {errno} is never returned" -/
  | openUndocumented (errno : UInt32)
  /-- "nng_aio_alloc documentation claims nng_err {errno} is never returned" -/
  | aioAllocUndocumented (err : NngErr)
deriving DecidableEq, Repr

/-! ### The configuration -/

/-- `limit_to_i16`. -/
def limitToI16 : ThreadLimit → Int16
  | .Unlimited => -1
  | .Limit max => max.get

/-- `pool_num_to_i16`. -/
def poolNumToI16 (pool : Option ThreadPoolConfig) : Int16 := (pool.map fun p => p.num.get).getD 0

/-- `pool_max_to_i16`. -/
def poolMaxToI16 (pool : Option ThreadPoolConfig) : Int16 :=
  (pool.map fun p => limitToI16 p.max).getD 0

/-- `validate_pool_config`. -/
def validatePoolConfig (name : String) (pool : ThreadPoolConfig) : Except InitError Unit :=
  if pool.num.get ≤ 0 then
    .error (.Invalid (name ++ ".num must be positive, got " ++ toString pool.num.get))
  else
    match pool.max with
    | .Unlimited => .ok ()
    | .Limit max =>
      if max.get ≤ 0 then
        .error (.Invalid (name ++ ".max must be positive, got " ++ toString max.get))
      else if pool.num.get > max.get then
        .error (.Invalid (name ++ ".num (" ++ toString pool.num.get ++ ") exceeds " ++ name ++
          ".max (" ++ toString max.get ++ ")"))
      else .ok ()

/-- `init_nng` checks a pool only where one is given. -/
def validatePool (name : String) : Option ThreadPoolConfig → Except InitError Unit
  | none => .ok ()
  | some pool => validatePoolConfig name pool

/-- The check of `num_resolver_threads`. -/
def validateResolver : Option NonZeroI16 → Except InitError Unit
  | none => .ok ()
  | some n =>
    if n.get ≤ 0 then .error (.Invalid "num_resolver_threads must be positive") else .ok ()

/-- The parameters of an accepted configuration. -/
def NngConfig.params (cfg : NngConfig) : NngInitParams where
  numTaskThreads := poolNumToI16 cfg.taskThreads
  maxTaskThreads := poolMaxToI16 cfg.taskThreads
  numExpireThreads := poolNumToI16 cfg.expireThreads
  maxExpireThreads := poolMaxToI16 cfg.expireThreads
  numPollerThreads := poolNumToI16 cfg.pollerThreads
  maxPollerThreads := poolMaxToI16 cfg.pollerThreads
  numResolverThreads := (cfg.numResolverThreads.map NonZeroI16.get).getD 0

/-- `init_nng`, from a configuration to the parameters of `nng_init`. -/
def initParams (cfg : NngConfig) : Except InitError NngInitParams := do
  validatePool "task_threads" cfg.taskThreads
  validatePool "expire_threads" cfg.expireThreads
  validatePool "poller_threads" cfg.pollerThreads
  validateResolver cfg.numResolverThreads
  return cfg.params

/-- What a pool must satisfy. -/
def ThreadPoolConfig.Valid (pool : ThreadPoolConfig) : Prop :=
  0 < pool.num.get ∧ ∀ max, pool.max = .Limit max → 0 < max.get ∧ pool.num.get ≤ max.get

/-- What a configuration must satisfy. -/
def NngConfig.Valid (cfg : NngConfig) : Prop :=
  (∀ pool, cfg.taskThreads = some pool → pool.Valid) ∧
    (∀ pool, cfg.expireThreads = some pool → pool.Valid) ∧
    (∀ pool, cfg.pollerThreads = some pool → pool.Valid) ∧
    ∀ n, cfg.numResolverThreads = some n → 0 < n.get

theorem validatePoolConfig_ok_iff {name : String} {pool : ThreadPoolConfig} :
    validatePoolConfig name pool = .ok () ↔ pool.Valid := by
  unfold validatePoolConfig ThreadPoolConfig.Valid
  by_cases num : pool.num.get ≤ 0
  · rw [if_pos num]
    exact iff_of_false nofun fun valid => (Int16.not_le.mpr valid.1) num
  · rw [if_neg num]
    have positive := Int16.not_le.mp num
    cases limit : pool.max with
    | Unlimited => exact iff_of_true rfl ⟨positive, nofun⟩
    | Limit max =>
      have unwrap : (∀ other, ThreadLimit.Limit max = .Limit other →
          0 < other.get ∧ pool.num.get ≤ other.get) ↔ 0 < max.get ∧ pool.num.get ≤ max.get := by
        constructor
        · exact fun all => all max rfl
        · rintro both _ ⟨⟩
          exact both
      simp only [unwrap, positive, true_and]
      by_cases high : max.get ≤ 0
      · rw [if_pos high]
        exact iff_of_false nofun fun valid => (Int16.not_le.mpr valid.1) high
      · rw [if_neg high]
        by_cases exceeds : pool.num.get > max.get
        · rw [if_pos exceeds]
          exact iff_of_false nofun fun valid => (Int16.not_le.mpr exceeds) valid.2
        · rw [if_neg exceeds]
          exact iff_of_true rfl ⟨Int16.not_le.mp high, Int16.not_lt.mp exceeds⟩

theorem validatePool_ok_iff {name : String} {pool : Option ThreadPoolConfig} :
    validatePool name pool = .ok () ↔ ∀ p, pool = some p → p.Valid := by
  cases pool with
  | none => exact iff_of_true rfl nofun
  | some p =>
    refine validatePoolConfig_ok_iff.trans ⟨?_, fun all => all p rfl⟩
    rintro valid _ ⟨⟩
    exact valid

theorem validateResolver_ok_iff {n : Option NonZeroI16} :
    validateResolver n = .ok () ↔ ∀ m, n = some m → 0 < m.get := by
  cases n with
  | none => exact iff_of_true rfl nofun
  | some m =>
    rw [show validateResolver (some m) = if m.get ≤ 0 then .error (.Invalid
      "num_resolver_threads must be positive") else .ok () from rfl]
    by_cases low : m.get ≤ 0
    · rw [if_pos low]
      exact iff_of_false nofun fun all => (Int16.not_le.mpr (all m rfl)) low
    · rw [if_neg low]
      refine iff_of_true rfl ?_
      rintro _ ⟨⟩
      exact Int16.not_le.mp low

theorem andThen_ok_iff {β : Type} {check : Except InitError Unit} {rest : Except InitError β}
    {b : β} : (check >>= fun _ => rest) = .ok b ↔ check = .ok () ∧ rest = .ok b := by
  cases check with
  | error e => exact iff_of_false nofun fun both => nomatch both.1
  | ok => exact (and_iff_right rfl).symm

/-- **A configuration is accepted exactly when it is valid.** -/
theorem initParams_ok_iff {cfg : NngConfig} {params : NngInitParams} :
    initParams cfg = .ok params ↔ cfg.Valid ∧ params = cfg.params := by
  unfold initParams NngConfig.Valid
  simp only [andThen_ok_iff, validatePool_ok_iff, validateResolver_ok_iff, and_assoc]
  refine and_congr_right fun _ => and_congr_right fun _ => and_congr_right fun _ =>
    and_congr_right fun _ => ?_
  constructor
  · rintro ⟨⟩
    rfl
  · rintro rfl
    rfl

/-- Every complaint about a pool starts with the name of the pool. -/
theorem validatePoolConfig_names {name msg : String} {pool : ThreadPoolConfig}
    (invalid : validatePoolConfig name pool = .error (.Invalid msg)) :
    ∃ rest, msg = name ++ rest := by
  unfold validatePoolConfig at invalid
  split_ifs at invalid with low
  · cases invalid
    exact ⟨_, by simp only [String.append_assoc]; rfl⟩
  · cases limit : pool.max with
    | Unlimited => rw [limit] at invalid; cases invalid
    | Limit max =>
      simp only [limit] at invalid
      split_ifs at invalid
      · cases invalid
        exact ⟨_, by simp only [String.append_assoc]; rfl⟩
      · cases invalid
        exact ⟨_, by simp only [String.append_assoc]; rfl⟩

/-! ### The calls -/

/-- What `nng_init` returns: with parameters it fails while the library is initialised. -/
def initAnswer (l : Library) (params : Option NngInitParams) : NngErr :=
  if params.isSome && l.initialised then ErrorCode.EBUSY.value else NNG_OK

/-- The match that ends `init_nng`. -/
def initResult (result : NngErr) : Except InitPanic (Except InitError Unit) :=
  if result = NNG_OK then .ok (.ok ())
  else if result = ErrorCode.EBUSY.value then .ok (.error .AlreadyInitialized)
  else .error (.initUndocumented result)

/-- `init_nng`, from the call of `nng_init` on. -/
def callInit (l : Library) (params : Option NngInitParams) :
    Library × Except InitPanic (Except InitError Unit) :=
  let result := initAnswer l params
  (l.nngInit result, initResult result)

/-- `init_nng`. -/
def initNng (l : Library) :
    Option NngConfig → Library × Except InitPanic (Except InitError Unit)
  | none => callInit l none
  | some cfg =>
    match initParams cfg with
    | .error e => (l, .ok (.error e))
    | .ok params => callInit l (some params)

/-- The match of `create_socket` on what the open call returned. -/
def openResult (errno : Int) : Except InitPanic Unit :=
  if errno < 0 then .error .negativeErrno
  else if errno = 0 then .ok ()
  else
    let err := UInt32.ofNat errno.toNat
    if err = ErrorCode.ENOMEM.value then .error .outOfMemory
    else if err = ErrorCode.ENOTSUP.value then .error .unsupportedProtocol
    else .error (.openUndocumented err)

/-- The match of `Aio::new` on what `nng_aio_alloc` returned. -/
def aioNew (errno : NngErr) : Except InitPanic Unit :=
  if errno = NNG_OK then .ok ()
  else if errno = ErrorCode.ENOMEM.value then .error .outOfMemory
  else .error (.aioAllocUndocumented errno)

/-- A process that uses `anng`. -/
structure Process where
  library : Library
  /-- The sockets that are open in the library. -/
  opened : Nat
  /-- The `Socket`s, each of which owns one of them. -/
  sockets : Nat
deriving DecidableEq, Repr

inductive InitEvent
  | initReturned (result : Except InitError Unit)
  | socketReturned
  | panicked (panic : InitPanic)
deriving DecidableEq

inductive InitAction
  /-- `init_nng`. -/
  | initNng (config : Option NngConfig)
  /-- `create_socket`, with what the open call and `nng_aio_alloc` return. -/
  | createSocket (openErrno : Int) (allocErrno : NngErr)
  /-- Drop a `Socket`. -/
  | dropSocket
  /-- `deinit_nng`. -/
  | deinitNng
deriving DecidableEq, Repr

/-- `create_socket`. A panic of `Aio::new` leaves the socket open, with nobody to close it. -/
def createSocket (p : Process) (openErrno : Int) (allocErrno : NngErr) :
    Process × List InitEvent :=
  let (library, result) := initNng p.library none
  let p := { p with library }
  match result with
  | .error panic => (p, [.panicked panic])
  | .ok (.error _) => (p, [.panicked .initFailed])
  | .ok (.ok ()) =>
    match openResult openErrno with
    | .error panic => (p, [.panicked panic])
    | .ok () =>
      let p := { p with opened := p.opened + 1 }
      match aioNew allocErrno with
      | .error panic => (p, [.panicked panic])
      | .ok () => ({ p with sockets := p.sockets + 1 }, [.socketReturned])

def initStep (p : Process) : InitAction → Option (Process × List InitEvent)
  | .initNng config =>
    match initNng p.library config with
    | (library, .ok result) => some ({ p with library }, [.initReturned result])
    | (library, .error panic) => some ({ p with library }, [.panicked panic])
  | .createSocket openErrno allocErrno => some (createSocket p openErrno allocErrno)
  | .dropSocket =>
    match p.sockets with
    | 0 => none
    | sockets + 1 => some ({ p with opened := p.opened - 1, sockets }, [])
  | .deinitNng =>
    -- the caller guarantees that everything is closed
    if p.opened = 0 then some ({ p with library := p.library.nngFini }, []) else none

/-- A process from its start on. -/
def initMachine : EventMachine Process InitAction InitEvent where
  start := ⟨⟨0⟩, 0, 0⟩
  step := initStep

/-! ### The count -/

/-- A step that counts as an initialisation: `init_nng` when nothing stands in its way, and every
`create_socket`. -/
def initialises (t : Transition Process InitAction InitEvent) : Bool :=
  match t.act with
  | .initNng none | .createSocket _ _ => true
  | .initNng (some cfg) => (initParams cfg).isOk && !t.pre.library.initialised
  | .dropSocket | .deinitNng => false

/-- A `deinit_nng`. -/
def deinitialises (t : Transition Process InitAction InitEvent) : Bool := t.act == .deinitNng

/-- The initialisations of a run. -/
def initialisations (steps : List (Transition Process InitAction InitEvent)) : Nat :=
  steps.countP initialises

/-- The `deinit_nng` calls of a run. -/
def deinitialisations (steps : List (Transition Process InitAction InitEvent)) : Nat :=
  steps.countP deinitialises

/-- **The library is uninitialised**, and takes any valid configuration. -/
def Deinitialised (p : Process) : Prop :=
  p.library.initialised = false ∧
    ∀ cfg : NngConfig, cfg.Valid → (initNng p.library (some cfg)).2 = .ok (.ok ())

section Counting

variable {l : Library} {p p' : Process} {a : InitAction} {out : List InitEvent}
  {steps : List (Transition Process InitAction InitEvent)}

theorem callInit_none : callInit l none = (⟨l.counter + 1⟩, .ok (.ok ())) := rfl

theorem callInit_busy (busy : l.initialised = true) (params : NngInitParams) :
    callInit l (some params) = (l, .ok (.error .AlreadyInitialized)) := by
  unfold callInit initAnswer
  rw [busy]
  rfl

theorem callInit_first (first : l.initialised = false) (params : NngInitParams) :
    callInit l (some params) = (⟨l.counter + 1⟩, .ok (.ok ())) := by
  unfold callInit initAnswer
  rw [first]
  rfl

theorem createSocket_counter (openErrno : Int) (allocErrno : NngErr) :
    (createSocket p openErrno allocErrno).1.library.counter = p.library.counter + 1 := by
  simp only [createSocket, initNng, callInit_none]
  cases openResult openErrno with
  | error => rfl
  | ok =>
    cases aioNew allocErrno <;> rfl

/-- What one step does to the count. -/
theorem step_counter (stepped : initStep p a = some (p', out)) :
    p'.library.counter + (deinitialises ⟨p, a, p', out⟩).toNat =
      p.library.counter + (initialises ⟨p, a, p', out⟩).toNat := by
  cases a with
  | initNng config =>
    cases config with
    | none =>
      cases stepped
      exact Int.add_zero _
    | some cfg =>
      simp only [initStep, initNng] at stepped
      simp only [deinitialises, initialises]
      cases accepted : initParams cfg with
      | error e =>
        rw [accepted] at stepped
        cases stepped
        rfl
      | ok params =>
        cases busy : p.library.initialised with
        | true =>
          simp only [accepted, callInit_busy busy] at stepped
          cases stepped
          rfl
        | false =>
          simp only [accepted, callInit_first busy] at stepped
          cases stepped
          exact Int.add_zero _
  | createSocket openErrno allocErrno =>
    have counted := createSocket_counter (p := p) openErrno allocErrno
    rw [show createSocket p openErrno allocErrno = (p', out) from Option.some.inj stepped] at counted
    exact (Int.add_zero _).trans counted
  | dropSocket =>
    simp only [initStep] at stepped
    cases held : p.sockets <;> rw [held] at stepped <;> cases stepped
    rfl
  | deinitNng =>
    simp only [initStep] at stepped
    split_ifs at stepped
    cases stepped
    show p.library.counter - 1 + 1 = p.library.counter + 0
    omega

/-- **The count is what was initialised less what was deinitialised.** -/
theorem counter_of_run (run : initMachine.Run steps p) :
    p.library.counter = initialisations steps - deinitialisations steps := by
  induction run with
  | nil => rfl
  | snoc _ stepped ih =>
    have step := step_counter stepped
    simp only [initialisations, deinitialisations, List.countP_append, List.countP_singleton] at ih ⊢
    cases inits : initialises _ <;> cases ends : deinitialises _ <;>
      simp only [inits, ends, Bool.toNat_true, Bool.toNat_false, if_true, Bool.false_eq_true,
        if_false] at step ⊢ <;>
      omega

theorem deinitialised_iff : Deinitialised p ↔ p.library.counter ≤ 0 := by
  have idle : p.library.initialised = false ↔ p.library.counter ≤ 0 := by
    simp [Library.initialised]
  rw [← idle]
  refine ⟨And.left, fun first => ⟨first, fun cfg valid => ?_⟩⟩
  simp only [initNng, initParams_ok_iff.mpr ⟨valid, rfl⟩, callInit_first first]

end Counting

/-- **Every `deinit_nng` leaves the library uninitialised**, and ready for any valid configuration, in
exactly the runs in which at most one more initialisation than `deinit_nng` came before each: one
`init_nng` and no socket, or one socket and no `init_nng`. -/
theorem deinit_uninitialises_iff {steps : List (Transition Process InitAction InitEvent)}
    {p : Process} (run : initMachine.Run steps p) :
    (∀ t ∈ steps, t.act = .deinitNng → Deinitialised t.post) ↔
      ∀ (k : Nat) (bound : k < steps.length), steps[k].act = .deinitNng →
        initialisations (steps.take k) ≤ deinitialisations (steps.take k) + 1 := by
  rw [List.forall_mem_iff_forall_getElem]
  refine forall₂_congr fun k bound => imp_congr_right fun deinit => ?_
  have count := counter_of_run (run.upTo bound)
  obtain ⟨_, stepped⟩ := run.before _ (List.getElem_mem bound)
  have fini := step_counter stepped
  simp only [deinitialises, initialises, deinit] at fini
  rw [deinitialised_iff]
  simp at fini
  omega

/-- A process configures the library, deinitialises it, and does so again around a socket. -/
theorem deinit_uninitialises_again :
    ∃ (steps : List (Transition Process InitAction InitEvent)) (p : Process),
      initMachine.Run steps p ∧ deinitialisations steps = 3 ∧
        ∀ t ∈ steps, t.act = .deinitNng → Deinitialised t.post := by
  have run := run_of_replay (M := initMachine)
    [.initNng (some .new), .deinitNng, .createSocket 0 NNG_OK, .initNng (some .new), .dropSocket,
      .deinitNng, .initNng none, .deinitNng]
    rfl
  exact ⟨_, _, run, rfl, (deinit_uninitialises_iff run).mpr (by decide)⟩

/-- **Not every `deinit_nng` uninitialises**: after an `init_nng` and one socket it leaves one user
behind, and a configuration is refused. -/
theorem deinit_leaves_initialised :
    ¬∀ (steps : List (Transition Process InitAction InitEvent)) (p : Process),
      initMachine.Run steps p → ∀ t ∈ steps, t.act = .deinitNng → Deinitialised t.post := by
  intro always
  have run := run_of_replay (M := initMachine)
    [.initNng none, .createSocket 0 NNG_OK, .dropSocket, .deinitNng] rfl
  have last := always _ _ run ⟨⟨⟨2⟩, 0, 0⟩, .deinitNng, ⟨⟨1⟩, 0, 0⟩, []⟩ (by decide) rfl
  exact absurd last.1 (by decide)

end NngRs.Anng
