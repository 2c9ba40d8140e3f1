import TaskScheduling.Dispatch.Scheduler

/-!
# Settings of a scheduler

Every setting has a default, so that a configuration names only what it changes; how many workers a pool has by default
depends on the machine (`Parallelism`).  A scheduler can run with any settings but a pool without workers and threads
without a name.
-/

namespace TaskScheduling

structure Settings where
  poolSize : Nat
  defaultPriority : Priority
  /-- Milliseconds that due low work waits for a free worker before the pool grows for it. -/
  maxWaitForLow : Nat
  /-- Milliseconds after which an idle worker leaves. -/
  keepAlive : Nat
  /-- What the names of worker threads begin with. -/
  threadNameStem : String
  daemonThreads : Bool
  /-- Bytes of stack for a worker, if they are not left to the system. -/
  stackSize : Option Nat
  deriving DecidableEq, Repr

/-- What is wrong with settings that are well formed. -/
inductive SettingsDefect where
  | noWorkers
  | namelessThreads
  deriving DecidableEq, Repr

namespace SettingsDefect

def detail : SettingsDefect → String
  | noWorkers => "pool_size must be at least 1"
  | namelessThreads => "thread_name_prefix must not be empty"

end SettingsDefect

/-- What a machine tells about the number of threads that it runs at once, if it tells anything. -/
class Parallelism where
  threads? : Option { n : Nat // 0 < n }

namespace Settings

/-- The number of threads that the machine runs at once, or a guess. -/
def machineParallelism [Parallelism] : Nat := Parallelism.threads?.elim 4 Subtype.val

def default [Parallelism] : Settings where
  poolSize := machineParallelism
  defaultPriority := .high
  maxWaitForLow := 500
  keepAlive := 10000
  threadNameStem := "priosched-worker"
  daemonThreads := true
  stackSize := none

instance [Parallelism] : Inhabited Settings := ⟨default⟩

/-- The names of the settings in a configuration, in their order. -/
def names : List String :=
  ["pool_size", "default_priority", "max_wait_for_low_priority_ms", "keep_alive_ms", "thread_name_prefix",
    "daemon_threads", "stack_size"]

def defect? (c : Settings) : Option SettingsDefect :=
  if c.poolSize = 0 then some .noWorkers
  else if c.threadNameStem.isEmpty then some .namelessThreads
  else none

/-- The factory for the threads of a scheduler with these settings, without a pool number in their names. -/
def threadFactory (c : Settings) : ThreadFactory :=
  .numbered c.threadNameStem none c.daemonThreads c.stackSize none

/-- A scheduler with these settings. -/
def scheduler (c : Settings) (factory : ThreadFactory) (router : FailureRouter) (sink : Sink) : PooledScheduler :=
  .start (.start (.monotonic 0)) (.start c.poolSize (.ofMillis c.keepAlive)) factory router sink c.defaultPriority
    c.maxWaitForLow

def inspect (c : Settings) : String :=
  Inspect.record "SchedulerConfig"
    [("pool_size", toString c.poolSize), ("default_priority", c.defaultPriority.inspect),
      ("max_wait_for_low_priority_ms", toString c.maxWaitForLow), ("keep_alive_ms", toString c.keepAlive),
      ("thread_name_prefix", Quoted.quote c.threadNameStem), ("daemon_threads", Inspect.flag c.daemonThreads),
      ("stack_size", Inspect.optional (c.stackSize.map toString))]

theorem defect?_eq_none_iff (c : Settings) :
    c.defect? = none ↔ c.poolSize ≠ 0 ∧ c.threadNameStem.isEmpty = false := by
  unfold defect?
  by_cases h : c.poolSize = 0 <;> by_cases h' : c.threadNameStem.isEmpty = true <;> simp [h, h']

theorem machineParallelism_pos [Parallelism] : 0 < machineParallelism := by
  unfold machineParallelism
  cases Parallelism.threads? with
  | none => decide
  | some n => exact n.property

/-- A scheduler can run with the default settings on every machine. -/
theorem defect?_default [Parallelism] : default.defect? = none :=
  (defect?_eq_none_iff default).2 ⟨Nat.ne_of_gt machineParallelism_pos, rfl⟩

end Settings

end TaskScheduling
