import TaskScheduling.Dispatch.Scheduler

/-!
# Replies and log entries

What the commands of a script answer, and what is logged while they are carried out.
-/

namespace TaskScheduling.Simulation

mutual

inductive Reply where
  | nothing
  | flag (b : Bool)
  | number (n : Nat)
  | numbers (ns : List (Option Nat))
  | text (s : String)
  | ids (ids : List TaskId)
  | accepted (id : TaskId) (priority : Priority)
  | refused (cause : SchedulerError)
  | panicked (message : String)
  | checked (violation : Option InvariantViolation)
  | handle (task : Task)
  | log (entries : List Entry)
  | beside (tick : Reply) (helper : List Reply)
  | stats (s : StatsSnapshot)
  | queues (contents : List (List TaskId × List TaskId))
  | shutdownStatus (requested terminated : Bool) (mode : Option ShutdownMode)
  | noSuchTask
  | noScheduler
  | unknownCommand

inductive Entry where
  /-- An action began, at a time that is told only where time is under control. -/
  | ran (name : String) (time : Option Nat)
  | handled (handler : FailureHandler) (failure : TaskFailure)
  | shown (name : String) (reply : Reply)

end

instance : Inhabited Reply := ⟨.nothing⟩

end TaskScheduling.Simulation
