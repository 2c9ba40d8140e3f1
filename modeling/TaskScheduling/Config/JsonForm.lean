import TaskScheduling.Config.Settings
import TaskScheduling.Json.Reader
import TaskScheduling.Json.Writer

/-!
# Values in JSON

Priorities, modes, statistics and settings as JSON.  A choice is its name, or an object whose only field is that name
with nothing in it.  A record is an object, in which unknown fields are ignored and known ones must not repeat, or an
array of its fields in order.
-/

namespace TaskScheduling.Json

/-- A whole number of 64 bits without a sign. -/
def nat64? : Json → Option Nat
  | number digits =>
    if digits.all Char.isDigit then
      let n := digits.foldl (fun n c => 10 * n + (c.toNat - 48)) 0
      if n ≤ Time.limit then some n else none
    else none
  | _ => none

def choice? : Json → Option String
  | string text => text
  | object [(name, null)] => name
  | _ => none

def asText? : Json → Option String
  | string text => text
  | _ => none

def bool? : Json → Option Bool
  | bool b => some b
  | _ => none

/-- A number that may be missing. -/
def optionalNat64? : Json → Option (Option Nat)
  | null => some none
  | v => v.nat64?.map some

/-- The value of a field that occurs at most once. -/
private def field? (fields : List (Option String × Json)) (name : String) : Option (Option Json) :=
  match fields.filter (·.1 == some name) with
  | [] => some none
  | [(_, v)] => some (some v)
  | _ => none

/-- The fields of a record by their names, as far as they are given. -/
def record? (names : List String) : Json → Option (List (Option Json))
  | object fields => if fields.all (·.1.isSome) then names.mapM (field? fields) else none
  | array items =>
    if items.length ≤ names.length then
      some (items.map some ++ List.replicate (names.length - items.length) none)
    else none
  | _ => none

/-- A field that has a default. -/
def orDefault {α : Type} (d : α) (read : Json → Option α) : Option Json → Option α
  | none => some d
  | some v => read v

end TaskScheduling.Json

namespace TaskScheduling

def Priority.ofJson? (v : Json) : Option Priority := v.choice?.bind Priority.ofName?

def Priority.toJson (p : Priority) : Json := .ofText p.name

def RecurrenceMode.ofJson? (v : Json) : Option RecurrenceMode := v.choice?.bind RecurrenceMode.ofName?

def RecurrenceMode.toJson (m : RecurrenceMode) : Json := .ofText m.name

def ShutdownMode.ofJson? (v : Json) : Option ShutdownMode := v.choice?.bind ShutdownMode.ofName?

def ShutdownMode.toJson (m : ShutdownMode) : Json := .ofText m.name

namespace StatsSnapshot

def names : List String :=
  ["submitted", "executed", "failed", "cancelled", "pool_size", "idle_workers", "queued"]

def ofJson? (v : Json) : Option StatsSnapshot := do
  let slots ← v.record? names
  match ← slots.mapM (·.bind Json.nat64?) with
  | [submitted, executed, failed, cancelled, poolSize, idleWorkers, queued] =>
    some ⟨submitted, executed, failed, cancelled, poolSize, idleWorkers, queued⟩
  | _ => none

def toJson (s : StatsSnapshot) : Json := .ofFields (s.fields.map fun (name, n) => (name, .ofNat n))

end StatsSnapshot

namespace Settings

def ofJson? [Parallelism] (v : Json) : Option Settings := do
  match ← v.record? names with
  | [poolSize, defaultPriority, maxWait, keepAlive, stem, daemon, stackSize] =>
    some
      { poolSize := ← Json.orDefault default.poolSize Json.nat64? poolSize
        defaultPriority := ← Json.orDefault default.defaultPriority Priority.ofJson? defaultPriority
        maxWaitForLow := ← Json.orDefault default.maxWaitForLow Json.nat64? maxWait
        keepAlive := ← Json.orDefault default.keepAlive Json.nat64? keepAlive
        threadNameStem := ← Json.orDefault default.threadNameStem Json.asText? stem
        daemonThreads := ← Json.orDefault default.daemonThreads Json.bool? daemon
        stackSize := ← Json.orDefault default.stackSize Json.optionalNat64? stackSize }
  | _ => none

def toJson (c : Settings) : Json :=
  .ofFields
    [("pool_size", .ofNat c.poolSize), ("default_priority", c.defaultPriority.toJson),
      ("max_wait_for_low_priority_ms", .ofNat c.maxWaitForLow), ("keep_alive_ms", .ofNat c.keepAlive),
      ("thread_name_prefix", .ofText c.threadNameStem), ("daemon_threads", .bool c.daemonThreads),
      ("stack_size", c.stackSize.elim .null .ofNat)]

end Settings

end TaskScheduling
