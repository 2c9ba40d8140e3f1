import TaskScheduling.Config.Settings
import TaskScheduling.Toml.Format

/-!
# Settings in TOML

A configuration file holds one setting a line.  What it does not mention has its default, and what is not a setting is
ignored.
-/

namespace TaskScheduling

namespace Toml

/-- A whole number that is not negative. -/
def Value.nat? : Value → Option Nat
  | .integer n => if 0 ≤ n then some n.toNat else none
  | _ => none

def Value.string? : Value → Option String
  | .string s => some s
  | _ => none

def Value.bool? : Value → Option Bool
  | .boolean b => some b
  | _ => none

def Value.isEmpty : Value → Bool
  | .array items => items.isEmpty
  | .table entries => entries.isEmpty
  | _ => false

/-- The name of a choice: a text, or a table whose only key it is, with nothing in it. -/
def Value.choice? : Value → Option String
  | .string s => some s
  | .table [(name, v)] => if v.isEmpty then some name else none
  | _ => none

/-- The value of a key as read by `read`, or else its default. -/
def setting? {α : Type} (entries : Table) (key : String) (d : α) (read : Value → Option α) : Option α :=
  match entries.lookup key with
  | none => some d
  | some v => read v

end Toml

namespace Settings

/-- The settings in a table. -/
def ofTable? [Parallelism] (entries : Toml.Table) : Option Settings := do
  some
    { poolSize := ← Toml.setting? entries "pool_size" default.poolSize Toml.Value.nat?
      defaultPriority :=
        ← Toml.setting? entries "default_priority" default.defaultPriority fun v => v.choice?.bind Priority.ofName?
      maxWaitForLow := ← Toml.setting? entries "max_wait_for_low_priority_ms" default.maxWaitForLow Toml.Value.nat?
      keepAlive := ← Toml.setting? entries "keep_alive_ms" default.keepAlive Toml.Value.nat?
      threadNameStem := ← Toml.setting? entries "thread_name_prefix" default.threadNameStem Toml.Value.string?
      daemonThreads := ← Toml.setting? entries "daemon_threads" default.daemonThreads Toml.Value.bool?
      stackSize := ← Toml.setting? entries "stack_size" default.stackSize fun v => v.nat?.map some }

/-- The settings with their values, in order.  What is left to the system has no value. -/
def fields (c : Settings) : List (String × Option Toml.Atom) :=
  [("pool_size", some (.number c.poolSize)), ("default_priority", some (.text c.defaultPriority.name)),
    ("max_wait_for_low_priority_ms", some (.number c.maxWaitForLow)), ("keep_alive_ms", some (.number c.keepAlive)),
    ("thread_name_prefix", some (.text c.threadNameStem)), ("daemon_threads", some (.flag c.daemonThreads)),
    ("stack_size", c.stackSize.map .number)]

variable [Toml.Format]

/-- Reads the text of a configuration file. -/
def ofToml? [Parallelism] (text : String) : Option Settings := (Toml.Format.read? text).bind ofTable?

/-- The text of a configuration file with these settings. -/
def toToml (c : Settings) : Except Toml.WriteTrouble String := Toml.Format.write c.fields

end Settings

end TaskScheduling
