/-!
# Priorities

Three levels, most urgent first.  High work takes a worker at once, low work waits a bounded time for a worker to become
free before the pool grows for it, and starvable work runs only when nothing more urgent is due.
-/

namespace TaskScheduling

inductive Priority where
  | high
  | low
  | starvable
  deriving DecidableEq, Repr, Inhabited

namespace Priority

/-- All priorities in dispatch order. -/
def all : List Priority := [high, low, starvable]

/-- Position in dispatch order; 0 is the most urgent. -/
def rank : Priority → Nat
  | high => 0
  | low => 1
  | starvable => 2

def ofRank? (n : Nat) : Option Priority := all[n]?

/-- The name used in configuration files and messages. -/
def name : Priority → String
  | high => "high"
  | low => "low"
  | starvable => "starvable"

def inspect : Priority → String
  | high => "High"
  | low => "Low"
  | starvable => "Starvable"

/-- The priority of exactly this name. -/
def ofName? (text : String) : Option Priority := all.find? (·.name == text)

/-- Reads a name in any mixture of ASCII letter cases; a text that is no name is given back in lower case. -/
def parse (text : String) : Except String Priority :=
  let lower := text.map Char.toLower
  match ofName? lower with
  | some p => .ok p
  | none => .error lower

/-- What is wrong with a text that `parse` gave back. -/
def unknownMessage (lower : String) : String := "unknown priority: " ++ lower

theorem mem_all (p : Priority) : p ∈ all := by cases p <;> decide

theorem ofRank?_rank (p : Priority) : ofRank? p.rank = some p := by cases p <;> rfl

theorem rank_injective {p q : Priority} (h : p.rank = q.rank) : p = q := by
  cases p <;> cases q <;> first | rfl | cases h

theorem ofName?_name (p : Priority) : ofName? p.name = some p := by cases p <;> decide

end Priority

end TaskScheduling
