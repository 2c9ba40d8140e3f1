import TaskScheduling.Files.Path

/-!
# Where a user's settings are

The environment tells where a user keeps configuration files: in a directory named for just that, or else below the
home directory, or else among the data of applications.
-/

namespace TaskScheduling

/-- What the environment says about the directories of a user. -/
structure Environment where
  configHome : Option String
  home : Option String
  applicationData : Option String
  deriving DecidableEq, Repr

namespace Environment

/-- The name of the program in directories. -/
def programName : String := "priosched"

/-- The directory for the configuration of this program. -/
def configDirectory? (e : Environment) : Option Path :=
  match e.configHome, e.home, e.applicationData with
  | some dir, _, _ => some (Path.join ⟨dir⟩ programName)
  | none, some dir, _ => some ((Path.join ⟨dir⟩ ".config").join programName)
  | none, none, some dir => some (Path.join ⟨dir⟩ programName)
  | none, none, none => none

def configFile? (e : Environment) : Option Path := e.configDirectory?.map (·.join "config.toml")

theorem configFile?_eq_none_iff (e : Environment) :
    e.configFile? = none ↔ e.configHome = none ∧ e.home = none ∧ e.applicationData = none := by
  rcases e with ⟨_ | _, _ | _, _ | _⟩ <;> simp [configFile?, configDirectory?]

end Environment

end TaskScheduling
