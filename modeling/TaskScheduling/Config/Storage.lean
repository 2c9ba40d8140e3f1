import TaskScheduling.Config.Location
import TaskScheduling.Config.TomlForm
import TaskScheduling.Files.Store

/-!
# Storing settings

Settings are loaded from a file and saved to one.  What is loaded has been checked; what is saved has not, so that a
file may be written that cannot be loaded again.
-/

namespace TaskScheduling

inductive ConfigError where
  | file (fault : FileFault)
  /-- Not TOML, or not the TOML of settings. -/
  | malformed
  /-- There is a setting that no file can hold. -/
  | unwritable
  | invalid (defect : SettingsDefect)
  /-- The environment does not tell where a user's settings are. -/
  | homeless
  /-- Writing broke off with a fault. -/
  | fault (cause : Fault)
  deriving DecidableEq, Repr

namespace ConfigError

def message : ConfigError → String
  | file _ => "IO error"
  | malformed => "Config parse error"
  | unwritable => "Config serialize error"
  | invalid defect => "Invalid config: " ++ defect.detail
  | homeless => "Cannot determine config directory"
  | fault cause => cause.message

end ConfigError

namespace Settings

/-- Refuses settings that no scheduler can run with. -/
def validate (c : Settings) : Except ConfigError Unit :=
  match c.defect? with
  | some defect => .error (.invalid defect)
  | none => .ok ()

section

variable [Toml.Format]

/-- The settings in the text of a file. -/
def ofFileText [Parallelism] (text : String) : Except ConfigError Settings :=
  match ofToml? text with
  | some c => c.validate.map fun _ => c
  | none => .error .malformed

/-- The text of a file with these settings. -/
def fileText (c : Settings) : Except ConfigError String :=
  c.toToml.mapError fun
    | .unwritable => .unwritable
    | .fault cause => .fault cause

variable {m : Type → Type} [Monad m] [FileStore m]

private def files {α : Type} (access : m (Except FileFault α)) : ExceptT ConfigError m α :=
  ExceptT.mk (Except.mapError .file <$> access)

def load [Parallelism] (path : Path) : ExceptT ConfigError m Settings := do
  ofFileText (← files (FileStore.readText path))

/-- Loads the settings from `path?` if it is given, or else those of the user if there are any, or else the default. -/
def loadOrDefault [Parallelism] (environment : Environment) (path? : Option Path) : ExceptT ConfigError m Settings :=
  match path?, environment.configFile? with
  | some path, _ => load path
  | none, some path => do if ← (FileStore.isPresent path : m Bool) then load path else pure default
  | none, none => pure default

/-- Writes the settings to a file, and makes its directory if that is missing. -/
def save (c : Settings) (path : Path) : ExceptT ConfigError m Unit := do
  match path.parent? with
  | some dir => unless ← (FileStore.isPresent dir : m Bool) do files (FileStore.createDirectories dir)
  | none => pure ()
  let text ← c.fileText
  files (FileStore.writeText path text)

/-- Saves the settings as those of the user, and tells where. -/
def saveForUser (environment : Environment) (c : Settings) : ExceptT ConfigError m Path :=
  match environment.configFile? with
  | some path => do
    c.save path
    pure path
  | none => throw .homeless

end

end Settings

end TaskScheduling
