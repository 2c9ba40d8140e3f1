import TaskScheduling.Config.Settings
import TaskScheduling.Toml.Document

/-!
# Surroundings of the program

What the program takes from elsewhere: how its files of settings are read and written, and how many threads the machine
runs at once, which it is not told.
-/

namespace TaskScheduling.CommandLine

instance : Toml.Format := Toml.counted

instance : Parallelism := ⟨none⟩

end TaskScheduling.CommandLine
