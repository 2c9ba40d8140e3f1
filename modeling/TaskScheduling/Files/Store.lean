import TaskScheduling.Files.Path

/-!
# Access to files

What a program asks of the files around it, wherever they are kept, and what can go wrong with it.
-/

namespace TaskScheduling

inductive FileFault where
  | notFound
  /-- A file in the place of a directory on the way. -/
  | notADirectory
  /-- A file in the place of a directory that is to be made. -/
  | occupied
  /-- A directory in the place of the file. -/
  | isADirectory
  /-- A file that does not hold text. -/
  | notText
  /-- A path that no file can have. -/
  | unnameable
  | nameTooLong
  /-- Anything else that the system refuses. -/
  | refused
  deriving DecidableEq, Repr

class FileStore (m : Type → Type) where
  readText : Path → m (Except FileFault String)
  /-- Whether there is a file or a directory. -/
  isPresent : Path → m Bool
  /-- Makes a directory and those that it is in, as far as they are missing. -/
  createDirectories : Path → m (Except FileFault Unit)
  /-- Makes a file with a text, or replaces all that it holds. -/
  writeText : Path → String → m (Except FileFault Unit)

end TaskScheduling
