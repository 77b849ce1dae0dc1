import Questline.Command.Run
import Std.Time.Format

/-!
# Commands on disk

Commands see the part of the disk that they were told about, as a file tree
below the working directory, and what they decide is carried out here.
-/

namespace Questline.Disk

def place (p : FilePath) :=
  (fun here => p.location.foldl (fun path name => path / name) here) <$> IO.currentDir

/-- The tree with what stands at a location, folders down to a depth. -/
def readAt (t : FileTree) (location : Location) (depth : Nat) : IO FileTree := do
  let path ← place ⟨.here, location⟩
  if !(← path.pathExists) then return t
  if !(← path.isDir) then
    return t.put location (.file (.bytes (← IO.FS.readBinFile path).toList))
  let t := if location.isEmpty then t else t.put location .folder
  match depth with
  | 0 => return t
  | depth + 1 => (← path.readDir).foldlM (fun t e => readAt t (location ++ [e.fileName]) depth) t

/-- The tree with what stands at a path, and with the folders above it. -/
def read (t : FileTree) (p : FilePath) (depth : Nat) : IO FileTree := do
  let above := (List.range p.location.length).map p.location.take
  readAt (← above.foldlM (fun t location => readAt t location 0) t) p.location depth

def write (p : FilePath) (content : FileContent) : IO Unit := do
  match content with
  | .bytes bs => IO.FS.writeBinFile (← place p) ⟨bs.toArray⟩
  | .text s => IO.FS.writeFile (← place p) s
  | .document v => IO.FS.writeFile (← place p) (v.layout 0 ++ "\n")

def perform : FileAction → IO Unit
  | .makeFolders p => do IO.FS.createDirAll (← place p)
  | .write p content => write p content
  | .copy source target => do
    let target ← if ← (← place target).isDir then pure (target.child source.name) else pure target
    IO.FS.writeBinFile (← place target) (← IO.FS.readBinFile (← place source))
  | .rename source target => do IO.FS.rename (← place source) (← place target)
  | .removeTree p => do IO.FS.removeDirAll (← place p)

def carryOut : Effect → IO Unit
  | .print text => do
    let out ← IO.getStdout
    out.putStr text
    out.flush
  | .complain text => IO.eprintln text
  | .change a => perform a

/-- Carries out everything that a run has decided. -/
def finish (run : Run) : IO UInt32 := do
  run.effects.forM carryOut
  match run.ending with
  | .ok code => return code.toUInt32
  | .error c =>
    IO.eprintln c.text
    return 1

/-- The time of day in the form of a time stamp. -/
def now : IO String := do
  return (Std.Time.DateTime.ofTimestamp (← Std.Time.Timestamp.now)
    Std.Time.TimeZone.ZoneRules.UTC).toISO8601String

end Questline.Disk
