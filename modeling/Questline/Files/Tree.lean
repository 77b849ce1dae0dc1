import Questline.Files.Path
import Questline.Json.Basic

/-!
# File trees

The folders and files below the working directory, each under its location.
What is written here is read back unchanged: a file holds bytes or a text from
outside, or a document.  Every operation fails as a whole or does its work.
-/

namespace Questline

inductive FileContent where
  | bytes (bs : List UInt8)
  | text (s : String)
  /-- A value as it was written. -/
  | document (v : Json)

inductive FileEntry where
  | folder
  | file (content : FileContent)

def FileEntry.isFolder : FileEntry → Bool
  | folder => true
  | file _ => false

inductive FileFaultKind where
  | missing
  | alreadyThere
  | notAFolder
  | isAFolder
  | nameTooLong
  /-- A name that cannot be given to a file at all. -/
  | nullCharacter
deriving DecidableEq

namespace FileFaultKind

/-- The number under which the system reports the fault, and its wording; a name with a null
character never gets that far. -/
def notice? : FileFaultKind → Option (Nat × String)
  | missing => some (2, "No such file or directory")
  | alreadyThere => some (17, "File exists")
  | notAFolder => some (20, "Not a directory")
  | isAFolder => some (21, "Is a directory")
  | nameTooLong => some (36, "File name too long")
  | nullCharacter => none

end FileFaultKind

/-- What is wrong at a path. -/
structure FileFault where
  kind : FileFaultKind
  path : FilePath
deriving DecidableEq

def FileFault.message? (f : FileFault) : Option String :=
  f.kind.notice?.map fun (number, wording) =>
    "[Errno " ++ toString number ++ "] " ++ wording ++ ": " ++ Text.quoteLiteral f.path.text

abbrev Location := List String

structure FileTree where
  entries : List (Location × FileEntry) := []

namespace FileTree

def lookup (place : Location) : List (Location × FileEntry) → Option FileEntry
  | [] => none
  | (other, e) :: rest => if other = place then some e else lookup place rest

def insert (place : Location) (e : FileEntry) :
    List (Location × FileEntry) → List (Location × FileEntry)
  | [] => [(place, e)]
  | (other, old) :: rest =>
    if other = place then (place, e) :: rest else (other, old) :: insert place e rest

/-- What stands at a location; the working directory itself is a folder. -/
def lookup? (t : FileTree) (place : Location) : Option FileEntry :=
  if place.isEmpty then some .folder else lookup place t.entries

def put (t : FileTree) (place : Location) (e : FileEntry) : FileTree :=
  ⟨insert place e t.entries⟩

/-- Everything at a location and below it is gone. -/
def erase (t : FileTree) (place : Location) : FileTree :=
  ⟨t.entries.filter fun p => !place.isPrefixOf p.1⟩

theorem lookup_insert_self (place : Location) (e : FileEntry) (es : List (Location × FileEntry)) :
    lookup place (insert place e es) = some e := by
  induction es with
  | nil => simp [insert, lookup]
  | cons p es ih => by_cases h : p.1 = place <;> simp [insert, lookup, h, ih]

theorem lookup_insert_of_ne {place other : Location} (h : other ≠ place) (e : FileEntry)
    (es : List (Location × FileEntry)) :
    lookup other (insert place e es) = lookup other es := by
  induction es with
  | nil => simp [insert, lookup, Ne.symm h]
  | cons p es ih =>
    by_cases hp : p.1 = place
    · simp [insert, lookup, hp, Ne.symm h]
    · by_cases ho : p.1 = other
      · simp [insert, lookup, ho, h]
      · simp [insert, lookup, hp, ho, ih]

theorem lookup_filter (keep : Location → Bool) (place : Location)
    (es : List (Location × FileEntry)) :
    lookup place (es.filter fun p => keep p.1) = if keep place then lookup place es else none := by
  induction es with
  | nil => simp [lookup]
  | cons p es ih =>
    by_cases hk : keep p.1 <;> by_cases hp : p.1 = place
    · subst hp
      simp [lookup, hk]
    · simp [lookup, hk, hp, ih]
    · subst hp
      simp [hk, ih]
    · simp [lookup, hk, hp, ih]

@[simp] theorem lookup?_put_self (t : FileTree) {place : Location} (h : place ≠ [])
    (e : FileEntry) : (t.put place e).lookup? place = some e := by
  simp [lookup?, put, h, lookup_insert_self]

theorem lookup?_put_of_ne (t : FileTree) {place other : Location} (h : other ≠ place)
    (e : FileEntry) : (t.put place e).lookup? other = t.lookup? other := by
  simp [lookup?, put, lookup_insert_of_ne h]

theorem lookup?_erase (t : FileTree) {place other : Location} (h : other ≠ []) :
    (t.erase place).lookup? other = if place.isPrefixOf other then none else t.lookup? other := by
  have := lookup_filter (fun q => !place.isPrefixOf q) other t.entries
  by_cases hp : place.isPrefixOf other <;> simp_all [lookup?, erase]

/-- What is in the way of going through `parts` from the folder `above`: every name but the last,
and every name that is left again, must be that of a folder. -/
def obstacleFrom (t : FileTree) (above : Location) : List String → Option FileFaultKind
  | [] => none
  | part :: rest =>
    if part = ".." then t.obstacleFrom above.dropLast rest
    else if FilePath.nameLimit < part.utf8ByteSize then some .nameTooLong
    else if rest.isEmpty then none
    else
      match t.lookup? (above ++ [part]) with
      | some .folder => t.obstacleFrom (above ++ [part]) rest
      | some (.file _) => some .notAFolder
      | none => some .missing

/-- What is in the way of a path. -/
def obstacle? (t : FileTree) (p : FilePath) : Option FileFaultKind :=
  if !p.isWritable then some .nullCharacter
  else if FilePath.textLimit < p.text.utf8ByteSize then some .nameTooLong
  else if p.anchor = .root then some .missing
  else t.obstacleFrom [] p.parts

/-- What stands at a path, once nothing is in its way. -/
def entry (t : FileTree) (p : FilePath) : Except FileFault (Option FileEntry) :=
  match t.obstacle? p with
  | some kind => .error ⟨kind, p⟩
  | none => .ok (t.lookup? p.location)

/-- Looks whether something stands at a path.  Only a name that is too long is a fault. -/
def probe (t : FileTree) (p : FilePath) : Except FileFault (Option FileEntry) :=
  match t.entry p with
  | .error ⟨.nameTooLong, p⟩ => .error ⟨.nameTooLong, p⟩
  | .error _ => .ok none
  | .ok e => .ok e

/-- What stands at a path, if anything can. -/
def entry? (t : FileTree) (p : FilePath) : Option FileEntry :=
  match t.entry p with
  | .ok e => e
  | .error _ => none

def isThere (t : FileTree) (p : FilePath) : Bool := (t.entry? p).isSome

def isFolder (t : FileTree) (p : FilePath) : Bool := (t.entry? p).any FileEntry.isFolder

def isFile (t : FileTree) (p : FilePath) : Bool := (t.entry? p).any fun e => !e.isFolder

/-- The content of a file. -/
def read (t : FileTree) (p : FilePath) : Except FileFault FileContent := do
  match ← t.entry p with
  | some (.file content) => return content
  | some .folder => throw ⟨.isAFolder, p⟩
  | none => throw ⟨.missing, p⟩

/-- A file is written into a folder that is there, and not over a folder. -/
def write (t : FileTree) (p : FilePath) (content : FileContent) : Except FileFault FileTree := do
  match ← t.entry p with
  | some .folder => throw ⟨.isAFolder, p⟩
  | _ => return t.put p.location (.file content)

/-- Makes a folder inside one that is there. -/
def makeFolder (t : FileTree) (p : FilePath) : Except FileFault FileTree := do
  match ← t.entry p with
  | some _ => throw ⟨.alreadyThere, p⟩
  | none => return t.put p.location .folder

/-- The same, but a folder may be there already. -/
def ensureFolder (t : FileTree) (p : FilePath) : Except FileFault FileTree :=
  match t.makeFolder p with
  | .ok t => .ok t
  | .error f => if t.isFolder p then .ok t else .error f

/-- Makes a folder, given by its names from the last to the first, with the folders above it that
are missing. -/
def ensureFolders (t : FileTree) (anchor : Anchor) : List String → Except FileFault FileTree
  | [] => t.ensureFolder ⟨anchor, []⟩
  | part :: above =>
    let p : FilePath := ⟨anchor, (part :: above).reverse⟩
    match t.ensureFolder p with
    | .ok t => .ok t
    | .error f =>
      if f.kind = .missing then do (← t.ensureFolders anchor above).ensureFolder p else .error f

/-- Makes a folder with all folders above it; those that are there stay. -/
def makeFolders (t : FileTree) (p : FilePath) : Except FileFault FileTree :=
  t.ensureFolders p.anchor p.parts.reverse

/-- Where a file goes that is copied to a path: into it, if it is a folder. -/
def copyTarget (t : FileTree) (source target : FilePath) : FilePath :=
  if t.isFolder target then target.child source.name else target

def copy (t : FileTree) (source target : FilePath) : Except FileFault FileTree := do
  let content ← t.read source
  t.write (t.copyTarget source target) content

/-- A file takes the place of another. -/
def rename (t : FileTree) (source target : FilePath) : Except FileFault FileTree := do
  let content ← t.read source
  (t.erase source.location).write target content

def removeTree (t : FileTree) (p : FilePath) : Except FileFault FileTree := do
  match ← t.entry p with
  | some .folder => return t.erase p.location
  | some (.file _) => throw ⟨.notAFolder, p⟩
  | none => throw ⟨.missing, p⟩

/-- The name of an entry right inside a folder. -/
def childName? (folder : Location) (place : Location) : Option String :=
  match place.getLast? with
  | none => none
  | some name => if place.dropLast = folder then some name else none

/-- The names inside a folder, sorted; where there is no folder, there are none. -/
def children (t : FileTree) (folder : FilePath) : List String :=
  if t.isFolder folder then
    Text.sortTexts (t.entries.filterMap fun p => childName? folder.location p.1)
  else []

/-- All files with their locations. -/
def files (t : FileTree) : List (Location × FileContent) :=
  t.entries.filterMap fun p =>
    match p.2 with
    | .folder => none
    | .file content => some (p.1, content)

end FileTree

/-- A change to the files. -/
inductive FileAction where
  | makeFolders (p : FilePath)
  | write (p : FilePath) (content : FileContent)
  | copy (source target : FilePath)
  | rename (source target : FilePath)
  | removeTree (p : FilePath)

namespace FileTree

def perform (t : FileTree) : FileAction → Except FileFault FileTree
  | .makeFolders p => t.makeFolders p
  | .write p content => t.write p content
  | .copy source target => t.copy source target
  | .rename source target => t.rename source target
  | .removeTree p => t.removeTree p

/-- The changes one after the other, up to the first that fails. -/
def performAll (t : FileTree) : List FileAction → FileTree × Option FileFault
  | [] => (t, none)
  | a :: rest =>
    match t.perform a with
    | .ok t => t.performAll rest
    | .error f => (t, some f)

end FileTree

end Questline
