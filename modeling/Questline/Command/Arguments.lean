import Questline.Text.Numeral
import Questline.Text.Trim

/-!
# Command line arguments

A command has options, each with one or more names, and perhaps one positional
argument.  An option may be written by any beginning of a long name that fits
no other, its value after an equals sign or as the next word; short switches
may share one hyphen.  Two hyphens alone end the options.
-/

namespace Questline

structure OptionSpec where
  names : List String
  key : String
  takesValue : Bool := true
  accepts : String → Bool := fun _ => true

inductive ArgumentFault where
  /-- The usage was asked for. -/
  | help
  | ambiguous (word : String)
  | valueMissing (key : String)
  | valueUnexpected (key : String)
  | valueRefused (key : String)
  | unrecognized
deriving DecidableEq

/-- The exit code of a command that is not run. -/
def ArgumentFault.code : ArgumentFault → Nat
  | help => 0
  | _ => 2

/-- What has been given: the values under their keys in order, switches with an empty value. -/
structure Arguments where
  positional : Option String := none
  values : List (String × String) := []
deriving DecidableEq

namespace Arguments

def all (a : Arguments) (key : String) : List String :=
  (a.values.filter fun v => v.1 = key).map (·.2)

/-- Of several values the last counts. -/
def last? (a : Arguments) (key : String) : Option String := (a.all key).getLast?

def has (a : Arguments) (key : String) : Bool := (a.last? key).isSome

/-- What a word on the command line is. -/
inductive Word where
  /-- An option, perhaps with something after an equals sign or right behind a single letter. -/
  | option (spec : OptionSpec) (isGlued : Bool) (attached : Option String)
  | unknown
  | plain
  | divider

def helpSpec : OptionSpec := { names := ["-h", "--help"], key := "help", takesValue := false }

def named? (specs : List OptionSpec) (name : String) : Option OptionSpec :=
  specs.find? fun spec => spec.names.contains name

def isShort (name : String) : Bool := !Text.leads "--" name

/-- A word cut at its first equals sign. -/
def cutValue (word : String) : String × Option String :=
  match Text.cutAt? ['='] word.toList with
  | some (name, value) => (.ofList name, some (.ofList value))
  | none => (word, none)

/-- The options that a word without an exact name can stand for. -/
def candidates (specs : List OptionSpec) (word : String) : List Word :=
  if isShort word then
    let name := String.ofList (word.toList.take 2)
    ((specs.filter fun spec => spec.names.contains name).map fun spec =>
      .option spec true (some (.ofList (word.toList.drop 2))))
  else
    let (lead, attached) := cutValue word
    specs.flatMap fun spec =>
      (spec.names.filter (Text.leads lead)).map fun _ => .option spec false attached

/-- A number with a minus sign, perhaps with decimal places. -/
def isNegativeNumber (word : String) : Bool :=
  match word.toList with
  | '-' :: cs =>
    let fraction := (cs.dropWhile Text.isDecimalDigit)
    match fraction with
    | [] => !cs.isEmpty
    | '.' :: places => !places.isEmpty && places.all Text.isDecimalDigit
    | _ => false
  | _ => false

def classify (specs : List OptionSpec) (word : String) : Except ArgumentFault Word :=
  if !Text.leads "-" word || word = "-" then .ok .plain
  else
    let (name, attached) := cutValue word
    match named? specs word, if attached.isSome then named? specs name else none with
    | some spec, _ => .ok (.option spec false none)
    | none, some spec => .ok (.option spec false attached)
    | none, none =>
      match candidates specs word with
      | [found] => .ok found
      | _ :: _ => .error (.ambiguous word)
      | [] =>
        .ok (if isNegativeNumber word || word.toList.contains ' ' then .plain else .unknown)

/-- Every word with what it is; after the divider all words are plain. -/
def classifyAll (specs : List OptionSpec) :
    List String → Except ArgumentFault (List (String × Word))
  | [] => .ok []
  | word :: rest =>
    if word = "--" then .ok ((word, .divider) :: rest.map fun w => (w, .plain))
    else do return (word, ← classify specs word) :: (← classifyAll specs rest)

/-- An option that waits for its value, or has it attached. -/
structure Pending where
  spec : OptionSpec
  value : Option String

/-- What an option word asks for: switches, and the option with a value that may follow them. -/
structure Unfolded where
  switches : List OptionSpec := []
  pending : Option Pending := none
  /-- Whether a letter came that is no option. -/
  isStray : Bool := false

/-- The letters behind one hyphen. -/
def cluster (specs : List OptionSpec) (spec : OptionSpec) :
    List Char → Except ArgumentFault Unfolded
  | [] =>
    .ok (if spec.takesValue then { pending := some ⟨spec, none⟩ } else { switches := [spec] })
  | c :: cs =>
    if spec.takesValue then .ok { pending := some ⟨spec, some (.ofList (c :: cs))⟩ }
    else if c = '-' || c = '=' then .error (.valueUnexpected spec.key)
    else
      match named? specs (.ofList ['-', c]) with
      | none => .ok { switches := [spec], isStray := true }
      | some next => do
        let behind ← cluster specs next cs
        return { behind with switches := spec :: behind.switches }

/-- What an option word with something attached asks for. -/
def unfold (specs : List OptionSpec) (spec : OptionSpec) (isGlued : Bool)
    (attached : Option String) : Except ArgumentFault Unfolded :=
  match attached with
  | none => cluster specs spec []
  | some value =>
    if spec.takesValue then .ok { pending := some ⟨spec, some value⟩ }
    else if isGlued && !value.isEmpty then cluster specs spec value.toList
    else .error (.valueUnexpected spec.key)

/-- The arguments so far. -/
structure Intake where
  given : Arguments := {}
  /-- Whether a positional argument is still expected. -/
  isOpen : Bool
  /-- Whether a word came that nothing accounts for. -/
  hasStrays : Bool := false

def Intake.record (a : Intake) (spec : OptionSpec) (value : String) :
    Except ArgumentFault Intake :=
  if spec.key = helpSpec.key then .error .help
  else if spec.takesValue && !spec.accepts value then .error (.valueRefused spec.key)
  else .ok { a with given := { a.given with values := a.given.values ++ [(spec.key, value)] } }

def Intake.position (a : Intake) (word : Option String) : Intake :=
  { a with given := { a.given with positional := word }, isOpen := false }

def Intake.stray (a : Intake) : Intake := { a with hasStrays := true }

/-- Takes in the switches of a word, and notes a stray letter. -/
def Intake.recordSwitches (a : Intake) (u : Unfolded) : Except ArgumentFault Intake :=
  u.switches.foldlM (fun a spec => a.record spec "") (if u.isStray then a.stray else a)

def gather (specs : List OptionSpec) : List (String × Word) → Intake → Except ArgumentFault Intake
  | [], a => .ok a
  | (_, .unknown) :: rest, a => gather specs rest a.stray
  | (word, .plain) :: rest, a =>
    if a.isOpen then
      match rest with
      | (_, .divider) :: rest => gather specs rest (a.position (some word))
      | rest => gather specs rest (a.position (some word))
    else gather specs rest a.stray
  | (_, .divider) :: rest, a =>
    if a.isOpen then
      match rest with
      | (word, .plain) :: rest => gather specs rest (a.position (some word))
      | rest => gather specs rest (a.position none)
    else gather specs rest a.stray
  | (_, .option spec glued attached) :: rest, a => do
    let unfolded ← unfold specs spec glued attached
    match unfolded.pending with
    | none => gather specs rest (← a.recordSwitches unfolded)
    | some ⟨spec, some value⟩ =>
      gather specs rest (← (← a.recordSwitches unfolded).record spec value)
    | some ⟨spec, none⟩ =>
      match rest with
      | (word, .plain) :: rest =>
        gather specs rest (← (← a.recordSwitches unfolded).record spec word)
      | _ => throw (.valueMissing spec.key)
termination_by words => words.length

/-- The arguments of a command with the given options. -/
def parse (specs : List OptionSpec) (takesPositional : Bool) (words : List String) :
    Except ArgumentFault Arguments := do
  let specs := helpSpec :: specs
  let a ← gather specs (← classifyAll specs words) { isOpen := takesPositional }
  if a.hasStrays then throw .unrecognized
  return a.given

end Arguments

end Questline
