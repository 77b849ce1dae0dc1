import Questline.Json.Basic
import Questline.Text.Numeral
import Questline.Text.CodeTable

/-!
# Reading documents

A text is cut into tokens, and the tokens run through a machine with a stack
of unfinished lists and objects.  Both passes recurse on their input.  Besides
the standard grammar the words for NaN and the infinities are read; a number
beyond the largest finite one is infinite; an integer of more digits than
`Text.digitLimit`, and a list or an object inside more than `depthLimit` others,
are refused in ways of their own.
-/

namespace Questline.Json

inductive ReadFault where
  | malformed
  | hugeInteger
  | tooDeep
deriving DecidableEq

/-- So many lists and objects may be open at once. -/
def depthLimit : Nat := 988

inductive Token where
  | openList
  | closeList
  | openObject
  | closeObject
  | comma
  | colon
  | scalar (v : Json)
  | text (s : String)
  | hugeInteger
  | bad

/-- Splits off the leading decimal digits. -/
def takeDigits (cs : List Char) : List Char × List Char :=
  (cs.takeWhile Char.isDigit, cs.dropWhile Char.isDigit)

def digitsValue (ds : List Char) : Nat := Text.numberOfDigits (ds.map fun d => d.toNat - '0'.toNat)

/-- The fraction digits that a text begins with, after a point. -/
def fractionPart : List Char → List Char × List Char
  | '.' :: cs => if (takeDigits cs).1.isEmpty then ([], '.' :: cs) else takeDigits cs
  | cs => ([], cs)

/-- A sign that may stand before the digits of an exponent. -/
def exponentSign : List Char → Bool × List Char
  | '-' :: cs => (true, cs)
  | '+' :: cs => (false, cs)
  | cs => (false, cs)

/-- The exponent that a text begins with; its mark must be followed by a digit. -/
def exponentPart : List Char → Option Int × List Char
  | [] => (none, [])
  | c :: cs =>
    let (negative, rest) := exponentSign cs
    let (ds, rest) := takeDigits rest
    if (c = 'e' ∨ c = 'E') ∧ !ds.isEmpty then
      (some (if negative then -(digitsValue ds : Int) else digitsValue ds), rest)
    else (none, c :: cs)

/-- The whole digits that a text begins with; a leading zero stands alone. -/
def wholePart (cs : List Char) : List Char × List Char :=
  match cs with
  | '0' :: rest => (['0'], rest)
  | cs => takeDigits cs

/-- A number without its sign.  An integer that is too long is noticed before what follows it. -/
def unsignedToken (negative : Bool) (cs : List Char) : Token :=
  let (whole, rest) := wholePart cs
  let (fraction, rest) := fractionPart rest
  let (exponent, rest) := exponentPart rest
  if whole.isEmpty then .bad
  else if fraction.isEmpty && exponent.isNone then
    if Text.digitLimit < whole.length then .hugeInteger
    else if !rest.isEmpty then .bad
    else .scalar (.int (if negative then -(digitsValue whole : Int) else digitsValue whole))
  else if !rest.isEmpty then .bad
  else
    let ds := (whole ++ fraction).dropWhile (· == '0')
    .scalar (.float (.ofDecimal negative (digitsValue ds) ds.length
      (exponent.getD 0 - (fraction.length : Int))))

/-- The token of a run of characters that are neither blank nor punctuation. -/
def wordToken (cs : List Char) : Token :=
  match String.ofList cs with
  | "null" => .scalar .null
  | "true" => .scalar (.bool true)
  | "false" => .scalar (.bool false)
  | "NaN" => .scalar (.float .nan)
  | "Infinity" => .scalar (.float (.infinite false))
  | "-Infinity" => .scalar (.float (.infinite true))
  | _ =>
    match cs with
    | '-' :: cs => unsignedToken true cs
    | cs => unsignedToken false cs

/-- Characters from UTF-16 units and code points; a surrogate without its partner is replaced. -/
def charsOfUnits : List Nat → List Char
  | [] => []
  | [u] => [if 0xd800 ≤ u ∧ u < 0xe000 then Char.ofNat 0xfffd else Char.ofNat u]
  | u :: v :: rest =>
    if 0xd800 ≤ u ∧ u < 0xdc00 ∧ 0xdc00 ≤ v ∧ v < 0xe000 then
      Char.ofNat (0x10000 + (u - 0xd800) * 0x400 + (v - 0xdc00)) :: charsOfUnits rest
    else (if 0xd800 ≤ u ∧ u < 0xe000 then Char.ofNat 0xfffd else Char.ofNat u) ::
      charsOfUnits (v :: rest)

/-- Where the tokenizer stands; what has been collected is in reverse. -/
inductive Scan where
  | outside
  | word (cs : List Char)
  | text (units : List Nat)
  | escape (units : List Nat)
  | unit (units : List Nat) (digits value : Nat)

def escapedUnit? : Char → Option Nat
  | '"' => some 0x22
  | '\\' => some 0x5c
  | '/' => some 0x2f
  | 'b' => some 8
  | 'f' => some 12
  | 'n' => some 10
  | 'r' => some 13
  | 't' => some 9
  | _ => none

def punctuation? : Char → Option Token
  | '[' => some .openList
  | ']' => some .closeList
  | '{' => some .openObject
  | '}' => some .closeObject
  | ',' => some .comma
  | ':' => some .colon
  | _ => none

def isDocumentBlank (c : Char) : Bool := c == ' ' || c == '\n' || c == '\r' || c == '\t'

/-- What a character outside texts contributes: tokens, and where the scan stands after it. -/
def scanOutside (c : Char) : List Token × Scan :=
  if isDocumentBlank c then ([], .outside)
  else if c = '"' then ([], .text [])
  else
    match punctuation? c with
    | some t => ([t], .outside)
    | none => ([], .word [c])

def scanChar (s : Scan) (c : Char) : List Token × Scan :=
  match s with
  | .outside => scanOutside c
  | .word cs =>
    if isDocumentBlank c || c == '"' || (punctuation? c).isSome then
      let (ts, s) := scanOutside c
      (wordToken cs.reverse :: ts, s)
    else ([], .word (c :: cs))
  | .text us =>
    if c = '"' then ([.text (.ofList (charsOfUnits us.reverse))], .outside)
    else if c = '\\' then ([], .escape us)
    else if c.toNat < 32 then ([.bad], .text us)
    else ([], .text (c.toNat :: us))
  | .escape us =>
    if c = 'u' then ([], .unit us 0 0)
    else
      match escapedUnit? c with
      | some u => ([], .text (u :: us))
      | none => ([.bad], .text us)
  | .unit us digits value =>
    match Text.hexDigitValue? c with
    | none => ([.bad], .text us)
    | some d =>
      if digits = 3 then ([], .text ((value * 16 + d) :: us))
      else ([], .unit us (digits + 1) (value * 16 + d))

def scan (s : Scan) : List Char → List Token
  | [] =>
    match s with
    | .outside => []
    | .word cs => [wordToken cs.reverse]
    | _ => [.bad]
  | c :: cs =>
    let (ts, s) := scanChar s c
    ts ++ scan s cs

/-- A list or an object that is still open; an object keeps the name whose value comes next. -/
inductive Frame where
  | list (done : List Json)
  | object (done : Table Json) (key : String)

/-- What may come next. -/
inductive Expect where
  | value
  | valueOrClose
  | commaOrClose
  | key
  | keyOrClose
  | colon
  | nothing

structure Reading where
  stack : List Frame
  expect : Expect
  result : Option Json

/-- A finished value goes into the innermost open container. -/
def Reading.close (stack : List Frame) (v : Json) : Reading :=
  match stack with
  | [] => ⟨[], .nothing, some v⟩
  | .list done :: rest => ⟨.list (v :: done) :: rest, .commaOrClose, none⟩
  | .object done key :: rest => ⟨.object (Table.set key v done) key :: rest, .commaOrClose, none⟩

/-- Opens one more container. -/
def Reading.enter (r : Reading) (f : Frame) (e : Expect) : Except ReadFault Reading :=
  if r.stack.length < depthLimit then .ok ⟨f :: r.stack, e, none⟩ else .error .tooDeep

def Reading.startValue (r : Reading) (t : Token) : Except ReadFault Reading :=
  match t with
  | .scalar v => .ok (.close r.stack v)
  | .text s => .ok (.close r.stack (.str s))
  | .openList => r.enter (.list []) .valueOrClose
  | .openObject => r.enter (.object [] "") .keyOrClose
  | .hugeInteger => .error .hugeInteger
  | _ => .error .malformed

def Reading.step (r : Reading) (t : Token) : Except ReadFault Reading :=
  match r.expect, t, r.stack with
  | .value, t, _ => r.startValue t
  | .valueOrClose, .closeList, .list done :: rest => .ok (.close rest (.arr done.reverse))
  | .valueOrClose, t, _ => r.startValue t
  | .commaOrClose, .comma, .list _ :: _ => .ok { r with expect := .value }
  | .commaOrClose, .closeList, .list done :: rest => .ok (.close rest (.arr done.reverse))
  | .commaOrClose, .comma, .object _ _ :: _ => .ok { r with expect := .key }
  | .commaOrClose, .closeObject, .object done _ :: rest => .ok (.close rest (.obj done))
  | .key, .text s, .object done _ :: rest => .ok ⟨.object done s :: rest, .colon, none⟩
  | .keyOrClose, .text s, .object done _ :: rest => .ok ⟨.object done s :: rest, .colon, none⟩
  | .keyOrClose, .closeObject, .object done _ :: rest => .ok (.close rest (.obj done))
  | .colon, .colon, _ => .ok { r with expect := .value }
  | _, _, _ => .error .malformed

/-- The value that a text denotes. -/
def read (s : String) : Except ReadFault Json := do
  let r ← (scan .outside s.toList).foldlM Reading.step ⟨[], .value, none⟩
  match r.result with
  | some v => .ok v
  | none => .error .malformed

end Questline.Json
