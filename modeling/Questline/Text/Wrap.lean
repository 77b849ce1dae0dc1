import Questline.Text.Trim

/-!
# Wrapping

A paragraph is cut into chunks: runs of white space, words with the
punctuation around them, the parts of hyphenated words, and dashes between
words.  The chunks are put on lines from left to right.  White space at the
start of a further line and at the end of a line is left out, and a chunk that
is longer than a line is broken.
-/

namespace Questline.Text

/-! ## Chunks -/

def isAsciiBlank (c : Char) : Bool := c == ' ' || (9 ≤ c.toNat && c.toNat ≤ 13)

/-- Tabs as blanks up to the next multiple of eight columns; every other white space of ASCII as
one blank. -/
def levelBlanks (column : Nat) : List Char → List Char
  | [] => []
  | c :: cs =>
    if c = '\t' then
      let gap := 8 - column % 8
      List.replicate gap ' ' ++ levelBlanks (column + gap) cs
    else if c = '\n' ∨ c = '\r' then ' ' :: levelBlanks 0 cs
    else (if isAsciiBlank c then ' ' else c) :: levelBlanks (column + 1) cs

/-- What can stand right before a dash. -/
def isDashNeighbour (c : Char) : Bool :=
  isWord c || c == '!' || c == '"' || c == '\'' || c == '&' || c == '.' || c == ',' || c == '?'

/-- Whether a dash between words starts here: two hyphens or more after a word, before a word. -/
def dashStarts (before rest : List Char) : Bool :=
  match before, rest with
  | b :: _, '-' :: '-' :: rest =>
    isDashNeighbour b && (rest.dropWhile (· == '-')).head?.any isWord
  | _, _ => false

/-- Whether a line may end after the hyphen between the two: after two letters, or a letter, a
hyphen and a letter; before two letters, perhaps with a hyphen between them. -/
def hyphenParts (before after : List Char) : Bool :=
  (match before with
    | b :: '-' :: a :: _ => isWordLetter b && isWordLetter a
    | b :: a :: _ => isWordLetter b && isWordLetter a
    | _ => false) &&
  match after with
  | a :: '-' :: b :: _ => isWordLetter a && isWordLetter b
  | a :: b :: _ => isWordLetter a && isWordLetter b
  | _ => false

inductive ChunkKind where
  | blank
  | dash
  | word
deriving DecidableEq

/-- The chunk that is being read, in reverse. -/
structure OpenChunk where
  kind : ChunkKind
  chars : List Char

def OpenChunk.close : Option OpenChunk → List (List Char)
  | none => []
  | some o => [o.chars.reverse]

/-- The kind of chunk that starts with a character that is no white space. -/
def startKind (before rest : List Char) : ChunkKind :=
  if dashStarts before rest then .dash else .word

/-- The chunks of a text; `before` is what has been read so far, in reverse. -/
def chunksFrom (opened : Option OpenChunk) (before : List Char) : List Char → List (List Char)
  | [] => OpenChunk.close opened
  | c :: cs =>
    let anew (kind : ChunkKind) : List (List Char) :=
      OpenChunk.close opened ++ chunksFrom (some ⟨kind, [c]⟩) (c :: before) cs
    match opened with
    | none =>
      anew (if isAsciiBlank c then .blank else startKind before (c :: cs))
    | some ⟨.blank, chars⟩ =>
      if isAsciiBlank c then chunksFrom (some ⟨.blank, c :: chars⟩) (c :: before) cs
      else anew (startKind before (c :: cs))
    | some ⟨.dash, chars⟩ =>
      if isAsciiBlank c then anew .blank
      else if c = '-' then chunksFrom (some ⟨.dash, c :: chars⟩) (c :: before) cs
      else anew (startKind before (c :: cs))
    | some ⟨.word, chars⟩ =>
      if isAsciiBlank c then anew .blank
      else if c = '-' && hyphenParts before cs then
        (c :: chars).reverse :: chunksFrom none (c :: before) cs
      else if dashStarts before (c :: cs) then anew .dash
      else chunksFrom (some ⟨.word, c :: chars⟩) (c :: before) cs

def chunks (cs : List Char) : List (List Char) := chunksFrom none [] cs

/-! ## Lines -/

/-- The finished lines and the chunks on the line that is being filled. -/
structure Filling where
  lines : List (List Char) := []
  line : List (List Char) := []
  /-- No chunk has been offered to the line yet. -/
  isFresh : Bool := true

namespace Filling

def width (f : Filling) : Nat := f.line.flatten.length

def isBlankChunk (chunk : List Char) : Bool := chunk.all isBlank

/-- The chunks of a line without white space at the end. -/
def withoutLastBlank (line : List (List Char)) : List (List Char) :=
  match line.getLast? with
  | some chunk => if isBlankChunk chunk then line.dropLast else line
  | none => line

/-- Ends the line; a line without chunks is none. -/
def close (f : Filling) : Filling :=
  let line := withoutLastBlank f.line
  { lines := if line.isEmpty then f.lines else f.lines ++ [line.flatten] }

def add (f : Filling) (chunk : List Char) : Filling :=
  { f with line := f.line ++ [chunk], isFresh := false }

/-- White space right at the start of a further line. -/
def isDropped (f : Filling) (chunk : List Char) : Bool :=
  f.isFresh && !f.lines.isEmpty && isBlankChunk chunk

/-- The part of a long chunk that goes on a line with some room: up to the last hyphen with
something other than hyphens before it, or as much as there is room for. -/
def breakPoint (room : Nat) (chunk : List Char) : Nat :=
  let upTo := ((chunk.take room).reverse.dropWhile (· != '-')).reverse
  if upTo.dropLast.any (· != '-') then upTo.length else room

theorem breakPoint_pos {room : Nat} (h : 0 < room) (chunk : List Char) :
    0 < breakPoint room chunk := by
  simp only [breakPoint]
  split
  · rename_i hany
    match hup : ((chunk.take room).reverse.dropWhile (· != '-')).reverse with
    | [] => simp [hup] at hany
    | _ :: _ => simp
  · exact h

/-- The room left on a line; an empty line has room for at least one character. -/
def room (limit : Nat) (f : Filling) : Nat :=
  if f.line.isEmpty then max 1 limit else limit - f.width

theorem line_close (f : Filling) : f.close.line = [] := rfl

/-- Offers a chunk to a line that has been started anew. -/
def begin (f : Filling) (chunk : List Char) : Filling :=
  if f.isDropped chunk then { f with isFresh := false } else f.add chunk

/-- Puts a chunk on the line, or on further lines when there is no room for it. -/
def place (limit : Nat) (f : Filling) (chunk : List Char) : Filling :=
  if f.isDropped chunk then { f with isFresh := false }
  else if f.width + chunk.length ≤ limit then f.add chunk
  else if chunk.length ≤ limit then f.close.begin chunk
  else
    let n := breakPoint (f.room limit) chunk
    place limit (f.add (chunk.take n)).close (chunk.drop n)
termination_by 2 * chunk.length + if f.line.isEmpty then 0 else 1
decreasing_by
  rename_i hlong
  simp only [List.length_drop, line_close, List.isEmpty_nil, if_true]
  by_cases hline : f.line.isEmpty
  · have hroom : 0 < f.room limit := by
      simp only [room, hline, if_true]
      omega
    have := breakPoint_pos hroom chunk
    simp only [hline, if_true]
    omega
  · simp only [hline, Bool.false_eq_true, if_false]
    omega

end Filling

/-- The lines of a paragraph, none longer than the limit. -/
def wrap (limit : Nat) (s : String) : List String :=
  let filled := (chunks (levelBlanks 0 s.toList)).foldl (Filling.place limit) {}
  filled.close.lines.map String.ofList

end Questline.Text
