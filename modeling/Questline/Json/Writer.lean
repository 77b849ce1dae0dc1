import Questline.Json.Basic
import Questline.Text.Quoted
import Questline.Text.Trim

/-!
# Writing values

`render` writes a document on one line, `layout` with a line for each element;
both stay within ASCII.  `describe` is the text
of a value inside a sentence: a text stands for itself, everything else is
shown in the notation of listings, with quoted texts.
-/

namespace Questline.Json

mutual

def render : Json → String
  | .null => "null"
  | .bool b => if b then "true" else "false"
  | .int n => toString n
  | .float x => x.text "Infinity" "NaN"
  | .str s => Text.quoteAscii s
  | .arr xs => "[" ++ Text.joined "," (renderList xs) ++ "]"
  | .obj ms => "\x7b" ++ Text.joined "," (renderMembers ms) ++ "\x7d"

def renderList : List Json → List String
  | [] => []
  | x :: xs => render x :: renderList xs

def renderMembers : List (String × Json) → List String
  | [] => []
  | (k, x) :: ms => (Text.quoteAscii k ++ ":" ++ render x) :: renderMembers ms

end

/-- A line break before `depth` levels of indentation. -/
def lineBreak (depth : Nat) : String := .ofList ('\n' :: List.replicate (2 * depth) ' ')

/-- Elements between two marks, each on a line of its own. -/
def spread (depth : Nat) (first last : String) (elements : List String) : String :=
  if elements.isEmpty then first ++ last
  else
    first ++ lineBreak (depth + 1) ++ Text.joined ("," ++ lineBreak (depth + 1)) elements ++
      lineBreak depth ++ last

mutual

/-- A document over many lines, inside `depth` others. -/
def layout (depth : Nat) : Json → String
  | .arr xs => spread depth "[" "]" (layoutList (depth + 1) xs)
  | .obj ms => spread depth "\x7b" "\x7d" (layoutMembers (depth + 1) ms)
  | v => v.render

def layoutList (depth : Nat) : List Json → List String
  | [] => []
  | x :: xs => layout depth x :: layoutList depth xs

def layoutMembers (depth : Nat) : List (String × Json) → List String
  | [] => []
  | (k, x) :: ms => (Text.quoteAscii k ++ ": " ++ layout depth x) :: layoutMembers depth ms

end

mutual

/-- A value as it is shown inside a listing. -/
def listing : Json → String
  | .null => "None"
  | .bool b => if b then "True" else "False"
  | .int n => toString n
  | .float x => x.text "inf" "nan"
  | .str s => Text.quoteLiteral s
  | .arr xs => "[" ++ Text.joined ", " (listingList xs) ++ "]"
  | .obj ms => "\x7b" ++ Text.joined ", " (listingMembers ms) ++ "\x7d"

def listingList : List Json → List String
  | [] => []
  | x :: xs => listing x :: listingList xs

def listingMembers : List (String × Json) → List String
  | [] => []
  | (k, x) :: ms => (Text.quoteLiteral k ++ ": " ++ listing x) :: listingMembers ms

end

/-- The text of a value. -/
def describe : Json → String
  | .str s => s
  | v => listing v

@[simp] theorem describe_str (s : String) : describe (.str s) = s := rfl

/-- The word for the kind of a value. -/
def kindWord : Json → String
  | .null => "NoneType"
  | .bool _ => "bool"
  | .int _ => "int"
  | .float _ => "float"
  | .str _ => "str"
  | .arr _ => "list"
  | .obj _ => "dict"

end Questline.Json
