import Questline.Content.Authored
import Questline.Execution

/-!
# Drafts

Steps and patches that nobody has checked can be tried out as they stand.  A
draft is refused only for what is looked at: a tag whose number cannot be read,
or a value that is no text where a text is needed.
-/

namespace Questline

namespace AuthoredStep

/-- The id and the tags of a draft, by which it is matched. -/
def matchable (s : AuthoredStep) : Except Fault Step :=
  match s.id with
  | .str id => .ok { id, tags := s.tags, text := "" }
  | _ => .error .noMembers

/-- Only a text can be rendered. -/
def rendered (v : Json) : Except Fault String :=
  match v with
  | .str s => .ok s
  | _ => .error .wrongKind

/-- What a draft does to a player, whatever its id and its options are. -/
def performable (s : AuthoredStep) : Except Fault Step := do
  checkTokens s.tags
  let log ← s.log.mapM rendered
  let text ← rendered s.text
  return { id := "", tags := s.tags, text, vars := s.vars, log }

/-- Options whose tags can all be read. -/
def readableOptions (s : AuthoredStep) : Except Fault (List AuthoredOption) := do
  checkTokens (s.options.flatMap (·.tags))
  return s.options

/-- A step whose id is that of a patch takes no patches. -/
def takesPatches (base : AuthoredStep) : Bool := !(base.id.asText?.any isPatchId)

end AuthoredStep

namespace Draft

/-- Whether every token of a patch allows it on a step; the first that does not ends the search. -/
def tokensHold (base : AuthoredStep) (counts : Counts) : List String → Except Fault Bool
  | [] => .ok true
  | token :: rest => do
    if patchTagHolds base counts (← Tag.read token) then tokensHold base counts rest
    else return false

def applies (base : AuthoredStep) (counts : Counts) (p : AuthoredPatch) : Except Fault Bool :=
  if p.target.alike base.id && base.takesPatches then tokensHold base counts p.tags
  else .ok false

def applicable (base : AuthoredStep) (patches : List AuthoredPatch) (counts : Counts) :
    Except Fault (List AuthoredPatch) :=
  patches.filterM (applies base counts)

/-- Pieces put one after the other: one piece stands as it is, several must be texts. -/
def joined (separator : String) : List Json → Except Fault Json
  | [piece] => .ok piece
  | pieces =>
    match pieces.mapM Json.asText? with
    | some texts => .ok (.str (Text.joined separator texts))
    | none => .error .wrongKind

/-- A draft as the applicable patches leave it. -/
def compose (separator : String) (base : AuthoredStep) (patches : List AuthoredPatch)
    (counts : Counts) : Except Fault AuthoredStep := do
  match ← applicable base patches counts with
  | [] => return base
  | applied =>
    let text ← joined separator (textPieces Json.given? base.text (applied.map (·.text)))
    return withPatches base text applied

/-- The player after grants and consumptions that nobody has checked, and what changed.  A token
whose number cannot be read stops them, and what the tokens before it did stays done. -/
def mutate (config : Config) (tokens : List String) (p : Player) :
    Player × Except Fault Mutations :=
  let q := applyTokens config (tokens.takeWhile Tag.isReadable) p
  (q, if tokens.all Tag.isReadable then .ok (.between config p q) else .error .unreadableNumber)

end Draft

end Questline
