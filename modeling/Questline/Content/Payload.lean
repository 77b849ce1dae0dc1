import Questline.Json.PairTable

/-!
# Payloads

A payload is a value as an author wrote it, together with the option presets
that its entries can name.  Presets stand at the top or in entries of the step
list that declare nothing else; merged quest files bring theirs along.
-/

namespace Questline

structure Payload where
  value : Json
  presets : PairTable

namespace Payload

/-- An object with presets and without an id declares presets and is no step. -/
def isPresetEntry (v : Json) : Bool :=
  (v.member? "option_presets").isSome && (v.member? "id").isNone

/-- The presets that a value declares itself. -/
def ownPresets (v : Json) : Table Json := ((v.memberOrNull "option_presets").asObject?).getD []

/-- The presets that some entries declare, set one after the other. -/
def addPresets (presets : PairTable) (entries : List Json) : PairTable :=
  (entries.filter isPresetEntry).foldl
    (fun presets entry => presets.update (.ofTable (ownPresets entry))) presets

/-- The entries of the step list; a value without one has none. -/
def stepEntries (v : Json) : List Json := ((v.memberOrNull "steps").asList?).getD []

/-- A value with the presets found in it: those at the top, overridden by those of entries. -/
def ofJson (v : Json) : Payload :=
  ⟨v, addPresets (.ofTable (ownPresets v)) (stepEntries v)⟩

def entries (p : Payload) : List Json := stepEntries p.value

end Payload

end Questline
