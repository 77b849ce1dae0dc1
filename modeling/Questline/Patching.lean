import Questline.Composition
import Questline.Search

/-!
# Patching

A step is patched for a player, or for counts that are taken as they are.
Patching is stopped by a player of too high a level, and by a token whose
number cannot be read: one of a patch that is put to the test, or one of the
step if such a patch asks for its tags.
-/

namespace Questline

/-- The patches that are put to the test for a step. -/
def patchesTested (base : Step) (patches : List StepPatch) : List StepPatch :=
  patches.filter fun p => p.isFor base.id && !isPatchId base.id

/-- The tokens that are read to put a patch to the test: its own, up to the first that does not
allow it, and with a condition on the step all those of the step. -/
def tokensToTest (base : Step) (counts : Counts) (p : StepPatch) : List String :=
  let own := readInTurn (patchTokenHolds base counts) p.tags
  if own.any fun token => (Tag.ofToken token).isBaseCondition then own ++ base.tags else own

def tokensTested (base : Step) (patches : List StepPatch) (counts : Counts) : List String :=
  (patchesTested base patches).flatMap (tokensToTest base counts)

/-- The step as the patches leave it that apply, unless something stops them. -/
def patch (config : Config) (base : Step) (patches : List StepPatch) (seeker : Seeker) :
    Except Fault Step := do
  let counts ← seeker.counts? config
  checkTokens (tokensTested base patches counts)
  return compose config.patchTextSeparator base patches counts

end Questline
