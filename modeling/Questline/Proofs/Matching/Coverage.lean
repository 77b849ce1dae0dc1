import Mathlib.Data.List.Nodup
import Questline.Coverage
import Questline.Proofs.Content.Reach
import Questline.Proofs.Matching.Search
import Questline.Proofs.Text.Sorting

/-!
# What coverage tells

The rows of a location go through all ways to hold its tags or not, each once:
the bits of their numbers are the ways to do so.  Steps are matched by the
counts of the names that they test and by nothing else, so the row of some
counts has the very steps among which chance decides for them.
-/

namespace Questline

variable {counts counts' : Counts} {c : Content} {location : String}

/-! ## Names that are tested -/

theorem Tag.met_congr {t : Tag} (h : t.isPlayerCondition = true → counts t.name = counts' t.name) :
    t.met counts = t.met counts' := by
  unfold met
  split
  · next hcondition => simp only [holds, h hcondition]
  · rfl

theorem met_eq_of_testedName? {token : String}
    (h : ∀ name, Coverage.testedName? token = some name → counts name = counts' name) :
    (Tag.ofToken token).met counts = (Tag.ofToken token).met counts' := by
  apply Tag.met_congr
  intro hcondition
  apply h
  simp [Coverage.testedName?, hcondition]

/-- Counts that agree on every name that a step tests. -/
def AgreeOnTests (counts counts' : Counts) (s : Step) : Prop :=
  ∀ token ∈ s.tags, ∀ name, Coverage.testedName? token = some name → counts name = counts' name

theorem AgreeOnTests.eligible_eq {s : Step} (h : AgreeOnTests counts counts' s) :
    eligible counts s = eligible counts' s := by
  rw [Bool.eq_iff_iff]
  simp only [eligible, conditionsMet, List.all_eq_true]
  refine forall₂_congr fun token htoken => ?_
  rw [conditionHolds, conditionHolds, met_eq_of_testedName? (h token htoken)]

theorem AgreeOnTests.score_eq {s : Step} (h : AgreeOnTests counts counts' s) (weight : Int) :
    score weight counts s = score weight counts' s := by
  have htokens :
      s.tags.map (tokenScore weight counts) = s.tags.map (tokenScore weight counts') := by
    apply List.map_congr_left
    intro token htoken
    simp only [tokenScore, met_eq_of_testedName? (h token htoken)]
  rw [score, score, htokens]

/-- The best steps are the same for counts that agree on every name tested. -/
theorem topSteps_congr {steps : List Step}
    (h : ∀ s ∈ candidates location steps, AgreeOnTests counts counts' s) (weight : Int) :
    topSteps weight location counts steps = topSteps weight location counts' steps := by
  have heligible : eligibleSteps location counts steps = eligibleSteps location counts' steps := by
    apply List.filter_congr
    intro s hs
    exact (h s hs).eligible_eq
  have hscored : scoredSteps weight location counts steps =
      scoredSteps weight location counts' steps := by
    rw [scoredSteps, scoredSteps, heligible]
    apply List.map_congr_left
    intro s hs
    rw [(h s (List.mem_filter.mp hs).1).score_eq]
  rw [topSteps, topSteps, hscored]

namespace Coverage

theorem mem_testedNames_iff {name : String} : name ∈ testedNames c location ↔
    ∃ s ∈ candidates location c.steps, ∃ token ∈ s.tags, testedName? token = some name := by
  simp only [testedNames, List.mem_eraseDups, List.mem_flatMap, List.mem_filterMap]

theorem topSteps_eq_of_testedNames (h : ∀ name ∈ testedNames c location, counts name = counts' name)
    (weight : Int) :
    topSteps weight location counts c.steps = topSteps weight location counts' c.steps := by
  apply topSteps_congr
  intro s hs token htoken name hname
  exact h name (mem_testedNames_iff.mpr ⟨s, hs, token, htoken, hname⟩)

/-! ## Combinations -/

variable {tag : String} {tags : List String} {held : Table Bool} {m n : Nat}

theorem combination_eq_map (h : tags.Nodup) (n : Nat) :
    combination tags n = tags.zipIdx.map fun (tag, i) => (tag, n.testBit i) := by
  apply Table.ofPairs_eq_self
  simpa [Table.keys, Function.comp_def] using h

/-- The first tag has the lowest bit. -/
theorem combination_cons (h : (tag :: tags).Nodup) (n : Nat) :
    combination (tag :: tags) n = (tag, n.testBit 0) :: combination tags (n / 2) := by
  rw [combination_eq_map h, combination_eq_map (List.nodup_cons.mp h).2, List.zipIdx_cons,
    List.map_cons, List.zipIdx_succ]
  simp [Function.comp_def, Nat.testBit_succ]

theorem keys_combination (h : tags.Nodup) (n : Nat) : (combination tags n).keys = tags := by
  simp [combination_eq_map h, Table.keys, Function.comp_def]

/-- Every way to hold the tags or not is one of the combinations. -/
theorem exists_combination (h : tags.Nodup) (hkeys : held.keys = tags) :
    ∃ n < 2 ^ tags.length, combination tags n = held := by
  induction tags generalizing held with
  | nil =>
      obtain rfl := List.map_eq_nil_iff.mp hkeys
      exact ⟨0, Nat.one_pos, rfl⟩
  | cons tag tags ih =>
      obtain ⟨⟨name, bit⟩, rest, rfl, rfl, hrest⟩ := List.map_eq_cons_iff.mp hkeys
      obtain ⟨n, hlt, hn⟩ := ih (List.nodup_cons.mp h).2 hrest
      have hbit := bit.toNat_lt
      have hhalf : (2 * n + bit.toNat) / 2 = n := by omega
      refine ⟨2 * n + bit.toNat, ?_, ?_⟩
      · rw [List.length_cons, Nat.pow_succ]
        omega
      · rw [combination_cons h, hhalf, hn]
        cases bit <;> simp

theorem combination_injOn (h : tags.Nodup) (hm : m < 2 ^ tags.length) (hn : n < 2 ^ tags.length)
    (hsame : combination tags m = combination tags n) : m = n := by
  induction tags generalizing m n with
  | nil =>
      simp only [List.length_nil, Nat.pow_zero] at hm hn
      omega
  | cons tag tags ih =>
      rw [combination_cons h, combination_cons h] at hsame
      simp only [List.cons.injEq, Prod.mk.injEq, true_and, Nat.testBit_zero,
        decide_eq_decide] at hsame
      rw [List.length_cons, Nat.pow_succ] at hm hn
      have hhalf := ih (List.nodup_cons.mp h).2 (by omega) (by omega) hsame.2
      omega

/-! ## Rows -/

/-- Whether a tag is held, told of every name. -/
def heldBy (counts : Counts) (tags : List String) : Table Bool :=
  tags.map fun tag => (tag, decide (counts tag = 1))

theorem keys_heldBy (counts : Counts) (tags : List String) : (heldBy counts tags).keys = tags := by
  simp [heldBy, Table.keys, Function.comp_def]

theorem get?_heldBy (counts : Counts) {tags : List String} {tag : String} (h : tag ∈ tags) :
    (heldBy counts tags).get? tag = some (decide (counts tag = 1)) := by
  induction tags with
  | nil => contradiction
  | cons first tags ih =>
      by_cases hfirst : first = tag
      · simp [heldBy, Table.get?, hfirst]
      · have hmem := ih ((List.mem_cons.mp h).resolve_left (Ne.symm hfirst))
        simpa [heldBy, Table.get?, hfirst] using hmem

theorem countsOf_heldBy {tags : List String} {tag : String} (h : tag ∈ tags)
    (hcount : counts tag = 0 ∨ counts tag = 1) :
    countsOf (heldBy counts tags) tag = counts tag := by
  rw [countsOf, get?_heldBy counts h]
  rcases hcount with hcount | hcount <;> simp [hcount]

theorem nodup_testedNames (c : Content) (location : String) : (testedNames c location).Nodup :=
  Text.nodup_eraseDups _

theorem rows_eq (h : (testedNames c location).length ≤ 6) :
    rows c location = rowsFor c location (testedNames c location) := by
  rw [rows, relevantTags, capped_of_length_le]
  simpa [tagLimit] using h

theorem map_held_rowsFor (c : Content) (location : String) (tags : List String) :
    (rowsFor c location tags).map (·.held) =
      (List.range (2 ^ tags.length)).map (combination tags) := by
  rw [rowsFor, List.map_map]
  rfl

theorem eq_row_of_mem_rowsFor {tags : List String} {r : CoverageRow}
    (h : r ∈ rowsFor c location tags) : r = row c location r.held := by
  obtain ⟨n, -, rfl⟩ := List.mem_map.mp h
  rfl

/-- The rows are told apart by the tags that are held in them, and every way to hold the tags has a
row. -/
theorem held_rowsFor (c : Content) (location : String) {tags : List String} (h : tags.Nodup) :
    ((rowsFor c location tags).map (·.held)).Nodup ∧
      ∀ held, held ∈ (rowsFor c location tags).map (·.held) ↔ held.keys = tags := by
  rw [map_held_rowsFor]
  constructor
  · refine List.Nodup.map_on ?_ List.nodup_range
    intro m hm n hn hsame
    exact combination_injOn h (List.mem_range.mp hm) (List.mem_range.mp hn) hsame
  · intro held
    constructor
    · intro hmem
      obtain ⟨n, -, rfl⟩ := List.mem_map.mp hmem
      exact keys_combination h n
    · intro hkeys
      obtain ⟨n, hlt, hn⟩ := exists_combination h hkeys
      exact List.mem_map.mpr ⟨n, List.mem_range.mpr hlt, hn⟩

/-- What a row says of the steps among which chance decides: their ids, in order, and whether there
are none, one or more of them. -/
structure TellsOf (r : CoverageRow) (best : List Step) : Prop where
  found : r.found = best.map (·.id)
  none_iff : r.cover = .none ↔ best = []
  single_iff : r.cover = .single ↔ ∃ s, best = [s]
  ambiguous_iff : r.cover = .ambiguous ↔ 2 ≤ best.length

theorem TellsOf.of_found {r : CoverageRow} {best : List Step} (h : r.found = best.map (·.id)) :
    TellsOf r best where
  found := h
  none_iff := by
    rw [CoverageRow.cover, h]
    rcases best with - | ⟨s, - | ⟨t, rest⟩⟩ <;> simp [Cover.ofMatches]
  single_iff := by
    rw [CoverageRow.cover, h]
    rcases best with - | ⟨s, - | ⟨t, rest⟩⟩ <;> simp [Cover.ofMatches]
  ambiguous_iff := by
    rw [CoverageRow.cover, h]
    rcases best with - | ⟨s, - | ⟨t, rest⟩⟩ <;> simp [Cover.ofMatches]

theorem tellsOf_row (hcounts : ∀ name ∈ testedNames c location, counts name = 0 ∨ counts name = 1) :
    TellsOf (row c location (heldBy counts (testedNames c location)))
      (topSteps c.config.preferredTagWeight location counts c.steps) := by
  apply TellsOf.of_found
  rw [row, topSteps_eq_of_testedNames fun name hname => countsOf_heldBy hname (hcounts name hname)]

theorem tabulate_of_readable (h : c.Readable) : tabulate c location = .ok (rows c location) := by
  have hread : checkTokens (tokensAt c location) = .ok () := by
    rw [checkTokens_eq_ok_iff]
    intro token htoken
    obtain ⟨s, hs, htag⟩ := List.mem_flatMap.mp htoken
    exact h.steps s (List.mem_filter.mp hs).1 token (List.mem_append_left _ htag)
  rw [tabulate, hread]
  rfl

/-- Where at most six names are tested there is one row for every way to hold them or not.  The row
for the counts of a seeker that has at most one copy of each tells of the steps among which chance
decides for him, whatever else he holds.  In content that was built there is nothing that could not
be read on the way. -/
theorem rows_tell_of_best (c : Content) (location : String) (counts : Counts)
    (hfew : (testedNames c location).length ≤ 6)
    (hcounts : ∀ name ∈ testedNames c location, counts name = 0 ∨ counts name = 1) :
    (rows c location).length = 2 ^ (testedNames c location).length ∧
      ((rows c location).map (·.held)).Nodup ∧
      (∀ held, held ∈ (rows c location).map (·.held) ↔ held.keys = testedNames c location) ∧
      (∃ r ∈ rows c location, r.held = heldBy counts (testedNames c location) ∧
        ∃ best, TellsOf r best ∧
          (∀ s, s ∈ best ↔ IsBest c.config.preferredTagWeight location counts c.steps s) ∧
          ∀ draws, selectStep c.config.preferredTagWeight location counts c.steps draws =
            draws.choose best) ∧
      ∀ source payload, Content.build source payload = .ok c →
        tabulate c location = .ok (rows c location) := by
  have hnodup := nodup_testedNames c location
  obtain ⟨hdistinct, hall⟩ := held_rowsFor c location hnodup
  refine ⟨?_, ?_, ?_, ?_, ?_⟩
  · rw [rows_eq hfew, rowsFor, List.length_map, List.length_range]
    rfl
  · rw [rows_eq hfew]
    exact hdistinct
  · rw [rows_eq hfew]
    exact hall
  · have hheld := (hall (heldBy counts (testedNames c location))).mpr (keys_heldBy _ _)
    obtain ⟨r, hr, hsame⟩ := List.mem_map.mp hheld
    rw [rows_eq hfew]
    refine ⟨r, hr, hsame, _, ?_, fun s => mem_topSteps_iff, fun draws => rfl⟩
    rw [eq_row_of_mem_rowsFor hr, hsame]
    exact tellsOf_row hcounts
  · intro source payload hbuild
    exact tabulate_of_readable (Content.readable_of_build hbuild)

def market : Content where
  steps := [
    { id := "Market", tags := ["!quest", "+coin"], text := "Stalls." },
    { id := "market", tags := ["quest", "@trait:sly"], text := "A whisper." },
    { id := "Market", tags := ["quest"], text := "A rumor." }]

/-- Without the quest there are stalls, and with it a rumor, unless the whisper outscores it. -/
example :
    rows market "Market" =
      [⟨[("quest", false), ("trait:sly", false)], ["Market"]⟩,
        ⟨[("quest", true), ("trait:sly", false)], ["Market"]⟩,
        ⟨[("quest", false), ("trait:sly", true)], ["Market"]⟩,
        ⟨[("quest", true), ("trait:sly", true)], ["market"]⟩] := by
  decide +kernel

/-- No step tests for coins, so whoever has seven of them has the row of the quest and the trait. -/
theorem rows_tell_of_whisper :
    let counts : Counts := fun name => if name = "coin" then 7 else 1
    (testedNames market " MARKET").length ≤ 6 ∧
      (∀ name ∈ testedNames market " MARKET", counts name = 0 ∨ counts name = 1) ∧
      (rows market " MARKET").length = 4 ∧
      ∃ r ∈ rows market " MARKET", r.held = [("quest", true), ("trait:sly", true)] ∧
        ∃ best, TellsOf r best ∧ (selectStep 5 " MARKET" counts market.steps {}).1 =
          (({} : Draws).choose best).1 := by
  intro counts
  have htested : testedNames market " MARKET" = ["quest", "trait:sly"] := by decide +kernel
  have hfew : (testedNames market " MARKET").length ≤ 6 := by
    rw [htested]
    decide
  have hcounts : ∀ name ∈ testedNames market " MARKET", counts name = 0 ∨ counts name = 1 := by
    rw [htested]
    decide
  obtain ⟨hlength, -, -, ⟨r, hr, hheld, best, htells, -, hselect⟩, -⟩ :=
    rows_tell_of_best market " MARKET" counts hfew hcounts
  rw [htested] at hlength hheld
  exact ⟨hfew, hcounts, hlength, r, hr, hheld, best, htells, congrArg Prod.fst (hselect {})⟩

end Coverage

end Questline
