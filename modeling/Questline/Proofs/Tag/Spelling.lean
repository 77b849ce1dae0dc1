import Questline.Proofs.Text.Numerals

/-!
# The spelling of tokens

A token that compares ends in decimal digits, and these may be spelt in more
ways than one: with zeros in front, with the digits of another script, with a
line feed behind them.  The tag of a token keeps the number alone, so that just
the tokens with a plain numeral come back when their tag is written.
-/

namespace Questline

namespace Comparison

theorem toList_mark_of_ofChar? {c : Char} {comparison : Comparison}
    (h : ofChar? c = some comparison) : comparison.mark.toList = [c] := by
  unfold ofChar? at h
  split at h
  all_goals cases h
  all_goals rfl

theorem exists_ofChar?_iff {comparison : Comparison} :
    (∃ c, ofChar? c = some comparison) ↔ comparison ∈ [equal, less, greater] := by
  constructor
  · rintro ⟨c, hc⟩
    unfold ofChar? at hc
    split at hc
    all_goals cases hc
    all_goals decide
  · intro h
    rcases List.mem_cons.mp h with rfl | h
    · exact ⟨'=', rfl⟩
    rcases List.mem_cons.mp h with rfl | h
    · exact ⟨'<', rfl⟩
    · obtain rfl := List.mem_singleton.mp h
      exact ⟨'>', rfl⟩

end Comparison

namespace Operator

variable {cs rest : List Char} {operator : Operator} {c : Char}

theorem toList_mark_append (h : split cs = (operator, rest)) :
    operator.mark.toList ++ rest = cs := by
  unfold split at h
  split at h
  all_goals
    obtain ⟨rfl, rfl⟩ := Prod.mk.inj h
    rfl

/-- The operator of a token is settled by its mark and the character behind it. -/
theorem split_of_split (h : split cs = (operator, c :: rest)) (rest' : List Char) :
    split (operator.mark.toList ++ c :: rest') = (operator, c :: rest') := by
  unfold split at h
  split at h
  all_goals cases h
  · rfl
  · next hmark =>
      -- the one mark that begins another: an exclamation mark behind it would belong to it
      have hc : c ≠ '!' := by
        rintro rfl
        exact hmark _ rfl
      change split ('^' :: c :: rest') = _
      unfold split
      split
      · next heq =>
          cases heq
          exact absurd rfl hc
      all_goals simp_all
  · rfl
  · rfl
  · rfl
  · rfl
  · change split (c :: rest') = _
    unfold split
    split
    all_goals simp_all

end Operator

namespace Tag

variable {token : String} {operator : Operator} {comparison : Comparison}
  {cs name digits feed : List Char}

/-- Characters that are a name in a single line, the mark of a comparison and decimal digits, with
at most a line feed behind them. -/
structure IsComparison (cs name : List Char) (comparison : Comparison) (digits feed : List Char) :
    Prop where
  parts : cs = name ++ comparison.mark.toList ++ digits ++ feed
  named : name ≠ []
  inOneLine : '\n' ∉ name
  known : comparison ∈ [.equal, .less, .greater]
  numbered : digits ≠ []
  decimal : ∀ d ∈ digits, Text.isDecimalDigit d = true
  feed : feed = [] ∨ feed = ['\n']

/-- What a token that compares is made of. -/
structure Compares (token : String) (operator : Operator) (name : List Char)
    (comparison : Comparison) (digits feed : List Char) : Prop where
  tests : operator.isMutation = false
  compared : ∃ rest, Operator.split token.toList = (operator, rest) ∧
    IsComparison rest name comparison digits feed

/-! ## Reading -/

theorem exists_feed (cs : List Char) :
    ∃ feed, (feed = [] ∨ feed = ['\n']) ∧ cs = withoutFinalFeed cs ++ feed := by
  unfold withoutFinalFeed
  split
  · next rest hrest =>
      refine ⟨['\n'], .inr rfl, ?_⟩
      rw [← List.reverse_cons, ← hrest, List.reverse_reverse]
  · exact ⟨[], .inl rfl, (List.append_nil cs).symm⟩

theorem withoutFinalFeed_append {c : Char} (hc : c ≠ '\n') (hfeed : feed = [] ∨ feed = ['\n']) :
    withoutFinalFeed (cs ++ [c] ++ feed) = cs ++ [c] := by
  rcases hfeed with rfl | rfl
  · unfold withoutFinalFeed
    split
    · next rest hrest =>
        simp only [List.append_nil, List.reverse_append, List.reverse_cons, List.reverse_nil,
          List.nil_append, List.cons_append, List.cons.injEq] at hrest
        exact absurd hrest.1 hc
    · rw [List.append_nil]
  · simp [withoutFinalFeed]

theorem isComparison_of_splitComparison?
    (h : splitComparison? cs = some (name, comparison, digits)) :
    ∃ feed, IsComparison cs name comparison digits feed := by
  obtain ⟨feed, hfeed, hcs⟩ := exists_feed cs
  refine ⟨feed, ?_⟩
  unfold splitComparison? at h
  dsimp only at h
  generalize withoutFinalFeed cs = body at h hcs
  have hbody := List.takeWhile_append_dropWhile (p := Text.isDecimalDigit) (l := body.reverse)
  have hdecimal := List.all_eq_true.mp
    (List.all_takeWhile (p := Text.isDecimalDigit) (l := body.reverse))
  generalize body.reverse.takeWhile Text.isDecimalDigit = reversed at h hbody hdecimal
  split at h
  · contradiction
  · next c rest hrest =>
      rw [hrest] at hbody
      obtain rfl : (reversed ++ c :: rest).reverse = body := by rw [hbody, List.reverse_reverse]
      split at h
      · contradiction
      · next found hfound =>
          split at h
          · contradiction
          · next hguard =>
              simp only [Bool.or_eq_true, List.isEmpty_iff, not_or, Bool.not_eq_true] at hguard
              obtain ⟨⟨hdigits, hname⟩, hline⟩ := hguard
              simp only [Option.some.injEq, Prod.mk.injEq] at h
              obtain ⟨rfl, rfl, rfl⟩ := h
              constructor
              · rw [hcs, Comparison.toList_mark_of_ofChar? hfound]
                simp
              · simpa using hname
              · simpa using hline
              · exact Comparison.exists_ofChar?_iff.mp ⟨c, hfound⟩
              · exact hdigits
              · exact fun d hd => hdecimal d (List.mem_reverse.mp hd)
              · exact hfeed

theorem splitComparison?_eq_some (h : IsComparison cs name comparison digits feed) :
    splitComparison? cs = some (name, comparison, digits) := by
  obtain ⟨mark, hmark⟩ := Comparison.exists_ofChar?_iff.mpr h.known
  have hplain : Text.isDecimalDigit mark = false := by
    unfold Comparison.ofChar? at hmark
    split at hmark
    all_goals first | rfl | contradiction
  have hbody : withoutFinalFeed cs = name ++ mark :: digits := by
    obtain ⟨init, last, hlast⟩ := (List.eq_nil_or_concat digits).resolve_left h.numbered
    have hcs : cs = name ++ mark :: init ++ [last] ++ feed := by
      rw [h.parts, Comparison.toList_mark_of_ofChar? hmark, hlast]
      simp
    have hne : last ≠ '\n' := by
      rintro rfl
      exact absurd (h.decimal '\n' (by simp [hlast])) (by decide)
    rw [hcs, withoutFinalFeed_append hne h.feed, hlast]
    simp
  have hdecimal : ∀ d ∈ digits.reverse, Text.isDecimalDigit d = true := by
    intro d hd
    exact h.decimal d (List.mem_reverse.mp hd)
  have hreversed : (name ++ mark :: digits).reverse = digits.reverse ++ mark :: name.reverse := by
    simp
  have htake : (digits.reverse ++ mark :: name.reverse).takeWhile Text.isDecimalDigit =
      digits.reverse := by
    rw [List.takeWhile_append_of_pos hdecimal, List.takeWhile_cons_of_neg (by simp [hplain]),
      List.append_nil]
  have hdrop : (digits.reverse ++ mark :: name.reverse).dropWhile Text.isDecimalDigit =
      mark :: name.reverse := by
    rw [List.dropWhile_append_of_pos hdecimal, List.dropWhile_cons_of_neg (by simp [hplain])]
  unfold splitComparison?
  dsimp only
  rw [hbody, hreversed, htake, hdrop]
  dsimp only
  rw [hmark]
  simp [h.numbered, h.named, h.inOneLine]

theorem parts_of_compares (h : Compares token operator name comparison digits feed) :
    parts token.toList = (operator, name, some (comparison, digits)) := by
  obtain ⟨rest, hsplit, hrest⟩ := h.compared
  simp [parts, hsplit, h.tests, splitComparison?_eq_some hrest]

theorem exists_compares
    (h : parts token.toList = (operator, name, some (comparison, digits))) :
    ∃ feed, Compares token operator name comparison digits feed := by
  unfold parts at h
  cases hsplit : Operator.split token.toList with
  | mk found rest =>
      rw [hsplit] at h
      dsimp only at h
      split at h
      · cases h
      · next htests =>
          split at h
          · next hcompared =>
              obtain ⟨rfl, rfl, rfl, rfl⟩ := h
              obtain ⟨feed, hfeed⟩ := isComparison_of_splitComparison? hcompared
              exact ⟨feed, by simpa using htests, rest, hsplit, hfeed⟩
          · cases h

/-- A token compares, or it is an operator and a name. -/
theorem exists_compares_or (token : String) :
    (∃ operator name comparison digits feed,
      Compares token operator name comparison digits feed) ∨
    ∃ operator rest, parts token.toList = (operator, rest, none) := by
  rcases hparts : parts token.toList with ⟨operator, name, - | ⟨comparison, digits⟩⟩
  · exact .inr ⟨operator, name, rfl⟩
  · obtain ⟨feed, h⟩ := exists_compares hparts
    exact .inl ⟨operator, name, comparison, digits, feed, h⟩

theorem split_of_parts {rest : List Char} (h : parts cs = (operator, rest, none)) :
    Operator.split cs = (operator, rest) := by
  unfold parts at h
  cases hsplit : Operator.split cs with
  | mk found rest =>
      rw [hsplit] at h
      dsimp only at h
      split at h
      · cases h
        rfl
      · split at h
        · cases h
        · cases h
          rfl

/-! ## Writing -/

theorem format_ofToken_of_parts {rest : List Char}
    (h : parts token.toList = (operator, rest, none)) : (ofToken token).format = token := by
  rw [ofToken, h, ← String.toList_inj]
  simpa [format, ofParts] using Operator.toList_mark_append (split_of_parts h)

/-- The token of a tag that compares spells its number as a plain numeral. -/
theorem toList_format_ofToken (h : Compares token operator name comparison digits feed) :
    (ofToken token).format.toList = operator.mark.toList ++
      (name ++ comparison.mark.toList ++ Nat.toDigits 10 (digitsNumber digits)) := by
  have hnumber : toString (digitsNumber digits : Int) =
      String.ofList (Nat.toDigits 10 (digitsNumber digits)) := Nat.repr_eq_ofList_toDigits
  rw [ofToken, parts_of_compares h]
  simp [format, ofParts, hnumber]

theorem Compares.toList_eq (h : Compares token operator name comparison digits feed) :
    token.toList =
      operator.mark.toList ++ (name ++ comparison.mark.toList ++ (digits ++ feed)) := by
  obtain ⟨rest, hsplit, hrest⟩ := h.compared
  rw [← Operator.toList_mark_append hsplit, hrest.parts, List.append_assoc _ digits]

theorem Compares.digits_ne_nil (h : Compares token operator name comparison digits feed) :
    digits ≠ [] := by
  obtain ⟨rest, -, hrest⟩ := h.compared
  exact hrest.numbered

/-- What is written for a token that compares, compares alike. -/
theorem Compares.format (h : Compares token operator name comparison digits feed) :
    Compares (ofToken token).format operator name comparison
      (Nat.toDigits 10 (digitsNumber digits)) [] := by
  obtain ⟨rest, hsplit, hrest⟩ := h.compared
  obtain ⟨c, more, hname⟩ := List.exists_cons_of_ne_nil hrest.named
  refine ⟨h.tests, name ++ comparison.mark.toList ++ Nat.toDigits 10 (digitsNumber digits), ?_,
    ?_⟩
  · have hparts := hrest.parts
    rw [hname] at hparts
    rw [hparts] at hsplit
    rw [toList_format_ofToken h, hname]
    exact Operator.split_of_split hsplit _
  · exact ⟨(List.append_nil _).symm, hrest.named, hrest.inOneLine, hrest.known,
      Nat.toDigits_ne_nil, fun _ => Text.isDecimalDigit_of_mem_toDigits, .inl rfl⟩

theorem ofToken_format_ofToken (token : String) :
    ofToken (ofToken token).format = ofToken token := by
  rcases exists_compares_or token with ⟨operator, name, comparison, digits, feed, h⟩ |
    ⟨operator, rest, hparts⟩
  · conv_lhs => rw [ofToken, parts_of_compares h.format]
    rw [ofToken, parts_of_compares h, ofParts, ofParts, digitsNumber_toDigits]
  · rw [format_ofToken_of_parts hparts]

/-! ## Tokens that come back -/

theorem isReadable_of_compares (h : Compares token operator name comparison digits feed) :
    isReadable token = decide (digits.length ≤ Text.digitLimit) := by
  rw [isReadable, parts_of_compares h]

theorem isReadable_eq_false_iff :
    isReadable token = false ↔ ∃ operator name comparison digits feed,
      Compares token operator name comparison digits feed ∧
        Text.digitLimit < digits.length := by
  constructor
  · intro h
    rcases exists_compares_or token with ⟨operator, name, comparison, digits, feed, hcompares⟩ |
      ⟨operator, rest, hparts⟩
    · rw [isReadable_of_compares hcompares] at h
      exact ⟨operator, name, comparison, digits, feed, hcompares,
        Nat.lt_of_not_le (of_decide_eq_false h)⟩
    · rw [isReadable, hparts] at h
      contradiction
  · rintro ⟨operator, name, comparison, digits, feed, h, hlong⟩
    rw [isReadable_of_compares h]
    exact decide_eq_false (Nat.not_le_of_lt hlong)

theorem read_eq_ok_iff {t : Tag} :
    read token = .ok t ↔ isReadable token = true ∧ ofToken token = t := by
  unfold read
  cases isReadable token <;> simp

theorem read_eq_error_iff {f : Fault} :
    read token = .error f ↔ f = .unreadableNumber ∧ isReadable token = false := by
  unfold read
  cases isReadable token <;> simp [eq_comm]

theorem Compares.format_eq_iff (h : Compares token operator name comparison digits feed) :
    (ofToken token).format = token ↔ Text.IsPlainNumeral digits ∧ feed = [] := by
  have hspelt : (ofToken token).format = token ↔
      Nat.toDigits 10 (digitsNumber digits) = digits ++ feed := by
    rw [← String.toList_inj, toList_format_ofToken h, h.toList_eq, List.append_cancel_left_eq,
      List.append_cancel_left_eq]
  rw [hspelt, ← toDigits_digitsNumber_eq_iff]
  constructor
  · intro heq
    obtain ⟨rest, -, hrest⟩ := h.compared
    rcases hrest.feed with rfl | rfl
    · exact ⟨by simpa using heq, rfl⟩
    · -- a line feed is no digit of a number
      have hmem : '\n' ∈ Nat.toDigits 10 (digitsNumber digits) := by simp [heq]
      exact absurd ((Text.isPlainNumeral_toDigits _).digits _ hmem) (by decide)
  · rintro ⟨heq, rfl⟩
    rw [heq, List.append_nil]

/-- A token comes back when the tag it is read as is written, unless it compares with a number that
is not spelt as a plain numeral, has a line feed behind it, or is too long to read; only the last
makes it unreadable.  What comes back is always read as the same tag. -/
theorem comes_back_iff (token : String) :
    ((∃ t, read token = .ok t ∧ t.format = token) ↔
      ∀ operator name comparison digits feed,
        Compares token operator name comparison digits feed →
          digits.length ≤ Text.digitLimit ∧ Text.IsPlainNumeral digits ∧ feed = []) ∧
    (∀ f, read token = .error f ↔
      f = .unreadableNumber ∧ ∃ operator name comparison digits feed,
        Compares token operator name comparison digits feed ∧
          Text.digitLimit < digits.length) ∧
    ∀ t, read token = .ok t → read t.format = .ok t := by
  refine ⟨⟨?_, ?_⟩, ?_, ?_⟩
  · rintro ⟨t, hread, hformat⟩ operator name comparison digits feed h
    obtain ⟨hreadable, rfl⟩ := read_eq_ok_iff.mp hread
    rw [isReadable_of_compares h, decide_eq_true_iff] at hreadable
    exact ⟨hreadable, h.format_eq_iff.mp hformat⟩
  · intro hspelt
    refine ⟨ofToken token, read_eq_ok_iff.mpr ⟨?_, rfl⟩, ?_⟩
    · rw [← Bool.not_eq_false, isReadable_eq_false_iff]
      rintro ⟨operator, name, comparison, digits, feed, h, hlong⟩
      exact absurd (hspelt _ _ _ _ _ h).1 (Nat.not_le_of_lt hlong)
    · rcases exists_compares_or token with ⟨operator, name, comparison, digits, feed, h⟩ |
        ⟨operator, rest, hparts⟩
      · exact h.format_eq_iff.mpr (hspelt _ _ _ _ _ h).2
      · exact format_ofToken_of_parts hparts
  · intro f
    rw [read_eq_error_iff, isReadable_eq_false_iff]
  · intro t hread
    obtain ⟨hreadable, rfl⟩ := read_eq_ok_iff.mp hread
    refine read_eq_ok_iff.mpr ⟨?_, ofToken_format_ofToken token⟩
    rcases exists_compares_or token with ⟨operator, name, comparison, digits, feed, h⟩ |
      ⟨operator, rest, hparts⟩
    · rw [isReadable_of_compares h, decide_eq_true_iff] at hreadable
      rw [isReadable_of_compares h.format, decide_eq_true_iff]
      exact Nat.le_trans (length_toDigits_digitsNumber_le h.digits_ne_nil) hreadable
    · rwa [format_ofToken_of_parts hparts]

/-- A zero in front of a number is lost, and a number of too many digits is not read at all. -/
theorem comes_back_not_always :
    (∃ t, read "coin=01" = .ok t ∧ t.format = "coin=1") ∧
      read (String.ofList ("coin=".toList ++ List.replicate (Text.digitLimit + 1) '1')) =
        .error .unreadableNumber := by
  refine ⟨⟨_, rfl, by decide⟩, ?_⟩
  rw [read_eq_error_iff, isReadable_eq_false_iff]
  refine ⟨rfl, .require, "coin".toList, .equal, List.replicate (Text.digitLimit + 1) '1', [],
    ⟨rfl, "coin=".toList ++ List.replicate (Text.digitLimit + 1) '1', ?_, ?_⟩, ?_⟩
  · rw [String.toList_ofList]
    rfl
  · refine ⟨by rw [List.append_nil]; rfl, by decide, by decide, by decide, ?_, ?_, .inl rfl⟩
    · rw [List.replicate_succ]
      exact List.cons_ne_nil _ _
    · intro d hd
      rw [List.eq_of_mem_replicate hd]
      decide
  · rw [List.length_replicate]
    exact Nat.lt_succ_self _

end Tag

end Questline
