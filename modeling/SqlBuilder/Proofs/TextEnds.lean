import Mathlib.Data.List.DropRight
import Mathlib.Data.List.TakeWhile
import SqlBuilder.Text.Blank
import SqlBuilder.Text.Pieces

/-! # The ends of texts

A text that is put together from left to right starts as its first piece does
(`Text.StartsWith.append`).  Stripping removes the characters of a class at both ends and stops at
the first and the last character outside of the class (`Text.stripBoth_append`); trimming does so
with blanks (`Text.trimChars_append`, `Text.exists_eq_append_trimChars`). -/

namespace SqlBuilder.Text

/-! ## How a text starts -/

/-- Whether a text starts with a phrase. -/
def StartsWith (phrase s : String) : Prop := ∃ rest, s = phrase ++ rest

namespace StartsWith

variable {phrase s : String}

/-- A phrase with something behind it starts with the phrase. -/
theorem of_append (phrase rest : String) : StartsWith phrase (phrase ++ rest) := ⟨rest, rfl⟩

/-- More text does not change how a text starts. -/
theorem append (h : StartsWith phrase s) (t : String) : StartsWith phrase (s ++ t) := by
  obtain ⟨rest, rfl⟩ := h
  exact ⟨rest ++ t, String.append_assoc⟩

/-- A text that starts with a phrase has its first character. -/
theorem head?_eq {c : Char} (h : StartsWith phrase s) (hphrase : phrase.toList.head? = some c) :
    s.toList.head? = some c := by
  obtain ⟨rest, rfl⟩ := h
  rw [String.toList_append, List.head?_append, hphrase]
  rfl

end StartsWith

/-! ## Stripping the ends -/

variable {before word after cs : List Char} {p : Char → Bool}

/-- What is in front of a character outside of the class is stripped by itself. -/
theorem dropWhile_append_of_head (hword : word ≠ []) (hhead : ∀ c ∈ word.head?, p c = false) :
    (before ++ word).dropWhile p = before.dropWhile p ++ word := by
  obtain ⟨c, rest, rfl⟩ := List.exists_cons_of_ne_nil hword
  have hstop : (c :: rest).dropWhile p = c :: rest :=
    List.dropWhile_cons_of_neg (by simp [hhead c rfl])
  rw [List.dropWhile_append, hstop]
  split
  · next hempty => rw [List.isEmpty_iff.1 hempty, List.nil_append]
  · rfl

/-- **Stripping stops at the first and the last character outside of the class.** -/
theorem stripBoth_append (hword : word ≠ []) (hhead : ∀ c ∈ word.head?, p c = false)
    (hlast : ∀ c ∈ word.getLast?, p c = false) :
    stripBoth p (before ++ word ++ after)
      = before.dropWhile p ++ word ++ after.rdropWhile p := by
  have hstart : (before ++ (word ++ after)).dropWhile p
      = before.dropWhile p ++ (word ++ after) := by
    refine dropWhile_append_of_head (by simp [hword]) ?_
    obtain ⟨c, rest, rfl⟩ := List.exists_cons_of_ne_nil hword
    exact hhead
  -- The end is the start of the reversed text.
  have hend : (after.reverse ++ (before.dropWhile p ++ word).reverse).dropWhile p
      = after.reverse.dropWhile p ++ (before.dropWhile p ++ word).reverse := by
    refine dropWhile_append_of_head (by simp [hword]) fun c hc => ?_
    rw [List.head?_reverse, List.getLast?_append_of_ne_nil _ hword] at hc
    exact hlast c hc
  rw [List.append_assoc, stripBoth, hstart, ← List.append_assoc, List.reverse_append, hend,
    List.reverse_append, List.reverse_reverse]
  rfl

/-- Nothing is left of a text of the class, and of no other. -/
theorem stripBoth_eq_nil_iff : stripBoth p cs = [] ↔ ∀ c ∈ cs, p c = true := by
  rw [stripBoth, List.reverse_eq_nil_iff, List.dropWhile_eq_nil_iff]
  constructor
  · intro h
    have hnil : cs.dropWhile p = [] := by
      by_contra hne
      -- The first character that is kept would be of the class.
      have hfirst := List.head_dropWhile_not p hne
      exact absurd (h _ (List.mem_reverse.2 (List.head_mem hne))) (by simp [hfirst])
    exact List.dropWhile_eq_nil_iff.1 hnil
  · intro h c hc
    exact h c ((List.dropWhile_sublist p).subset (List.mem_reverse.1 hc))

/-- The first character that is left is outside of the class. -/
theorem not_of_mem_head?_stripBoth {c : Char} (h : c ∈ (stripBoth p cs).head?) : p c = false := by
  obtain ⟨rest, hrest⟩ := List.rdropWhile_prefix p (l := cs.dropWhile p)
  have hfirst : (cs.dropWhile p).head? = some c := by
    have hleft : ((cs.dropWhile p).rdropWhile p).head? = some c := h
    rw [← hrest, List.head?_append, hleft]
    rfl
  have hne : cs.dropWhile p ≠ [] := fun hnil => by simp [hnil] at hfirst
  rw [List.head?_eq_some_head hne, Option.some.injEq] at hfirst
  rw [← hfirst]
  exact List.head_dropWhile_not p hne

/-- The last character that is left is outside of the class. -/
theorem not_of_mem_getLast?_stripBoth {c : Char} (h : c ∈ (stripBoth p cs).getLast?) :
    p c = false := by
  have hlast : ((cs.dropWhile p).rdropWhile p).getLast? = some c := h
  have hne : (cs.dropWhile p).rdropWhile p ≠ [] := fun hnil => by simp [hnil] at hlast
  rw [List.getLast?_eq_some_getLast hne, Option.some.injEq] at hlast
  rw [← hlast]
  exact Bool.eq_false_iff.2 (List.rdropWhile_last_not p _ hne)

/-- A text that neither starts nor ends in the class is left of a text with such characters around
it. -/
theorem stripBoth_of_surrounded (hhead : ∀ c ∈ word.head?, p c = false)
    (hlast : ∀ c ∈ word.getLast?, p c = false) (hbefore : ∀ c ∈ before, p c = true)
    (hafter : ∀ c ∈ after, p c = true) : stripBoth p (before ++ word ++ after) = word := by
  by_cases hword : word = []
  · subst hword
    rw [stripBoth_eq_nil_iff, List.append_nil]
    intro c hc
    rcases List.mem_append.1 hc with h | h
    · exact hbefore c h
    · exact hafter c h
  · rw [stripBoth_append hword hhead hlast, List.dropWhile_eq_nil_iff.2 hbefore,
      List.rdropWhile_eq_nil_iff.2 hafter, List.nil_append, List.append_nil]

/-- If nothing else is left, then everything around is of the class. -/
theorem all_of_length_stripBoth (hhead : ∀ c ∈ word.head?, p c = false)
    (hlast : ∀ c ∈ word.getLast?, p c = false)
    (hlength : (stripBoth p (before ++ word ++ after)).length = word.length) :
    (∀ c ∈ before, p c = true) ∧ ∀ c ∈ after, p c = true := by
  by_cases hword : word = []
  · subst hword
    have hall := stripBoth_eq_nil_iff.1 (List.length_eq_zero_iff.1 hlength)
    exact ⟨fun c hc => hall c (by simp [hc]), fun c hc => hall c (by simp [hc])⟩
  · rw [stripBoth_append hword hhead hlast, List.length_append, List.length_append] at hlength
    exact ⟨List.dropWhile_eq_nil_iff.1 (List.length_eq_zero_iff.1 (by omega)),
      List.rdropWhile_eq_nil_iff.1 (List.length_eq_zero_iff.1 (by omega))⟩

/-! ## Blanks at the ends -/

/-- Blanks on both sides are left out. -/
theorem trimChars_append (hbefore : ∀ c ∈ before, isBlank c = true)
    (hafter : ∀ c ∈ after, isBlank c = true) (hhead : ∀ c ∈ word.head?, isBlank c = false)
    (hlast : ∀ c ∈ word.getLast?, isBlank c = false) :
    trimChars (before ++ word ++ after) = word :=
  stripBoth_of_surrounded hhead hlast hbefore hafter

/-- A text is what is left of it with blanks on both sides. -/
theorem exists_eq_append_trimChars (cs : List Char) :
    ∃ before after, cs = before ++ trimChars cs ++ after ∧
      (∀ c ∈ before, isBlank c = true) ∧ ∀ c ∈ after, isBlank c = true := by
  refine ⟨cs.takeWhile isBlank, ((trimStart cs).reverse.takeWhile isBlank).reverse, ?_, ?_, ?_⟩
  · have hend := List.takeWhile_append_dropWhile (p := isBlank) (l := (trimStart cs).reverse)
    have hstart := List.takeWhile_append_dropWhile (p := isBlank) (l := cs)
    have hback := congrArg List.reverse hend
    rw [List.reverse_append, List.reverse_reverse] at hback
    rw [trimChars, trimEnd, List.append_assoc, hback, trimStart, hstart]
  · exact fun c hc => List.mem_takeWhile_imp hc
  · intro c hc
    exact List.mem_takeWhile_imp (List.mem_reverse.1 hc)

/-- Blanks have no letter case. -/
theorem toLower_of_isBlank {c : Char} (h : isBlank c = true) : c.toLower = c := by
  have hupper : ¬(65 ≤ c.toNat ∧ c.toNat ≤ 90) := by
    obtain ⟨range, hrange, hlow, hhigh⟩ := (CodeRanges.contains_iff _ _).1 h
    simp only [blankRanges, List.mem_cons, List.not_mem_nil, or_false] at hrange
    rcases hrange with rfl | rfl | rfl | rfl | rfl | rfl | rfl | rfl | rfl | rfl <;>
      simp only at hlow hhigh <;> omega
  unfold Char.toLower
  rw [dif_neg]
  exact hupper

/-- A character is not blank if its lower-case form is not. -/
theorem not_isBlank_of_toLower {c letter : Char} (h : c.toLower = letter)
    (hletter : isBlank letter = false) : isBlank c = false := by
  by_cases hblank : isBlank c = true
  · rw [toLower_of_isBlank hblank] at h
    rw [h, hletter] at hblank
    cases hblank
  · exact Bool.eq_false_iff.2 hblank

end SqlBuilder.Text
