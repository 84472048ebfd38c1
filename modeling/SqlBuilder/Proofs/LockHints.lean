import SqlBuilder.Proofs.EntriesOrder
import SqlBuilder.Proofs.LockProtocol
import SqlBuilder.Text.CaseFolding

/-! # Hints of table locks

The modes and the wait instructions of a dialect are patterns of alternatives, and a hint counts if
it matches one of them without regard to case.  `MatchesPattern` says so character by character,
apart from the way in which hints are compared, and `acceptsMode_iff` and `accepts_iff` say that the
two agree.

`LockHints.ofList_eq` gives the modes and the wait instruction of a list of hints without a loop.
What is kept is a hint in upper-case ASCII letters, which leaves the letters alone that equal a `K`
or an `S` up to case and are not ASCII letters, and the digits of all scripts.  So
`Built.lock_spelled_like` says of every lock how near its modes and its wait instruction are to the
ones listed, and when they are the very same. -/

namespace SqlBuilder

/-! ## Patterns of alternatives -/

/-- The characters of modes and wait instructions: upper-case letters, the underscore and the
blank. -/
def wordLetters : List Char := (0x20 :: 0x5f :: List.range' 0x41 26).map Char.ofNat

/-- **Whether a hint matches an alternative of a pattern.**  It has one decimal digit of some script
or more where the alternative says `\d+`, and elsewhere a character that is equal up to case to the
alternative's own. -/
inductive MatchesAlternative : List Char → List Char → Prop where
  /-- Nothing is left of both. -/
  | nil : MatchesAlternative [] []
  /-- Both go on with the same letter up to case. -/
  | letter {w c : Char} {alternative hint : List Char} (hw : w ∈ wordLetters)
      (hc : c ∈ Text.caseVariants w) (h : MatchesAlternative alternative hint) :
      MatchesAlternative (w :: alternative) (c :: hint)
  /-- The alternative asks for digits. -/
  | digits {seconds alternative hint : List Char} (hne : seconds ≠ [])
      (hdigits : ∀ c ∈ seconds, Text.isDecimalDigit c = true)
      (h : MatchesAlternative alternative hint) :
      MatchesAlternative ('\\' :: 'd' :: '+' :: alternative) (seconds ++ hint)

/-- **Whether a hint matches a pattern**: one of its alternatives. -/
def MatchesPattern (pattern hint : String) : Prop :=
  ∃ alternative ∈ Text.split '|' pattern, MatchesAlternative alternative.toList hint.toList

/-! ## Letters up to case -/

/-- The characters that equal a letter of a word up to case: its two forms, and the Kelvin sign for
`K` and the long s for `S`. -/
theorem caseVariants_of_mem_wordLetters : ∀ w ∈ wordLetters,
    Text.caseVariants w = (if w.isUpper then [w.toLower, w] else [w]) ++
      ['\u212a', '\u017f'].filter fun c => foldedLetter c = w :=
  List.forall_mem_map.2 (by decide +kernel)

/-- What holds of the letters from `a` to `z` and of the characters that stand in upper case already
holds of all characters. -/
theorem forall_char_of_lower {P : Char → Prop} (hlower : ∀ n ∈ List.range' 97 26, P (Char.ofNat n))
    (hupper : ∀ c : Char, c.toUpper = c → P c) (c : Char) : P c := by
  by_cases hc : 97 ≤ c.toNat ∧ c.toNat ≤ 122
  · have hletter := hlower c.toNat (by simp; omega)
    rwa [Char.ofNat_toNat] at hletter
  · refine hupper c ?_
    unfold Char.toUpper
    rw [dif_neg]
    exact hc

/-- A character is its own upper-case form or the lower-case form of that. -/
theorem eq_toUpper_or_eq_toLower (c : Char) :
    c.toUpper = c ∨ c.toUpper.isUpper = true ∧ c.toUpper.toLower = c := by
  revert c
  exact forall_char_of_lower (by decide) fun _ hupper => Or.inl hupper

/-- **The folded letter of a character tells to which letter it is equal up to case.** -/
theorem mem_caseVariants_iff {w : Char} (hw : w ∈ wordLetters) (c : Char) :
    c ∈ Text.caseVariants w ↔ foldedLetter c = w := by
  have hforms : ∀ w ∈ wordLetters, foldedLetter w = w ∧ foldedLetter w.toLower = w :=
    List.forall_mem_map.2 (by decide +kernel)
  rw [caseVariants_of_mem_wordLetters w hw, List.mem_append, List.mem_filter, decide_eq_true_eq]
  constructor
  · rintro (hascii | ⟨-, hother⟩)
    · split at hascii
      · rcases List.mem_cons.1 hascii with rfl | hsame
        · exact (hforms w hw).2
        · rw [List.mem_singleton.1 hsame]
          exact (hforms w hw).1
      · rw [List.mem_singleton.1 hascii]
        exact (hforms w hw).1
    · exact hother
  · intro hfold
    -- But for the two signs, what folds to `w` has `w` as its upper-case form.
    by_cases hkelvin : c = '\u212a'
    · exact Or.inr ⟨by simp [hkelvin], hfold⟩
    by_cases hlong : c = '\u017f'
    · exact Or.inr ⟨by simp [hlong], hfold⟩
    have hupper : c.toUpper = w := by
      rwa [foldedLetter, if_neg hkelvin, if_neg hlong] at hfold
    rcases eq_toUpper_or_eq_toLower c with hsame | ⟨hisUpper, hlower⟩
    · obtain rfl : c = w := hsame.symm.trans hupper
      left
      split <;> simp
    · rw [hupper] at hisUpper hlower
      left
      rw [if_pos hisUpper, hlower]
      exact List.mem_cons_self

/-! ## Hints and patterns -/

/-- A hint is a word up to case if its folded letters are the word. -/
theorem isWord_iff (hint : List Char) (word : String) :
    isWord hint word = true ↔ hint.map foldedLetter = word.toList := by
  rw [isWord, beq_iff_eq]

/-- No digits are asked for by a letter of a word. -/
theorem backslash_not_mem_wordLetters : '\\' ∉ wordLetters := by decide

/-- Letters in front of an alternative match letters that fold to them. -/
theorem matchesAlternative_append_iff {letters : List Char} (hletters : letters ⊆ wordLetters)
    (rest hint : List Char) :
    MatchesAlternative (letters ++ rest) hint ↔ ∃ word tail, hint = word ++ tail ∧
      word.map foldedLetter = letters ∧ MatchesAlternative rest tail := by
  induction letters generalizing hint with
  | nil =>
    constructor
    · intro h
      exact ⟨[], hint, rfl, rfl, h⟩
    · rintro ⟨word, tail, rfl, hword, h⟩
      rwa [List.map_eq_nil_iff.1 hword]
  | cons w letters ih =>
    obtain ⟨hw, hrest⟩ := List.cons_subset.1 hletters
    constructor
    · intro h
      -- The constructors are told apart by the first letter, which is no backslash.
      generalize hpattern : w :: letters ++ rest = pattern at h
      cases h with
      | nil => cases hpattern
      | @letter w' c _ hint hw' hc h =>
        obtain ⟨rfl, rfl⟩ := List.cons.inj hpattern
        obtain ⟨word, tail, rfl, hword, htail⟩ := (ih hrest hint).1 h
        refine ⟨c :: word, tail, rfl, ?_, htail⟩
        rw [List.map_cons, hword, (mem_caseVariants_iff hw c).1 hc]
      | digits =>
        obtain ⟨rfl, -⟩ := List.cons.inj hpattern
        exact absurd hw backslash_not_mem_wordLetters
    · rintro ⟨word, tail, rfl, hword, htail⟩
      cases word with
      | nil => cases hword
      | cons c word =>
        obtain ⟨hc, hword⟩ := List.cons.inj hword
        exact .letter hw ((mem_caseVariants_iff hw c).2 hc)
          ((ih hrest _).2 ⟨word, tail, rfl, hword, htail⟩)

/-- A word matches what is the word up to case. -/
theorem matchesAlternative_word_iff {word : String} (hword : word.toList ⊆ wordLetters)
    (hint : List Char) : MatchesAlternative word.toList hint ↔ isWord hint word = true := by
  have h := matchesAlternative_append_iff hword [] hint
  rw [List.append_nil] at h
  rw [h, isWord_iff]
  constructor
  · rintro ⟨_, _, rfl, hfold, ⟨⟩⟩
    rwa [List.append_nil]
  · intro hfold
    exact ⟨hint, [], (List.append_nil hint).symm, hfold, .nil⟩

/-- Digits match digits. -/
theorem matchesAlternative_digits_iff (hint : List Char) :
    MatchesAlternative ['\\', 'd', '+'] hint ↔
      hint ≠ [] ∧ ∀ c ∈ hint, Text.isDecimalDigit c = true := by
  constructor
  · intro h
    cases h with
    | letter hw => exact absurd hw backslash_not_mem_wordLetters
    | digits hne hdigits h =>
      cases h
      rw [List.append_nil]
      exact ⟨hne, hdigits⟩
  · rintro ⟨hne, hdigits⟩
    have h := MatchesAlternative.digits hne hdigits .nil
    rwa [List.append_nil] at h

/-- The modes of a dialect are the alternatives of its pattern, and words. -/
theorem Dialect.modes_are_words : ∀ d : Dialect, ∀ s ∈ d.lockSyntax,
    Text.split '|' s.modePattern = s.modes ∧
      ∀ mode ∈ s.modes, mode.toList ⊆ wordLetters := by
  intro d s hs
  cases d <;> cases hs <;> decide +kernel

/-- **A hint is taken for a mode if it matches the pattern of the modes.** -/
theorem acceptsMode_iff {d : Dialect} {s : LockSyntax} (hs : d.lockSyntax = some s)
    (hint : String) : s.acceptsMode hint = true ↔ MatchesPattern s.modePattern hint := by
  obtain ⟨hsplit, hwords⟩ := d.modes_are_words s hs
  rw [LockSyntax.acceptsMode, List.any_eq_true, MatchesPattern, hsplit]
  refine exists_congr fun mode => and_congr_right fun hmode => ?_
  exact (matchesAlternative_word_iff (hwords mode hmode) hint.toList).symm

/-- What is taken for a wait instruction with a number of seconds. -/
theorem matches_seconds_iff (hint : List Char) : MatchesAlternative "WAIT \\d+".toList hint ↔
    ∃ word seconds, hint = word ++ seconds ∧ word.map foldedLetter = "WAIT ".toList ∧
      seconds ≠ [] ∧ ∀ c ∈ seconds, Text.isDecimalDigit c = true := by
  have hletters : "WAIT ".toList ⊆ wordLetters := by decide
  have hpattern : "WAIT \\d+".toList = "WAIT ".toList ++ ['\\', 'd', '+'] := by decide
  simp only [hpattern, matchesAlternative_append_iff hletters, matchesAlternative_digits_iff]

/-- A form of waiting takes the word or, if it has seconds, a number of them. -/
theorem WaitForm.accepts_iff_word_or_seconds (form : WaitForm) (hint : String) :
    form.accepts hint = true ↔ form ≠ .never ∧ isWord hint.toList "NOWAIT" = true ∨
      form = .noWaitOrSeconds ∧ MatchesAlternative "WAIT \\d+".toList hint.toList := by
  cases form with
  | never => simp [accepts]
  | noWait => simp [accepts]
  | noWaitOrSeconds =>
    have hseconds : (isWord (hint.toList.take 5) "WAIT " && !(hint.toList.drop 5).isEmpty
        && (hint.toList.drop 5).all Text.isDecimalDigit) = true ↔
        MatchesAlternative "WAIT \\d+".toList hint.toList := by
      rw [matches_seconds_iff, Bool.and_eq_true, Bool.and_eq_true, isWord_iff, Bool.not_eq_true',
        List.isEmpty_eq_false_iff, List.all_eq_true]
      constructor
      · rintro ⟨⟨hword, hne⟩, hdigits⟩
        exact ⟨_, _, (List.take_append_drop 5 _).symm, hword, hne, hdigits⟩
      · rintro ⟨word, seconds, hhint, hword, hne, hdigits⟩
        -- Folding keeps the number of letters, so the word is what the first five are.
        have hlength : word.length = 5 := by
          have h := congrArg List.length hword
          rwa [List.length_map] at h
        rw [hhint, List.take_left' hlength, List.drop_left' hlength]
        exact ⟨⟨hword, hne⟩, hdigits⟩
    rw [accepts, Bool.or_eq_true, hseconds]
    simp

/-- **A hint is taken for a wait instruction if it matches the pattern of these.** -/
theorem WaitForm.accepts_iff (form : WaitForm) (hint : String) :
    form.accepts hint = true ↔ ∃ pattern ∈ form.pattern, MatchesPattern pattern hint := by
  have hword : MatchesAlternative "NOWAIT".toList hint.toList ↔
      isWord hint.toList "NOWAIT" = true := matchesAlternative_word_iff (by decide) hint.toList
  rw [accepts_iff_word_or_seconds, ← hword]
  cases form with
  | never => simp [pattern]
  | noWait =>
    have hsplit : Text.split '|' "NOWAIT" = ["NOWAIT"] := by decide +kernel
    simp [pattern, MatchesPattern, hsplit]
  | noWaitOrSeconds =>
    have hsplit : Text.split '|' "NOWAIT|WAIT \\d+" = ["NOWAIT", "WAIT \\d+"] := by decide +kernel
    simp [pattern, MatchesPattern, hsplit]

/-! ## Lists of hints -/

namespace LockSyntax

/-- The wait instructions among some hints, as they are kept. -/
def waitHints (s : LockSyntax) (hints : List String) : List String :=
  (hints.map normalizedHint).filter s.wait.accepts

/-- The modes among some hints, as they are kept. -/
def modeHints (s : LockSyntax) (hints : List String) : List String :=
  (hints.map normalizedHint).filter fun hint => !s.wait.accepts hint && s.acceptsMode hint

/-- The modes that remain of those among the hints: distinct ones in order, or the first. -/
def keptModes (s : LockSyntax) (modes : List String) : List String :=
  if s.severalModes then modes.eraseDups else modes.take 1

/-- Nothing remains of nothing alone. -/
theorem keptModes_eq_nil_iff (s : LockSyntax) (modes : List String) :
    s.keptModes modes = [] ↔ modes = [] := by
  unfold keptModes
  split
  · constructor
    · intro h
      refine List.eq_nil_iff_forall_not_mem.2 fun mode hmode => ?_
      rw [← List.mem_eraseDups, h] at hmode
      cases hmode
    · rintro rfl
      rfl
  · simp

/-- One more mode remains if it is the first, or if the dialect combines modes and it is not there
yet. -/
theorem keptModes_concat (s : LockSyntax) (modes : List String) (mode : String) :
    s.keptModes (modes ++ [mode]) =
      if (s.severalModes || (s.keptModes modes).isEmpty) = true then
        if (s.keptModes modes).contains mode = true then s.keptModes modes
        else s.keptModes modes ++ [mode]
      else s.keptModes modes := by
  unfold keptModes
  cases s.severalModes with
  | true => simp [eraseDups_concat]
  | false => cases modes <;> simp

/-- A single mode remains. -/
@[simp] theorem keptModes_singleton (s : LockSyntax) (mode : String) :
    s.keptModes [mode] = [mode] := by
  unfold keptModes
  split
  · exact eraseDups_of_nodup (List.pairwise_singleton _ mode)
  · rfl

/-- The modes that remain are some of those that were there. -/
theorem mem_of_mem_keptModes {s : LockSyntax} {modes : List String} {mode : String}
    (h : mode ∈ s.keptModes modes) : mode ∈ modes := by
  unfold keptModes at h
  split at h
  · exact List.mem_eraseDups.1 h
  · exact List.mem_of_mem_take h

end LockSyntax

namespace LockHints

/-- What a list of hints gives before the default modes come in. -/
theorem foldl_add_eq (s : LockSyntax) (hints : List String) :
    hints.foldl (add s) ⟨[], none⟩ =
      ⟨s.keptModes (hints.filter fun hint => !s.wait.accepts hint && s.acceptsMode hint),
        (hints.filter s.wait.accepts).getLast?⟩ := by
  -- From the right end, as the loop goes: the last hint is a wait instruction, a mode or neither.
  induction hints using List.reverseRecOn with
  | nil => simp [LockSyntax.keptModes]
  | append_singleton hints hint ih =>
    rw [List.foldl_append, ih, List.foldl_cons, List.foldl_nil, List.filter_append,
      List.filter_append, add]
    by_cases hwait : s.wait.accepts hint = true
    · simp [hwait]
    rw [Bool.not_eq_true] at hwait
    by_cases hmode : s.acceptsMode hint = true
    · have hkept := s.keptModes_concat
        (hints.filter fun hint => !s.wait.accepts hint && s.acceptsMode hint) hint
      simp only [hwait, hmode, Bool.false_eq_true, if_false, Bool.true_and, List.filter_singleton,
        Bool.not_false, cond_true, cond_false, List.append_nil, hkept]
      split
      · split <;> rfl
      · rfl
    · simp [hwait, hmode]

/-- **What a list of hints gives**: the last wait instruction among them, and the modes among them
that remain, or the default modes if there are none. -/
theorem ofList_eq (s : LockSyntax) (hints : List String) : ofList s hints =
    ⟨if s.modeHints hints = [] then s.defaultModes else s.keptModes (s.modeHints hints),
      (s.waitHints hints).getLast?⟩ := by
  unfold ofList
  rw [foldl_add_eq]
  change (if (s.keptModes (s.modeHints hints)).isEmpty = true then _ else _) = _
  simp only [List.isEmpty_iff, s.keptModes_eq_nil_iff]
  split <;> rfl

/-- Every mode is a default mode or one of the hints, as it is kept. -/
theorem mem_modes {s : LockSyntax} {hints : List String} {mode : String}
    (h : mode ∈ (ofList s hints).modes) : mode ∈ s.defaultModes ∨
      ∃ hint ∈ hints, mode = normalizedHint hint ∧ s.acceptsMode mode = true := by
  rw [ofList_eq] at h
  split at h
  · exact Or.inl h
  · obtain ⟨hmem, haccepts⟩ := List.mem_filter.1 (LockSyntax.mem_of_mem_keptModes h)
    obtain ⟨hint, hhint, rfl⟩ := List.mem_map.1 hmem
    rw [Bool.and_eq_true] at haccepts
    exact Or.inr ⟨hint, hhint, rfl, haccepts.2⟩

/-- The wait instruction is one of the hints, as it is kept. -/
theorem mem_wait {s : LockSyntax} {hints : List String} {wait : String}
    (h : (ofList s hints).wait = some wait) :
    ∃ hint ∈ hints, wait = normalizedHint hint ∧ s.wait.accepts wait = true := by
  rw [ofList_eq] at h
  obtain ⟨hmem, haccepts⟩ := List.mem_filter.1 (List.mem_of_getLast? h)
  obtain ⟨hint, hhint, rfl⟩ := List.mem_map.1 hmem
  exact ⟨hint, hhint, rfl, haccepts⟩

end LockHints

/-! ## How near a hint is to the word that it is taken for -/

/-- The ASCII letter to which a letter outside ASCII is equal up to case. -/
def asciiLetter (c : Char) : Char :=
  if c = '\u212a' then 'K' else if c = '\u017f' then 'S' else c

/-- **Whether a text is a word but for Kelvin signs in place of `K` and long s in place of `S`.** -/
def IsSpelledLike (text word : String) : Prop := text.toList.map asciiLetter = word.toList

/-- Whether all characters of a text are ASCII characters. -/
def IsAsciiText (text : String) : Prop := ∀ c ∈ text.toList, c.toNat < 128

instance (text word : String) : Decidable (IsSpelledLike text word) :=
  inferInstanceAs (Decidable (_ = _))

instance (text : String) : Decidable (IsAsciiText text) :=
  List.decidableBAll _ text.toList

/-- **Whether a text is a wait instruction of the form**, with digits of some kind. -/
def WaitForm.Writes (form : WaitForm) (isDigit : Char → Bool) (text : String) : Prop :=
  form ≠ .never ∧ text = "NOWAIT" ∨
    form = .noWaitOrSeconds ∧ ∃ seconds : List Char, text.toList = "WAIT ".toList ++ seconds ∧
      seconds ≠ [] ∧ ∀ c ∈ seconds, isDigit c = true

/-- The characters of a hint are kept in upper case. -/
theorem toUpper_of_mem_normalizedHint {hint : String} {c : Char}
    (h : c ∈ (normalizedHint hint).toList) : c.toUpper = c := by
  have htwice : ∀ c : Char, c.toUpper.toUpper = c.toUpper :=
    forall_char_of_lower (by decide) fun c hupper => congrArg Char.toUpper hupper
  rw [normalizedHint, Text.upper, String.toList_map] at h
  obtain ⟨c', -, rfl⟩ := List.mem_map.1 h
  exact htwice c'

/-- What is kept of a hint folds to ASCII letters without a change of case. -/
theorem map_foldedLetter_of_toUpper {cs : List Char} (h : ∀ c ∈ cs, c.toUpper = c) :
    cs.map foldedLetter = cs.map asciiLetter := by
  refine List.map_congr_left fun c hc => ?_
  rw [foldedLetter, asciiLetter, h c hc]

/-- **A hint is a word up to case if it is kept as the word but for letters outside ASCII.** -/
theorem isWord_normalizedHint_iff (hint word : String) :
    isWord (normalizedHint hint).toList word = true ↔ IsSpelledLike (normalizedHint hint) word := by
  rw [isWord_iff, map_foldedLetter_of_toUpper fun c => toUpper_of_mem_normalizedHint]
  rfl

/-- All other letters are left alone. -/
theorem asciiLetter_of_ne {c : Char} (hkelvin : c ≠ '\u212a') (hlong : c ≠ '\u017f') :
    asciiLetter c = c := by
  rw [asciiLetter, if_neg hkelvin, if_neg hlong]

/-- ASCII letters are what they are equal to up to case. -/
theorem asciiLetter_of_ascii {c : Char} (h : c.toNat < 128) : asciiLetter c = c := by
  refine asciiLetter_of_ne ?_ ?_
  · rintro rfl
    exact absurd h (by decide)
  · rintro rfl
    exact absurd h (by decide)

/-- A text of ASCII characters is the word that it is spelled like. -/
theorem IsSpelledLike.eq_of_isAsciiText {text word : String} (h : IsSpelledLike text word)
    (hascii : IsAsciiText text) : text = word := by
  rw [IsSpelledLike, List.map_congr_left fun c hc => asciiLetter_of_ascii (hascii c hc),
    List.map_id'] at h
  exact String.toList_inj.1 h

/-- Letters are spelled in one way only where there is no `K` and no `S`. -/
theorem eq_of_map_asciiLetter {cs word : List Char} (h : cs.map asciiLetter = word)
    (hkelvin : 'K' ∉ word) (hlong : 'S' ∉ word) : cs = word := by
  induction cs generalizing word with
  | nil => exact h
  | cons c cs ih =>
    subst h
    rw [List.map_cons, List.mem_cons, not_or] at hkelvin hlong
    have hsame : asciiLetter c = c := by
      refine asciiLetter_of_ne ?_ ?_
      · rintro rfl
        exact hkelvin.1 rfl
      · rintro rfl
        exact hlong.1 rfl
    rw [List.map_cons, hsame, ← ih rfl hkelvin.2 hlong.2]

/-- Letters of words are ASCII letters. -/
theorem isAsciiText_of_wordLetters {word : String} (h : word.toList ⊆ wordLetters) :
    IsAsciiText word := by
  have hletters : ∀ w ∈ wordLetters, w.toNat < 128 := List.forall_mem_map.2 (by decide)
  exact fun c hc => hletters c (h hc)

/-- The default modes of a dialect consist of ASCII letters. -/
theorem Dialect.isAsciiText_defaultModes : ∀ d : Dialect, ∀ s ∈ d.lockSyntax,
    ∀ mode ∈ s.defaultModes, IsAsciiText mode := by
  intro d s hs
  cases d <;> cases hs <;> decide +kernel

/-- No mode of a dialect is a wait instruction. -/
theorem Dialect.modes_do_not_wait : ∀ d : Dialect, ∀ s ∈ d.lockSyntax, ∀ mode ∈ s.modes,
    mode.toList ≠ "NOWAIT".toList ∧ mode.toList.take 5 ≠ "WAIT ".toList := by
  intro d s hs
  cases d <;> cases hs <;> decide +kernel

/-- The ASCII characters among the digits of all scripts are `0` to `9`. -/
theorem isDigit_iff (c : Char) :
    c.isDigit = true ↔ Text.isDecimalDigit c = true ∧ c.toNat < 128 := by
  have hranges : ∀ range ∈ Text.decimalDigitRanges, range = (0x30, 0x39) ∨ 128 ≤ range.1 := by
    decide
  have hdigit : c.isDigit = true ↔ 0x30 ≤ c.toNat ∧ c.toNat ≤ 0x39 := by
    simp [Char.isDigit, UInt32.le_iff_toNat_le]
  rw [hdigit, Text.isDecimalDigit, Text.CodeRanges.contains_iff]
  constructor
  · intro h
    exact ⟨⟨(0x30, 0x39), by decide, h⟩, by omega⟩
  · rintro ⟨⟨range, hrange, hcovers⟩, hascii⟩
    rcases hranges range hrange with rfl | hother
    · exact hcovers
    · omega

namespace WaitForm

/-- **A hint is a wait instruction if it is kept as one**, with digits of all scripts. -/
theorem accepts_normalizedHint_iff (form : WaitForm) (hint : String) :
    form.accepts (normalizedHint hint) = true ↔
      form.Writes Text.isDecimalDigit (normalizedHint hint) := by
  have hupper : ∀ c ∈ (normalizedHint hint).toList, c.toUpper = c :=
    fun c => toUpper_of_mem_normalizedHint
  -- No letter of these words is a `K` or an `S`, so there is one way to spell each.
  have hnoWait : isWord (normalizedHint hint).toList "NOWAIT" = true ↔
      normalizedHint hint = "NOWAIT" := by
    rw [isWord_normalizedHint_iff]
    constructor
    · intro h
      exact String.toList_inj.1 (eq_of_map_asciiLetter h (by decide) (by decide))
    · intro h
      rw [h]
      decide
  have hseconds : MatchesAlternative "WAIT \\d+".toList (normalizedHint hint).toList ↔
      ∃ seconds : List Char, (normalizedHint hint).toList = "WAIT ".toList ++ seconds ∧
        seconds ≠ [] ∧ ∀ c ∈ seconds, Text.isDecimalDigit c = true := by
    rw [matches_seconds_iff]
    constructor
    · rintro ⟨word, seconds, hhint, hword, hrest⟩
      rw [map_foldedLetter_of_toUpper fun c hc => hupper c (by simp [hhint, hc])] at hword
      rw [eq_of_map_asciiLetter hword (by decide) (by decide)] at hhint
      exact ⟨seconds, hhint, hrest⟩
    · rintro ⟨seconds, hhint, hrest⟩
      exact ⟨_, seconds, hhint, by decide, hrest⟩
  rw [accepts_iff_word_or_seconds, hnoWait, hseconds, Writes]

/-- The digits of a wait instruction are `0` to `9` if it is an ASCII text. -/
theorem Writes.isDigit_iff {form : WaitForm} {text : String}
    (h : form.Writes Text.isDecimalDigit text) :
    form.Writes Char.isDigit text ↔ IsAsciiText text := by
  constructor
  · rintro (⟨-, rfl⟩ | ⟨-, seconds, htext, -, hdigits⟩)
    · decide
    · have hword : IsAsciiText "WAIT " := by decide
      intro c hc
      rw [htext] at hc
      rcases List.mem_append.1 hc with hletter | hdigit
      · exact hword c hletter
      · exact ((SqlBuilder.isDigit_iff c).1 (hdigits c hdigit)).2
  · intro hascii
    rcases h with hword | ⟨hform, seconds, htext, hne, hdigits⟩
    · exact Or.inl hword
    · refine Or.inr ⟨hform, seconds, htext, hne, fun c hc => ?_⟩
      exact (SqlBuilder.isDigit_iff c).2 ⟨hdigits c hc, hascii c (by simp [htext, hc])⟩

end WaitForm

/-! ## Locks that can be built -/

/-- **How a lock is written**, down to the spelling of its hints. -/
structure TableLock.IsSpelled (lock : TableLock) (d : Dialect) (s : LockSyntax) : Prop where
  /-- The clause consists of the quoted table, the modes and the wait instruction. -/
  clause_eq : lock.clause = d.lockClause (d.identifier lock.table) lock.modes lock.wait
  /-- A mode is a default mode or spelled like one that the dialect lists. -/
  of_mode : ∀ mode ∈ lock.modes, mode ∈ s.defaultModes ∨ ∃ word ∈ s.modes, IsSpelledLike mode word
  /-- It is one of these, character for character, iff it is an ASCII text. -/
  mode_mem_iff : ∀ mode ∈ lock.modes, mode ∈ s.modes ++ s.defaultModes ↔ IsAsciiText mode
  /-- A wait instruction is one of the dialect's, with digits of all scripts. -/
  of_wait : ∀ wait, lock.wait = some wait → s.wait.Writes Text.isDecimalDigit wait
  /-- Its digits are `0` to `9` iff it is an ASCII text. -/
  wait_iff : ∀ wait, lock.wait = some wait → (s.wait.Writes Char.isDigit wait ↔ IsAsciiText wait)

/-- A hint that is a mode is spelled like one. -/
theorem acceptsMode_normalizedHint_iff (s : LockSyntax) (hint : String) :
    s.acceptsMode (normalizedHint hint) = true ↔
      ∃ word ∈ s.modes, IsSpelledLike (normalizedHint hint) word := by
  simp only [LockSyntax.acceptsMode, List.any_eq_true, isWord_normalizedHint_iff]

/-- No hint is a mode and a wait instruction. -/
theorem accepts_eq_false_of_isSpelledLike {d : Dialect} {s : LockSyntax}
    (hs : d.lockSyntax = some s) {hint word : String} (hword : word ∈ s.modes)
    (h : IsSpelledLike (normalizedHint hint) word) :
    s.wait.accepts (normalizedHint hint) = false := by
  obtain ⟨hnoWait, hseconds⟩ := d.modes_do_not_wait s hs word hword
  rw [Bool.eq_false_iff, Ne, WaitForm.accepts_normalizedHint_iff, IsSpelledLike] at *
  rintro (⟨-, heq⟩ | ⟨-, seconds, heq, -⟩)
  · rw [heq] at h
    exact hnoWait h.symm
  · rw [heq, List.map_append] at h
    exact hseconds (by rw [← h]; rfl)

namespace LockBuilder

variable {b : LockBuilder}

/-- What some hints give is spelled as the dialect lists it. -/
theorem isSpelled_lockOf (hs : b.dialect.lockSyntax = some b.syntaxRules) (table : String)
    (hints : List String) : (b.lockOf table hints).IsSpelled b.dialect b.syntaxRules := by
  obtain ⟨-, hwords⟩ := b.dialect.modes_are_words _ hs
  have hmode : ∀ mode ∈ (b.lockOf table hints).modes, mode ∈ b.syntaxRules.defaultModes ∨
      ∃ word ∈ b.syntaxRules.modes, IsSpelledLike mode word := by
    intro mode hmem
    rcases LockHints.mem_modes hmem with hdefault | ⟨hint, -, rfl, haccepts⟩
    · exact Or.inl hdefault
    · exact Or.inr ((acceptsMode_normalizedHint_iff _ hint).1 haccepts)
  have hwait : ∀ wait, (b.lockOf table hints).wait = some wait →
      b.syntaxRules.wait.Writes Text.isDecimalDigit wait := by
    intro wait hmem
    obtain ⟨hint, -, rfl, haccepts⟩ := LockHints.mem_wait hmem
    exact (WaitForm.accepts_normalizedHint_iff _ hint).1 haccepts
  refine ⟨rfl, hmode, fun mode hmem => ?_, hwait, fun wait hmem => (hwait wait hmem).isDigit_iff⟩
  constructor
  · intro hlisted
    rcases List.mem_append.1 hlisted with hlist | hdefault
    · exact isAsciiText_of_wordLetters (hwords mode hlist)
    · exact b.dialect.isAsciiText_defaultModes _ hs mode hdefault
  · intro hascii
    rcases hmode mode hmem with hdefault | ⟨word, hword, hlike⟩
    · exact List.mem_append_right _ hdefault
    · rw [hlike.eq_of_isAsciiText hascii]
      exact List.mem_append_left _ hword

/-- A table that was just added has the lock that its hints give. -/
theorem lockOf_mem_add (b : LockBuilder) (table : String) (hints : List String) :
    b.lockOf table hints ∈ (b.add table hints).lockList :=
  List.mem_map_of_mem (f := Prod.snd) (Entries.mem_of_find (Entries.find_put_self ..))

/-- **Every lock is spelled as the dialect lists it, but for letters and digits outside ASCII**, and
every such spelling can be had. -/
theorem Built.lock_spelled_like (hb : b.Built) :
    b.dialect.lockSyntax = some b.syntaxRules ∧
    (∀ lock ∈ b.lockList, lock.IsSpelled b.dialect b.syntaxRules) ∧
    b.commands = b.dialect.lockStatements (b.lockList.map fun lock =>
      b.dialect.lockClause (b.dialect.identifier lock.table) lock.modes lock.wait) ∧
    ∀ table hint, ∃ lock ∈ (b.add table [hint]).lockList, lock.table = table ∧
      ((∃ word ∈ b.syntaxRules.modes, IsSpelledLike (normalizedHint hint) word) →
        lock.modes = [normalizedHint hint]) ∧
      (b.syntaxRules.wait.Writes Text.isDecimalDigit (normalizedHint hint) →
        lock.wait = some (normalizedHint hint)) := by
  have hs := hb.lockSyntax_eq
  have hspelled : ∀ lock ∈ b.lockList, lock.IsSpelled b.dialect b.syntaxRules := by
    intro lock hlock
    obtain ⟨table, hints, rfl⟩ := hb.exists_lockOf lock hlock
    exact isSpelled_lockOf hs table hints
  refine ⟨hs, hspelled, ?_, fun table hint => ?_⟩
  · rw [commands, List.map_congr_left fun lock hlock => (hspelled lock hlock).clause_eq]
  · refine ⟨_, b.lockOf_mem_add table [hint], rfl, ?_, ?_⟩
    · rintro ⟨word, hword, hlike⟩
      have hwait := accepts_eq_false_of_isSpelledLike hs hword hlike
      have hmode := (acceptsMode_normalizedHint_iff _ hint).2 ⟨word, hword, hlike⟩
      simp [lockOf, LockHints.ofList_eq, LockSyntax.modeHints, hwait, hmode]
    · intro hwrites
      have hwait := (WaitForm.accepts_normalizedHint_iff _ hint).2 hwrites
      simp [lockOf, LockHints.ofList_eq, LockSyntax.waitHints, hwait]

/-- Locks in a dialect that lists modes and numbers of seconds. -/
def oracleLocks : LockBuilder :=
  ⟨.oracle, ⟨["ROW SHARE", "ROW EXCLUSIVE", "SHARE UPDATE", "SHARE", "SHARE ROW EXCLUSIVE",
    "EXCLUSIVE"], .noWaitOrSeconds, ["EXCLUSIVE"], false⟩, []⟩

/-- A hint in lower case with further blanks is the mode that the dialect lists, and a number of
seconds in Arabic digits is kept in these. -/
theorem lock_spelled_like_of_shared :
    (∃ lock ∈ (oracleLocks.add "t" [" row\tshare "]).lockList,
      lock.modes = ["ROW SHARE"] ∧ IsAsciiText "ROW SHARE") ∧
    ∃ lock ∈ (oracleLocks.add "t" ["wait \u0663"]).lockList, lock.wait = some "WAIT \u0663" ∧
      ¬WaitForm.noWaitOrSeconds.Writes Char.isDigit "WAIT \u0663" := by
  have hbuilt : oracleLocks.Built := .new (d := .oracle) rfl
  have hmode : normalizedHint " row\tshare " = "ROW SHARE" := by decide +kernel
  have hwait : normalizedHint "wait \u0663" = "WAIT \u0663" := by decide +kernel
  obtain ⟨-, -, -, hadd⟩ := Built.lock_spelled_like hbuilt
  obtain ⟨lock, hlock, -, hmodes, -⟩ := hadd "t" " row\tshare "
  obtain ⟨later, hlater, -, -, hwaits⟩ := hadd "t" "wait \u0663"
  rw [hmode] at hmodes
  rw [hwait] at hwaits
  have hdigit : ∀ c ∈ ['\u0663'], Text.isDecimalDigit c = true :=
    List.forall_mem_singleton.2 (by decide +kernel)
  have hseconds : later.wait = some "WAIT \u0663" :=
    hwaits (Or.inr ⟨rfl, ['\u0663'], by decide, by decide, hdigit⟩)
  obtain ⟨-, hspelled, -, -⟩ := Built.lock_spelled_like (hbuilt.add "t" ["wait \u0663"])
  refine ⟨⟨lock, hlock, hmodes ⟨"ROW SHARE", by decide, by decide⟩, by decide⟩,
    later, hlater, hseconds, ?_⟩
  intro hwrites
  exact absurd (((hspelled later hlater).wait_iff _ hseconds).1 hwrites) (by decide)

/-- **A mode and a wait instruction that no dialect lists**: the long s is taken for an `S` and
stays a long s, and a digit outside ASCII is taken for a digit. -/
theorem lock_spelled_otherwise :
    (∃ b, LockBuilder.new .standard = .ok b ∧
      (b.add "t" ["\u017fhare"]).lockList =
        [⟨"t", ["\u017fHARE"], none, "LOCK TABLE \"t\" IN \u017fHARE MODE"⟩] ∧
      "\u017fHARE" ∉ b.syntaxRules.modes ++ b.syntaxRules.defaultModes) ∧
    ∃ b, LockBuilder.new .oracle = .ok b ∧
      (b.add "t" ["wait \u0663"]).commands =
        ["LOCK TABLE \"t\" IN EXCLUSIVE MODE WAIT \u0663"] ∧
      Char.isDigit '\u0663' = false := by
  exact ⟨⟨_, rfl, by decide +kernel, by decide +kernel⟩, _, rfl, by decide +kernel, by decide⟩

end LockBuilder

end SqlBuilder
