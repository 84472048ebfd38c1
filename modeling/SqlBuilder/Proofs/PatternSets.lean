import SqlBuilder.Proofs.PatternParts

/-! # Reading the sets of a pattern up to a parenthesis

A set in brackets is read locally (`local_readSet`), also where it holds a parenthesis: what is cut
stands behind the closing bracket. -/

namespace SqlBuilder.Pattern

open Text (CodeRanges)

variable {flags : Flags}

/-! ## What a set is made of -/

/-- An operation is read whatever follows it. -/
theorem operation_append {cs t : List Char} {operation : SetOperation}
    (h : SetOperation.read? cs = some (operation, t)) :
    ∃ used, cs = used ++ t ∧ ∀ t', SetOperation.read? (used ++ t') = some (operation, t') := by
  unfold SetOperation.read? at h
  split at h
  · obtain ⟨rfl, rfl⟩ := Prod.mk.inj (Option.some.inj h)
    exact ⟨['&', '&'], rfl, fun _ => rfl⟩
  · obtain ⟨rfl, rfl⟩ := Prod.mk.inj (Option.some.inj h)
    exact ⟨['-', '-'], rfl, fun _ => rfl⟩
  · obtain ⟨rfl, rfl⟩ := Prod.mk.inj (Option.some.inj h)
    exact ⟨['~', '~'], rfl, fun _ => rfl⟩
  · cases h

/-- An operation is read locally. -/
theorem local_operation : Local SetOperation.read? where
  upTo h := by
    obtain ⟨used, hcs, hall⟩ := operation_append h
    exact ⟨used, hcs, fun t' _ => hall t'⟩

/-- What is left behind an operation is shorter. -/
theorem length_lt_of_operation {cs t : List Char} {operation : SetOperation}
    (h : SetOperation.read? cs = some (operation, t)) : t.length < cs.length := by
  unfold SetOperation.read? at h
  split at h
  case h_4 => cases h
  all_goals
    obtain ⟨rfl, rfl⟩ := Prod.mk.inj (Option.some.inj h)
    simp only [List.length_cons]
    omega

/-- Where there is no operation, there is none in a text that is cut. -/
theorem operation_cut {cs t' : List Char} (h : SetOperation.read? cs = none) (hcut : CutAt cs t') :
    SetOperation.read? t' = none := by
  refine hcut.eq_none (fun {cs more} hfound => ?_) h
  obtain ⟨found, hread⟩ := Option.isSome_iff_exists.1 hfound
  obtain ⟨used, rfl, hall⟩ := operation_append hread
  rw [List.append_assoc, hall, Option.isSome_some]

/-- Characters of a class at the start are the same whatever follows the first other one. -/
theorem takeWhile_dropWhile_append {p : Char → Bool} {cs t : List Char} {c : Char}
    (h : cs.dropWhile p = c :: t) : ∃ used, cs = used ++ c :: t ∧
      ∀ t', (used ++ c :: t').dropWhile p = c :: t' ∧
        (used ++ c :: t').takeWhile p = cs.takeWhile p := by
  induction cs with
  | nil => cases h
  | cons d rest ih =>
    cases hd : p d with
    | true =>
      rw [List.dropWhile_cons_of_pos hd] at h
      obtain ⟨used, hrest, hall⟩ := ih h
      refine ⟨d :: used, congrArg (d :: ·) hrest, fun t' => ?_⟩
      rw [List.cons_append, List.dropWhile_cons_of_pos hd, List.takeWhile_cons_of_pos hd,
        List.takeWhile_cons_of_pos hd, (hall t').2]
      exact ⟨(hall t').1, rfl⟩
    | false =>
      have hd' : ¬p d = true := by simp [hd]
      rw [List.dropWhile_cons_of_neg hd'] at h
      obtain ⟨rfl, rfl⟩ := List.cons.inj h
      refine ⟨[], rfl, fun t' => ?_⟩
      rw [List.nil_append, List.dropWhile_cons_of_neg hd', List.takeWhile_cons_of_neg hd',
        List.takeWhile_cons_of_neg hd']
      exact ⟨rfl, rfl⟩

/-- Whether `^` stands at the start, and what stands behind it. -/
def caret : List Char → Bool × List Char
  | '^' :: rest => (true, rest)
  | rest => (false, rest)

/-- Whether `^` stands at the start is the same whatever follows the next character. -/
theorem caret_append {cs t : List Char} {negated : Bool} (h : caret cs = (negated, t)) :
    ∃ used, cs = used ++ t ∧ ∀ t', t'.head? = t.head? → caret (used ++ t') = (negated, t') := by
  unfold caret at h
  split at h
  · obtain ⟨rfl, rfl⟩ := Prod.mk.inj h
    exact ⟨['^'], rfl, fun _ _ => rfl⟩
  · next hcaret =>
    obtain ⟨rfl, rfl⟩ := Prod.mk.inj h
    refine ⟨[], rfl, fun t' ht' => ?_⟩
    rw [List.nil_append, caret]
    rintro rest rfl
    obtain ⟨more, hmore⟩ := List.head?_eq_some_iff.1 ht'.symm
    exact hcaret more hmore

/-- A named class behind its colon. -/
theorem readNamedClass_cons (rest : List Char) :
    readNamedClass (':' :: rest) = match (caret rest).2.dropWhile (· != ':') with
      | ':' :: ']' :: after =>
        (namedClass? (String.ofList ((caret rest).2.takeWhile (· != ':')))).map fun set =>
          ((caret rest).1, set, after)
      | _ => none := rfl

/-- A named class is read whatever follows it. -/
theorem namedClass_append {cs t : List Char} {negated : Bool} {set : CodeRanges}
    (h : readNamedClass cs = some (negated, set, t)) :
    ∃ used, cs = used ++ t ∧ ∀ t', readNamedClass (used ++ t') = some (negated, set, t') := by
  cases cs with
  | nil => cases h
  | cons c rest =>
    by_cases hc : c = ':'
    · subst hc
      rw [readNamedClass_cons] at h
      rcases hcaret : caret rest with ⟨negated', name⟩
      rw [hcaret] at h
      dsimp only at h
      split at h
      · next after hname =>
        obtain ⟨set', hset, heq⟩ := Option.map_eq_some_iff.1 h
        obtain ⟨rfl, rfl, rfl⟩ := heq
        obtain ⟨used, rfl, hname⟩ := takeWhile_dropWhile_append hname
        obtain ⟨front, rfl, hfront⟩ := caret_append hcaret
        refine ⟨':' :: (front ++ (used ++ [':', ']'])), by simp, fun t' => ?_⟩
        obtain ⟨hdrop, htake⟩ := hname (']' :: t')
        have hhead : caret (front ++ (used ++ ':' :: ']' :: t'))
            = (negated, used ++ ':' :: ']' :: t') := by
          refine hfront _ ?_
          cases used <;> rfl
        have happend : ':' :: (front ++ (used ++ [':', ']'])) ++ t'
            = ':' :: (front ++ (used ++ ':' :: ']' :: t')) := by simp
        rw [happend, readNamedClass_cons, hhead]
        simp only [hdrop, htake, hset, Option.map_some]
      · cases h
    · simp [readNamedClass, hc] at h

/-- Where there is no named class, there is none in a text that is cut. -/
theorem namedClass_cut {cs t' : List Char} (h : readNamedClass cs = none) (hcut : CutAt cs t') :
    readNamedClass t' = none := by
  refine hcut.eq_none (fun {cs more} hfound => ?_) h
  obtain ⟨found, hread⟩ := Option.isSome_iff_exists.1 hfound
  obtain ⟨used, rfl, hall⟩ := namedClass_append hread
  rw [List.append_assoc, hall, Option.isSome_some]

/-- A named class is read up to its end. -/
theorem upTo_readNamedClass {cs t : List Char} {negated : Bool} {set : CodeRanges}
    (h : readNamedClass cs = some (negated, set, t)) :
    UpTo cs t fun cs t => readNamedClass cs = some (negated, set, t) := by
  obtain ⟨used, hcs, hall⟩ := namedClass_append h
  exact ⟨used, hcs, fun t' _ => hall t'⟩

/-! ## Ranges -/

/-- Blanks are dropped up to a parenthesis at most. -/
theorem dropWhile_isBlank_append (t' z : List Char) :
    (t' ++ ')' :: z).dropWhile Text.isBlank = t'.dropWhile Text.isBlank ++ ')' :: z := by
  have hparen : ¬Text.isBlank ')' = true := by decide
  induction t' with
  | nil => exact List.dropWhile_cons_of_neg hparen
  | cons c rest ih =>
    rw [List.cons_append]
    by_cases hc : Text.isBlank c = true
    · rw [List.dropWhile_cons_of_pos hc, List.dropWhile_cons_of_pos hc, ih]
    · rw [List.dropWhile_cons_of_neg hc, List.dropWhile_cons_of_neg hc, List.cons_append]

/-- The character behind a minus is the same in a text that is cut, unless it is the parenthesis. -/
theorem afterMinus_cut {cs t' : List Char} (hcut : CutAt cs t') {c : Char} (hc : c ≠ ')') :
    afterMinus flags t' = some c ↔ afterMinus flags cs = some c := by
  obtain ⟨z, rfl⟩ := hcut
  have hhead : ∀ l : List Char, l.head? = some c ↔ (l ++ ')' :: z).head? = some c := by
    intro l
    cases l with
    | nil => simp [hc.symm]
    | cons d rest => rfl
  unfold afterMinus
  split
  · rw [dropWhile_isBlank_append]
    split
    · next rest hsharp =>
      rw [hsharp, List.cons_append]
      change _ ↔ ((rest ++ ')' :: z).dropWhile Text.isBlank).head? = some c
      rw [dropWhile_isBlank_append]
      exact hhead _
    · next hsharp =>
      rw [hhead]
      split
      · next rest hcons =>
        -- The parenthesis is no sharp sign, so that the sign stands before it.
        cases hblanks : t'.dropWhile Text.isBlank with
        | nil =>
          rw [hblanks] at hcons
          cases hcons
        | cons d more =>
          rw [hblanks] at hcons
          obtain ⟨rfl, -⟩ := List.cons.inj hcons
          exact absurd hblanks (hsharp more)
      · rfl
  · exact hhead t'

/-- A word boundary is no item of a set. -/
theorem not_beforeBrace_of_setOfItem {x : Atom} {set : CodeRanges} {t : List Char}
    (h : setOfItem flags x = some set) : ¬BeforeBrace flags x t := by
  rintro ⟨rfl, -⟩
  cases h

/-- A word boundary is no end of a range. -/
theorem not_beforeBrace_of_setOfRange {x y : Atom} {set : CodeRanges}
    (h : setOfRange flags x y = some set) (t : List Char) :
    ¬BeforeBrace flags x t ∧ ¬BeforeBrace flags y t := by
  constructor
  · rintro ⟨rfl, -⟩
    cases h
  · rintro ⟨rfl, -⟩
    cases x <;> cases h

/-- An item or a range is read locally. -/
theorem local_readRange (flags : Flags) : Local (readRange flags) := by
  refine ⟨fun {cs set t} h => ?_⟩
  obtain ⟨⟨first, rest⟩, hfirst, h⟩ := Option.bind_eq_some_iff.1 h
  have hskip := upTo_skip flags rest
  have hitem := upTo_readItem hfirst
  dsimp only at h
  split at h
  · next after hrest =>
    rw [hrest] at hskip
    split at h
    · next hminus =>
      obtain ⟨set', hset, h⟩ := Option.bind_eq_some_iff.1 h
      obtain ⟨rfl, rfl⟩ := Prod.mk.inj (Option.some.inj h)
      -- The minus is left, and what stands behind it decides once more.
      have hkeeps : ∀ t', CutAt ('-' :: after) t' → ∃ after', t' = '-' :: after' ∧
          (afterMinus flags after' = some ']' ∨ afterMinus flags after' = some '-') := by
        intro t' ht'
        rcases ht'.cons_cases with ⟨-, hparen⟩ | ⟨after', rfl, hafter⟩
        · cases hparen
        · refine ⟨after', rfl, ?_⟩
          rwa [afterMinus_cut hafter (by decide), afterMinus_cut hafter (by decide)]
      refine (hitem.trans (hskip.trans (UpTo.test hkeeps))).mono ?_
      rintro cs t ⟨rest, hfirst | hfirst, _, hskip, rfl, after, rfl, hminus⟩
      · simp only [readRange, hfirst, Option.bind_eq_bind, Option.bind_some, hskip, if_pos hminus,
          hset]
        rfl
      · exact absurd hfirst (not_beforeBrace_of_setOfItem hset)
    · next hminus =>
      obtain ⟨⟨last, rest'⟩, hlast, h⟩ := Option.bind_eq_some_iff.1 h
      obtain ⟨set', hset, h⟩ := Option.bind_eq_some_iff.1 h
      obtain ⟨rfl, rfl⟩ := Prod.mk.inj (Option.some.inj h)
      have hkeeps : ∀ t', CutAt after t' →
          ¬(afterMinus flags t' = some ']' ∨ afterMinus flags t' = some '-') := by
        intro t' ht'
        rwa [afterMinus_cut ht' (by decide), afterMinus_cut ht' (by decide)]
      refine (hitem.trans (hskip.trans ((UpTo.cons '-' after).trans ((UpTo.test hkeeps).trans
        ((upTo_skip flags after).trans (upTo_readItem hlast)))))).mono ?_
      rintro cs t ⟨rest, hfirst | hfirst, _, hskip, _, rfl, _, ⟨rfl, hminus⟩, _, rfl, hlast | hlast⟩
      · simp only [readRange, hfirst, Option.bind_eq_bind, Option.bind_some, hskip, if_neg hminus,
          hlast, hset]
        rfl
      · exact absurd hlast (not_beforeBrace_of_setOfRange hset _).2
      · exact absurd hfirst (not_beforeBrace_of_setOfRange hset _).1
      · exact absurd hfirst (not_beforeBrace_of_setOfRange hset _).1
  · next hminus =>
    obtain ⟨set', hset, h⟩ := Option.bind_eq_some_iff.1 h
    obtain ⟨rfl, rfl⟩ := Prod.mk.inj (Option.some.inj h)
    refine (hitem.trans (hskip.trans (UpTo.other hminus))).mono ?_
    rintro cs t ⟨rest, hfirst | hfirst, _, hskip, rfl, hminus⟩
    · simp only [readRange, hfirst, Option.bind_eq_bind, Option.bind_some, hskip, hset]
      rfl
    · exact absurd hfirst (not_beforeBrace_of_setOfItem hset)

/-- What is left behind an item is shorter. -/
theorem length_lt_of_readItem {cs t : List Char} {x : Atom} (h : readItem flags cs = some (x, t)) :
    t.length < cs.length := by
  unfold readItem at h
  split at h
  · cases h
  · next rest => exact Nat.lt_succ_of_le (upTo_readEscape h).length_le
  · next c rest hbackslash =>
    obtain ⟨rfl, rfl⟩ := Prod.mk.inj (Option.some.inj h)
    exact Nat.lt_succ_self _

/-- What is left behind an item or a range is shorter. -/
theorem length_lt_of_readRange {cs t : List Char} {set : CodeRanges}
    (h : readRange flags cs = some (set, t)) : t.length < cs.length := by
  obtain ⟨⟨first, rest⟩, hfirst, h⟩ := Option.bind_eq_some_iff.1 h
  have hitem := length_lt_of_readItem hfirst
  have hskip := (upTo_skip flags rest).length_le
  dsimp only at h
  split at h
  · next after hrest =>
    rw [hrest] at hskip
    split at h
    · next hminus =>
      obtain ⟨set', hset, h⟩ := Option.bind_eq_some_iff.1 h
      obtain ⟨rfl, rfl⟩ := Prod.mk.inj (Option.some.inj h)
      omega
    · next hminus =>
      obtain ⟨⟨last, rest'⟩, hlast, h⟩ := Option.bind_eq_some_iff.1 h
      obtain ⟨set', hset, h⟩ := Option.bind_eq_some_iff.1 h
      obtain ⟨rfl, rfl⟩ := Prod.mk.inj (Option.some.inj h)
      have hlast := length_lt_of_readItem hlast
      have hafter := (upTo_skip flags after).length_le
      rw [List.length_cons] at hskip
      dsimp only at *
      omega
  · obtain ⟨set', hset, h⟩ := Option.bind_eq_some_iff.1 h
    obtain ⟨rfl, rfl⟩ := Prod.mk.inj (Option.some.inj h)
    omega

/-! ## Brackets -/

/-- Whether `^` stands at the start is known up to what stands behind it. -/
theorem upTo_caret (cs : List Char) :
    UpTo cs (caret cs).2 fun cs' t => caret cs' = ((caret cs).1, t) := by
  unfold caret
  split
  · next rest =>
    refine (UpTo.cons '^' rest).mono ?_
    rintro _ t rfl
    rfl
  · next hcaret =>
    refine (UpTo.other hcaret).mono ?_
    rintro cs t ⟨rfl, hcaret⟩
    split
    · exact absurd rfl (hcaret _)
    · rfl

/-- What stands for itself at the start of a set, where `minuses` have been read. -/
def firstListed (minuses cs : List Char) : Listing × List Char :=
  let start : Listing := minuses.foldl (fun listing c => listing.addSet (.single c)) {}
  match minuses, cs with
  | [], ']' :: rest => (start.addSet (.single ']'), rest)
  | _, rest => (start, rest)

/-- What stands for itself at the start is known up to what stands behind it. -/
theorem upTo_firstListed (minuses cs : List Char) :
    UpTo cs (firstListed minuses cs).2 fun cs' t =>
      firstListed minuses cs' = ((firstListed minuses cs).1, t) := by
  unfold firstListed
  dsimp only
  split
  · next rest =>
    refine (UpTo.cons ']' rest).mono ?_
    rintro _ t rfl
    rfl
  · next hbracket =>
    cases minuses with
    | nil =>
      refine (UpTo.other fun rest => hbracket rest rfl).mono ?_
      rintro cs t ⟨rfl, hbracket⟩
      split
      · exact absurd rfl (hbracket _)
      · rfl
    | cons c rest => exact .refl fun t' _ => rfl

/-- A bracket is read in parts: `^`, what stands for itself at the start, and what is listed. -/
theorem readBracket_eq (read : Listing → List Char → Option (Written CodeRanges × List Char))
    (cs : List Char) :
    readBracket flags read cs =
      let front := caret (flags.skip cs)
      let dashes := flags.gather (· == '-') front.2.length false front.2
      let start := firstListed dashes.1 dashes.2
      (read start.1 start.2).bind fun inside =>
        (flags.foldAndNegate front.1 inside.1.value).bind fun set =>
          some (⟨set, inside.1.depth + 1⟩, inside.2) := rfl

/-- What is left when something is skipped is not longer. -/
theorem length_le_of_skip {cs t : List Char} (h : flags.skip cs = t) : t.length ≤ cs.length :=
  h ▸ (upTo_skip flags cs).length_le

/-- **A bracket is read locally** if what is listed in it is. -/
theorem upTo_readBracket
    (read : Nat → Listing → List Char → Option (Written CodeRanges × List Char)) {n : Nat}
    (hread : ∀ {listing cs w t}, read n listing cs = some (w, t) →
      UpTo cs t fun cs t => ∀ m, cs.length < m → read m listing cs = some (w, t))
    {cs t : List Char} {w : Written CodeRanges}
    (h : readBracket flags (read n) cs = some (w, t)) :
    UpTo cs t fun cs t => ∀ m, cs.length < m → readBracket flags (read m) cs = some (w, t) := by
  rw [readBracket_eq] at h
  dsimp only at h
  obtain ⟨⟨inside, rest⟩, hinside, h⟩ := Option.bind_eq_some_iff.1 h
  obtain ⟨set, hset, h⟩ := Option.bind_eq_some_iff.1 h
  obtain ⟨rfl, rfl⟩ := Prod.mk.inj (Option.some.inj h)
  refine ((upTo_skip flags cs).trans ((upTo_caret _).lengths.trans
    ((upTo_gather_all rfl).lengths.trans
      ((upTo_firstListed _ _).lengths.trans (hread hinside))))).mono ?_
  rintro cs t ⟨_, hskip, _, ⟨hcaret, hlength₁⟩, _, ⟨hgather, hlength₂⟩, _, ⟨hstart, hlength₃⟩,
    hinside⟩ m hm
  have hlength := length_le_of_skip hskip
  simp only [readBracket_eq, hskip, hcaret, hgather, hstart, hinside m (by omega), hset,
    Option.bind_some]

/-- Any character but a bracket starts an operation, an item or a range. -/
theorem readListed_other {n room : Nat} {waiting : Option (SetOperation × Written CodeRanges)}
    {listing : Listing} {cs rest : List Char} {c : Char} (hc : c ≠ ']' ∧ c ≠ '[')
    (hcs : flags.skip cs = c :: rest) :
    readListed flags (n + 1) room waiting listing cs =
      match SetOperation.read? (c :: rest) with
      | some (operation, rest) =>
        readListed flags n room (some (operation, combine flags waiting listing)) {} rest
      | none => (readRange flags (c :: rest)).bind fun found =>
        readListed flags n room waiting (listing.addSet found.1) found.2 := by
  rw [readListed, hcs]
  split
  · next hnil => cases hnil
  · next hclosing => exact absurd (List.cons.inj hclosing).1 hc.1
  · next hopening => exact absurd (List.cons.inj hopening).1 hc.2
  · rfl

/-- **What is listed in a set is read locally**, with any number of steps above its length. -/
theorem upTo_readListed {n room : Nat} {waiting : Option (SetOperation × Written CodeRanges)}
    {listing : Listing} {cs t : List Char} {w : Written CodeRanges}
    (h : readListed flags n room waiting listing cs = some (w, t)) :
    UpTo cs t fun cs t =>
      ∀ m, cs.length < m → readListed flags m room waiting listing cs = some (w, t) := by
  -- The steps bound the recursion of the original; the cut text is shorter, so its length does.
  induction n generalizing room waiting listing cs t w with
  | zero => cases h
  | succ n ih =>
    have hskip := upTo_skip flags cs
    rw [readListed] at h
    split at h
    · cases h
    · next rest hcs =>
      obtain ⟨rfl, rfl⟩ := Prod.mk.inj (Option.some.inj h)
      rw [hcs] at hskip
      refine (hskip.trans (UpTo.cons ']' rest)).mono ?_
      rintro cs t ⟨_, hskip, rfl⟩ m hm
      obtain ⟨m, rfl⟩ := Nat.exists_eq_succ_of_ne_zero (Nat.ne_zero_of_lt hm)
      simp only [readListed, hskip]
    · next rest hcs =>
      rw [hcs] at hskip
      split at h
      · next negated set rest' hclass =>
        obtain ⟨folded, hfolded, h⟩ := Option.bind_eq_some_iff.1 h
        refine (hskip.trans ((UpTo.cons '[' rest).trans
          ((upTo_readNamedClass hclass).lengths.trans (ih h)))).mono ?_
        rintro cs t ⟨_, hskip, rest, rfl, rest', ⟨hclass, hlength'⟩, hread⟩ m hm
        have hlength := length_le_of_skip hskip
        obtain ⟨m, rfl⟩ := Nat.exists_eq_succ_of_ne_zero (Nat.ne_zero_of_lt hm)
        rw [List.length_cons] at hlength
        simp only [readListed, hskip, hclass, hfolded, Option.bind_eq_bind, Option.bind_some]
        exact hread m (by omega)
      · next hclass =>
        split at h
        · cases h
        · next hroom =>
          obtain ⟨⟨inner, rest'⟩, hinner, h⟩ := Option.bind_eq_some_iff.1 h
          refine (hskip.trans ((UpTo.cons '[' rest).trans
            ((UpTo.test fun _ => namedClass_cut hclass).trans
              ((upTo_readBracket (readListed flags · (room - 1) none) ih hinner).lengths.trans
                (ih h))))).mono ?_
          rintro cs t ⟨_, hskip, rest, rfl, _, ⟨rfl, hclass⟩, rest', ⟨hinner, hlength'⟩, hread⟩ m hm
          have hlength := length_le_of_skip hskip
          obtain ⟨m, rfl⟩ := Nat.exists_eq_succ_of_ne_zero (Nat.ne_zero_of_lt hm)
          rw [List.length_cons] at hlength
          simp only [readListed, hskip, hclass, if_neg hroom, hinner m (by omega),
            Option.bind_eq_bind, Option.bind_some]
          exact hread m (by omega)
    · next hnil hclosing hopening =>
      obtain ⟨c, rest, hcs⟩ := List.exists_cons_of_ne_nil hnil
      have hc : c ≠ ']' ∧ c ≠ '[' := by
        constructor
        · rintro rfl
          exact hclosing rest hcs
        · rintro rfl
          exact hopening rest hcs
      rw [hcs] at h hskip
      split at h
      · next operation rest' hoperation =>
        have hlt := length_lt_of_operation hoperation
        refine (hskip.trans ((UpTo.cons c rest).trans
          (((local_operation.upTo hoperation).tail (Nat.le_of_lt_succ hlt)).lengths.trans
            (ih h)))).mono ?_
        rintro cs t ⟨_, hskip, rest, rfl, _, ⟨hoperation, hlength'⟩, hread⟩ m hm
        have hlength := length_le_of_skip hskip
        obtain ⟨m, rfl⟩ := Nat.exists_eq_succ_of_ne_zero (Nat.ne_zero_of_lt hm)
        rw [List.length_cons] at hlength
        rw [readListed_other hc hskip, hoperation]
        exact hread m (by omega)
      · next hoperation =>
        obtain ⟨⟨set, rest'⟩, hset, h⟩ := Option.bind_eq_some_iff.1 h
        have hlt := length_lt_of_readRange hset
        refine (hskip.trans ((UpTo.test fun _ => operation_cut hoperation).trans
          ((UpTo.cons c rest).trans
            ((((local_readRange flags).upTo hset).tail (Nat.le_of_lt_succ hlt)).lengths.trans
              (ih h))))).mono ?_
        rintro cs t ⟨_, hskip, _, ⟨rfl, hoperation⟩, rest, rfl, _, ⟨hset, hlength'⟩, hread⟩ m hm
        have hlength := length_le_of_skip hskip
        obtain ⟨m, rfl⟩ := Nat.exists_eq_succ_of_ne_zero (Nat.ne_zero_of_lt hm)
        rw [List.length_cons] at hlength
        rw [readListed_other hc hskip, hoperation, hset]
        exact hread m (by omega)

/-- **A set is read locally.** -/
theorem local_readSet (flags : Flags) : Local (readSet flags) where
  upTo h := (upTo_readBracket (readListed flags · depthLimit none) upTo_readListed h).mono
    fun cs _ hcs => hcs _ (Nat.lt_succ_self cs.length)

end SqlBuilder.Pattern
