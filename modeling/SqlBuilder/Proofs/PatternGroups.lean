import SqlBuilder.Pattern.Reading
import SqlBuilder.Proofs.PatternSets

/-! # Reading the groups of a pattern up to a parenthesis

What a group holds is read alike however the end of the text behind it is cut at a closing
parenthesis (`upTo_readGroup`).  One step of the reading is looked at by itself, and carries over
to the steps that follow (`ReadsUpTo.step`). -/

namespace SqlBuilder.Pattern

variable {flags : Flags}

/-! ## Bounds of a repetition -/

/-- Whether a question mark is dropped is known up to what stands behind it. -/
theorem upTo_dropPreference (cs : List Char) :
    UpTo cs (dropPreference cs) fun cs t => dropPreference cs = t := by
  unfold dropPreference
  split
  · next rest =>
    refine (UpTo.cons '?' rest).mono ?_
    rintro _ t rfl
    rfl
  · next hquestion =>
    refine (UpTo.other hquestion).mono ?_
    rintro cs t ⟨rfl, hquestion⟩
    split
    · exact absurd rfl (hquestion _)
    · rfl

/-- The number that digits write. -/
def numberOf (digits : List Char) : Nat :=
  digits.foldl (fun n c => 10 * n + (c.toNat - '0'.toNat)) 0

/-- A number is read in parts: blanks, digits and blanks. -/
theorem readCount_eq (cs : List Char) :
    readCount flags cs =
      let digits := cs.dropWhile Text.isBlank
      let found := flags.gather Char.isDigit digits.length false digits
      if found.1.isEmpty || decide (UInt32.size ≤ numberOf found.1) then none
      else some (numberOf found.1, found.2.dropWhile Text.isBlank) := by
  dsimp only
  rw [gather_limit flags _ _ cs.length false (Nat.le_refl _) (upTo_dropWhile _ cs).length_le]
  rfl

/-- A number is read locally. -/
theorem local_readCount (flags : Flags) : Local (readCount flags) := by
  refine ⟨fun {cs k t} h => ?_⟩
  rw [readCount_eq] at h
  dsimp only at h
  split at h
  · cases h
  · next hdigits =>
    obtain ⟨rfl, rfl⟩ := Prod.mk.inj (Option.some.inj h)
    refine ((upTo_dropWhile Text.isBlank cs).trans ((upTo_gather_all rfl).trans
      (upTo_dropWhile Text.isBlank _))).mono ?_
    rintro cs t ⟨_, ⟨hblank, -⟩, _, hgather, hrest, -⟩
    simp only [readCount_eq, hblank, hgather, if_neg hdigits, hrest]

/-- The upper bound of a repetition: what stands behind a comma, or else the lower bound. -/
def readMost (flags : Flags) (least : Nat) : List Char → Option (Option Nat × List Char)
  | ',' :: rest =>
    match flags.skip rest with
    | '}' :: rest => some (none, '}' :: rest)
    | rest => (readCount flags rest).map fun (n, rest) => (some n, rest)
  | rest => some (some least, rest)

section

variable {least : Nat} {rest : List Char}

/-- Without a comma the upper bound is the lower one. -/
theorem readMost_of_not_comma (h : ∀ after, rest = ',' :: after → False) :
    readMost flags least rest = some (some least, rest) := by
  simp only [readMost]

/-- With nothing but a comma there is no upper bound. -/
theorem readMost_of_closing {after : List Char} (h : flags.skip rest = '\x7d' :: after) :
    readMost flags least (',' :: rest) = some (none, '\x7d' :: after) := by
  simp only [readMost, h]

/-- Anything else behind a comma is the upper bound. -/
theorem readMost_of_not_closing (h : ∀ after, flags.skip rest = '\x7d' :: after → False) :
    readMost flags least (',' :: rest) =
      (readCount flags (flags.skip rest)).map fun high => (some high.1, high.2) := by
  simp only [readMost]

end

/-- The upper bound of a repetition is read locally. -/
theorem local_readMost (flags : Flags) (least : Nat) : Local (readMost flags least) := by
  refine ⟨fun {cs most t} h => ?_⟩
  unfold readMost at h
  split at h
  · next rest =>
    have hskip := (UpTo.cons ',' rest).trans (upTo_skip flags rest)
    split at h
    · next after hrest =>
      obtain ⟨rfl, rfl⟩ := Prod.mk.inj (Option.some.inj h)
      rw [hrest] at hskip
      refine (hskip.trans (UpTo.test fun _ => CutAt.starts (by decide))).mono ?_
      rintro _ t ⟨_, ⟨rest, rfl, hskip⟩, rfl, after, rfl⟩
      exact readMost_of_closing hskip
    · next hclosing =>
      obtain ⟨⟨n, rest'⟩, hn, hx⟩ := Option.map_eq_some_iff.1 h
      obtain ⟨rfl, rfl⟩ := Prod.mk.inj hx
      refine (hskip.trans ((UpTo.other hclosing).trans
        ((local_readCount flags).upTo hn))).mono ?_
      rintro _ t ⟨_, ⟨rest, rfl, rfl⟩, _, ⟨rfl, hclosing⟩, hn⟩
      rw [readMost_of_not_closing hclosing, hn, Option.map_some]
  · next hcomma =>
    obtain ⟨rfl, rfl⟩ := Prod.mk.inj (Option.some.inj h)
    refine (UpTo.other hcomma).mono ?_
    rintro cs t ⟨rfl, hcomma⟩
    exact readMost_of_not_comma hcomma

/-- The bounds, if they are in order and the closing brace stands behind them. -/
def closeBounds (flags : Flags) (least : Nat) (high : Option Nat × List Char) :
    Option (Nat × Option Nat × List Char) :=
  match high.2 with
  | '\x7d' :: rest =>
    if high.1.all (decide <| least ≤ ·) then some (least, high.1, dropPreference (flags.skip rest))
    else none
  | _ => none

/-- The bounds of a repetition are read in parts: the lower bound, the upper bound and the closing
brace. -/
theorem readBounds_eq (cs : List Char) :
    readBounds flags cs = (readCount flags (flags.skip cs)).bind fun low =>
      (readMost flags low.1 low.2).bind (closeBounds flags low.1) := by
  unfold readBounds
  cases readCount flags (flags.skip cs) with
  | none => rfl
  | some low =>
    obtain ⟨least, rest⟩ := low
    have hclose : ∀ {found : Option (Option Nat × List Char)},
        readMost flags least rest = found →
          found.bind (closeBounds flags least) =
            (readMost flags least rest).bind (closeBounds flags least) := by
      rintro _ rfl
      rfl
    simp only [Option.bind_eq_bind, Option.bind_some]
    split
    · split
      · next after hafter => exact hclose (readMost_of_closing hafter)
      · next hafter => exact hclose (readMost_of_not_closing hafter)
    · next hcomma => exact hclose (readMost_of_not_comma hcomma)

/-- The bounds of a repetition are read up to what stands behind them. -/
theorem upTo_readBounds {cs t : List Char} {least : Nat} {most : Option Nat}
    (h : readBounds flags cs = some (least, most, t)) :
    UpTo cs t fun cs t => readBounds flags cs = some (least, most, t) := by
  rw [readBounds_eq] at h
  obtain ⟨⟨low, rest⟩, hlow, h⟩ := Option.bind_eq_some_iff.1 h
  obtain ⟨⟨high, rest'⟩, hhigh, h⟩ := Option.bind_eq_some_iff.1 h
  unfold closeBounds at h
  dsimp only at hhigh h
  split at h
  · next closing after =>
    split at h
    · next horder =>
      obtain ⟨rfl, hbounds⟩ := Prod.mk.inj (Option.some.inj h)
      obtain ⟨rfl, rfl⟩ := Prod.mk.inj hbounds
      refine ((upTo_skip flags cs).trans (((local_readCount flags).upTo hlow).trans
        (((local_readMost flags low).upTo hhigh).trans ((UpTo.cons _ after).trans
          ((upTo_skip flags after).trans (upTo_dropPreference _)))))).mono ?_
      rintro cs t ⟨_, hskip, _, hlow, _, hhigh, after, rfl, _, hafter, hpreference⟩
      simp only [readBounds_eq, hskip, hlow, Option.bind_some, hhigh, closeBounds, if_pos horder,
        hafter, hpreference]
    · cases h
  · cases h

/-- There are no bounds where nothing is left. -/
theorem readBounds_of_skip {cs : List Char} (h : flags.skip cs = []) :
    readBounds flags cs = none := by
  rw [readBounds_eq, h]
  rfl

/-! ## Openings -/

/-- The name of a group is read locally. -/
theorem local_readGroupName (names : List (List Char)) : Local (readGroupName names) := by
  refine ⟨fun {cs names' t} h => ?_⟩
  have hname := upTo_dropWhile (· != '>') cs
  unfold readGroupName at h
  dsimp only at h
  split at h
  · next c rest hcs =>
    split at h
    · next hnew =>
      obtain ⟨rfl, rfl⟩ := Prod.mk.inj (Option.some.inj h)
      rw [hcs] at hname
      refine (hname.trans (UpTo.cons c rest)).mono ?_
      rintro cs t ⟨_, ⟨hdrop, htake⟩, rfl⟩
      simp only [readGroupName, hdrop, htake, if_pos hnew]
    · cases h
  · cases h

/-- A list of flags is read whatever stands behind the character that ends it. -/
theorem readList_append {seen : List Char} {flags inner : Flags} {cs t : List Char} {c : Char}
    (h : flags.readList seen cs = some (inner, c :: t)) :
    ∃ used, cs = used ++ c :: t ∧
      ∀ t', flags.readList seen (used ++ c :: t') = some (inner, c :: t') := by
  induction cs generalizing seen flags with
  | nil => cases h
  | cons d rest ih =>
    rw [Flags.readList] at h
    split at h
    · next hend =>
      split at h
      · cases h
      · next hseen =>
        obtain ⟨rfl, hcs⟩ := Prod.mk.inj (Option.some.inj h)
        obtain ⟨rfl, rfl⟩ := List.cons.inj hcs
        refine ⟨[], rfl, fun t' => ?_⟩
        rw [List.nil_append, Flags.readList, if_pos hend, if_neg hseen]
    · next hend =>
      split at h
      · cases h
      · next hseen =>
        split at h
        · next hminus =>
          obtain ⟨used, rfl, hall⟩ := ih h
          refine ⟨d :: used, rfl, fun t' => ?_⟩
          rw [List.cons_append, Flags.readList, if_neg hend, if_neg hseen, if_pos hminus, hall]
        · next hminus =>
          obtain ⟨flags', hset, h⟩ := Option.bind_eq_some_iff.1 h
          obtain ⟨used, rfl, hall⟩ := ih h
          refine ⟨d :: used, rfl, fun t' => ?_⟩
          rw [List.cons_append, Flags.readList, if_neg hend, if_neg hseen, if_neg hminus, hset,
            Option.bind_some, hall]

/-- A list of flags that is not empty is read up to what stands behind the character that ends
it. -/
theorem upTo_readList {inner : Flags} {cs t : List Char} {c : Char}
    (hempty : ∀ tail, cs = ')' :: tail → False)
    (h : flags.readList [] cs = some (inner, c :: t)) :
    UpTo cs t fun cs t => flags.readList [] cs = some (inner, c :: t) ∧
      (∀ tail, cs = ')' :: tail → False) ∧ (∀ tail, cs = 'P' :: '<' :: tail → False) ∧
        ∀ tail, cs = '<' :: tail → False := by
  obtain ⟨used, rfl, hall⟩ := readList_append h
  refine ⟨used ++ [c], by simp, fun t' _ => ?_⟩
  rw [List.append_assoc, List.singleton_append]
  refine ⟨hall t', fun tail htail => ?_, fun tail htail => ?_, fun tail htail => ?_⟩
  · cases used with
    | nil =>
      obtain ⟨rfl, -⟩ := List.cons.inj htail
      exact hempty t rfl
    | cons d used =>
      obtain ⟨rfl, -⟩ := List.cons.inj htail
      exact hempty _ rfl
  · have hlist := hall t'
    rw [htail] at hlist
    cases hlist
  · have hlist := hall t'
    rw [htail] at hlist
    cases hlist

namespace Opening

/-- What is left behind an opening. -/
def rest : Opening → List Char
  | group _ _ _ rest => rest
  | directive _ rest => rest

/-- An opening with something else behind it. -/
def before (t : List Char) : Opening → Opening
  | group numbered flags names _ => group numbered flags names t
  | directive flags _ => directive flags t

end Opening

/-- **An opening is read up to what stands behind it.** -/
theorem upTo_readOpening {names : List (List Char)} {cs : List Char} {opening : Opening}
    (h : readOpening flags names cs = some opening) :
    UpTo cs opening.rest fun cs t =>
      readOpening flags names cs = some (opening.before t) := by
  have hskip := upTo_skip flags cs
  unfold readOpening at h
  split at h
  · next rest hcs =>
    obtain ⟨⟨names', t⟩, hnames, rfl⟩ := Option.map_eq_some_iff.1 h
    rw [hcs] at hskip
    refine (hskip.trans ((UpTo.cons '?' _).trans ((UpTo.cons 'P' _).trans
      ((UpTo.cons '<' rest).trans ((local_readGroupName names).upTo hnames))))).mono ?_
    rintro cs t ⟨_, hskip, _, rfl, _, rfl, rest, rfl, hnames⟩
    simp only [readOpening, hskip, hnames, Option.map_some, Opening.before]
  · next rest hcs =>
    obtain ⟨⟨names', t⟩, hnames, rfl⟩ := Option.map_eq_some_iff.1 h
    rw [hcs] at hskip
    refine (hskip.trans ((UpTo.cons '?' _).trans
      ((UpTo.cons '<' rest).trans ((local_readGroupName names).upTo hnames)))).mono ?_
    rintro cs t ⟨_, hskip, _, rfl, rest, rfl, hnames⟩
    simp only [readOpening, hskip, hnames, Option.map_some, Opening.before]
  · cases h
  · next rest hnamed hnamed' hempty hcs =>
    rw [hcs] at hskip
    have hflags := hskip.trans (UpTo.cons '?' rest)
    split at h
    · next inner t hlist =>
      obtain rfl := Option.some.inj h
      refine (hflags.trans (upTo_readList hempty hlist)).mono ?_
      rintro cs t ⟨rest, ⟨_, hskip, rfl⟩, hlist, hempty, hnamed, hnamed'⟩
      simp only [readOpening, hskip, hlist, Opening.before]
    · next inner c t hparen hlist =>
      obtain rfl := Option.some.inj h
      refine (hflags.trans (upTo_readList hempty hlist)).mono ?_
      rintro cs t ⟨rest, ⟨_, hskip, rfl⟩, hlist, hempty, hnamed, hnamed'⟩
      simp only [readOpening, hskip, hlist, Opening.before]
    · cases h
  · next hother =>
    obtain rfl := Option.some.inj h
    refine (hskip.trans (UpTo.other hother)).mono ?_
    rintro cs t ⟨_, hskip, rfl, hother⟩
    unfold readOpening
    rw [hskip]
    split
    case h_5 => rfl
    all_goals exact absurd rfl (hother _)

/-! ## Pieces -/

/-- What is left behind a piece is shorter. -/
theorem length_lt_of_readPiece {cs t : List Char} {p : Written Pattern}
    (h : readPiece flags cs = some (p, t)) : t.length < cs.length := by
  unfold readPiece at h
  split at h
  case h_1 => cases h
  case h_2 rest =>
    obtain ⟨⟨set, t⟩, hset, hx⟩ := Option.map_eq_some_iff.1 h
    obtain ⟨rfl, rfl⟩ := Prod.mk.inj hx
    exact Nat.lt_succ_of_le ((local_readSet flags).length_le hset)
  case h_3 rest =>
    obtain ⟨⟨atom, t⟩, hatom, hx⟩ := Option.map_eq_some_iff.1 h
    obtain ⟨rfl, rfl⟩ := Prod.mk.inj hx
    exact Nat.lt_succ_of_le (upTo_readEscape hatom).length_le
  case h_4 rest =>
    obtain ⟨set, hset, hx⟩ := Option.map_eq_some_iff.1 h
    obtain ⟨rfl, rfl⟩ := Prod.mk.inj hx
    exact Nat.lt_succ_self _
  all_goals
    obtain ⟨rfl, rfl⟩ := Prod.mk.inj (Option.some.inj h)
    exact Nat.lt_succ_self _

/-- **A piece is read locally**, unless it is a word boundary before braces that are cut. -/
theorem upTo_readPiece {cs t : List Char} {p : Written Pattern}
    (h : readPiece flags cs = some (p, t)) :
    UpTo cs t fun cs t => readPiece flags cs = some (p, t) ∨
      ∃ inside, t = '\x7b' :: inside ∧ flags.skip inside = [] := by
  unfold readPiece at h
  split at h
  case h_1 => cases h
  case h_2 rest =>
    exact (((local_readSet flags).map fun set => (⟨ofSet set.value, set.depth⟩ :
      Written Pattern)).upTo_cons (fun _ => rfl) h).mono fun _ _ => Or.inl
  case h_3 rest =>
    obtain ⟨⟨atom, t⟩, hatom, hx⟩ := Option.map_eq_some_iff.1 h
    obtain ⟨rfl, rfl⟩ := Prod.mk.inj hx
    refine ((UpTo.cons _ rest).trans (upTo_readEscape hatom)).mono ?_
    rintro _ t ⟨rest, rfl, hatom | ⟨-, hbrace⟩⟩
    · exact Or.inl (by simp only [readPiece, hatom, Option.map_some])
    · exact Or.inr hbrace
  case h_4 rest =>
    exact ((Local.of_option _ _).upTo_cons (fun _ => rfl) h).mono fun _ _ => Or.inl
  case h_5 | h_6 => exact ((Local.const _).upTo_cons (fun _ => rfl) h).mono fun _ _ => Or.inl
  case h_7 c rest hset hescape hany hstart hend =>
    obtain ⟨rfl, rfl⟩ := Prod.mk.inj (Option.some.inj h)
    refine (UpTo.cons c rest).mono ?_
    rintro _ t rfl
    exact Or.inl (by simp only [readPiece])

/-! ## Steps of a group -/

variable {room : Nat} {d d₁ : Draft} {s s₁ s' : Progress} {w : Written Pattern}

/-- **A group is read from one progress to another** however the end is cut, with any number of
steps above the length, and with as much room or more. -/
def ReadsUpTo (room : Nat) (d : Draft) (s : Progress) (w : Written Pattern) (s' : Progress) :
    Prop :=
  UpTo s.rest s'.rest fun cs t => ∀ m room', cs.length < m → room ≤ room' →
    readGroup m room' d { s with rest := cs } = some (w, { s' with rest := t })

/-- **One step of reading a group**, however the end is cut: what is read from the second progress
on is read from the first one on. -/
def StepsUpTo (room : Nat) (d : Draft) (s : Progress) (d₁ : Draft) (s₁ : Progress) : Prop :=
  UpTo s.rest s₁.rest fun cs t => t.length < cs.length ∧
    ∀ m room' r, cs.length ≤ m → room ≤ room' →
      readGroup m room' d₁ { s₁ with rest := t } = some r →
        readGroup (m + 1) room' d { s with rest := cs } = some r

/-- **One step, and what is read then.** -/
theorem StepsUpTo.reads (hstep : StepsUpTo room d s d₁ s₁) (h : ReadsUpTo room d₁ s₁ w s') :
    ReadsUpTo room d s w s' := by
  refine (hstep.trans h).mono ?_
  rintro cs t ⟨_, ⟨hlength, hstep⟩, hread⟩ m room' hm hroom
  obtain ⟨m, rfl⟩ := Nat.exists_eq_succ_of_ne_zero (Nat.ne_zero_of_lt hm)
  exact hstep m room' _ (by omega) hroom (hread m room' (by omega) hroom)

/-- A step behind what is skipped and the first character behind it. -/
theorem StepsUpTo.of_skip {c : Char} {rest : List Char} (hcs : s.flags.skip s.rest = c :: rest)
    (h : UpTo rest s₁.rest fun cs t => ∀ whole, s.flags.skip whole = c :: cs →
      ∀ m room' r, cs.length < m → room ≤ room' →
        readGroup m room' d₁ { s₁ with rest := t } = some r →
          readGroup (m + 1) room' d { s with rest := whole } = some r) :
    StepsUpTo room d s d₁ s₁ := by
  have hskip := upTo_skip s.flags s.rest
  rw [hcs] at hskip
  refine (hskip.trans ((UpTo.cons c rest).trans h.lengths)).mono ?_
  rintro cs t ⟨_, hskip, rest, rfl, h, hlength'⟩
  have hlength := length_le_of_skip hskip
  rw [List.length_cons] at hlength
  exact ⟨by omega, fun m room' r hm hroom => h cs hskip m room' r (by omega) hroom⟩

/-- A bar starts the next alternative. -/
theorem steps_alternative {rest : List Char} (hcs : s.flags.skip s.rest = '|' :: rest) :
    StepsUpTo room d s d.nextAlternative { s with rest } := by
  refine .of_skip hcs (.refl fun cs _ whole hskip m room' r _ _ hread => ?_)
  simp only [readGroup, hskip]
  exact hread

/-- A directive sets flags. -/
theorem steps_directive {rest t : List Char} {inner : Flags}
    (hcs : s.flags.skip s.rest = '(' :: rest)
    (hopening : readOpening s.flags s.names rest = some (.directive inner t)) :
    StepsUpTo room d s d.pushDirective { s with flags := inner, rest := t } := by
  refine .of_skip hcs ((upTo_readOpening hopening).mono ?_)
  intro cs t hopening whole hskip m room' r _ _ hread
  simp only [readGroup, hskip, hopening, Opening.before]
  exact hread

/-- A group inside is read up to its closing parenthesis. -/
theorem steps_group {rest t t' : List Char} {numbered : Bool} {inner flags' : Flags}
    {names names' : List (List Char)} {groups' : Nat} {p : Written Pattern}
    (hcs : s.flags.skip s.rest = '(' :: rest)
    (hopening : readOpening s.flags s.names rest = some (.group numbered inner names t))
    (hroom : room ≠ 0)
    (hinner : ReadsUpTo (room - 1) {}
      ⟨inner, names, if numbered then s.groups + 1 else s.groups, t⟩ p
      ⟨flags', names', groups', ')' :: t'⟩) :
    StepsUpTo room d s (d.push (ofGroup numbered (s.groups + 1) p))
      ⟨s.flags, names', groups', t'⟩ := by
  refine .of_skip hcs (((upTo_readOpening hopening).lengths.trans
    (hinner.trans (UpTo.cons ')' t'))).mono ?_)
  rintro cs _ ⟨_, ⟨hopening, hlength⟩, _, hinner, rfl⟩ whole hskip m room' r hm hroom' hread
  simp only [readGroup, hskip, hopening, Opening.before, if_neg (show room' ≠ 0 by omega),
    hinner m (room' - 1) (by omega) (by omega)]
  exact hread

/-- A repetition sign repeats the last piece. -/
theorem steps_repetition {c : Char} {least : Nat} {most : Option Nat} {rest : List Char}
    (hsign : (c, least, most) ∈ [('?', 0, some 1), ('*', 0, none), ('+', 1, none)])
    (hcs : s.flags.skip s.rest = c :: rest) (hd : d.repeatLast least most = some d₁) :
    StepsUpTo room d s d₁ { s with rest := dropPreference rest } := by
  refine .of_skip hcs ((upTo_dropPreference rest).mono ?_)
  intro cs t hpreference whole hskip m room' r _ _ hread
  simp only [List.mem_cons, Prod.mk.injEq, List.not_mem_nil, or_false] at hsign
  rcases hsign with ⟨rfl, rfl, rfl⟩ | ⟨rfl, rfl, rfl⟩ | ⟨rfl, rfl, rfl⟩
  all_goals
    simp only [readGroup, hskip, hd, Option.bind_eq_bind, Option.bind_some, hpreference]
    exact hread

/-- Bounds in braces repeat the last piece. -/
theorem steps_bounds {least : Nat} {most : Option Nat} {rest t : List Char}
    (hcs : s.flags.skip s.rest = '\x7b' :: rest)
    (hbounds : readBounds s.flags rest = some (least, most, t))
    (hd : d.repeatLast least most = some d₁) : StepsUpTo room d s d₁ { s with rest := t } := by
  refine .of_skip hcs ((upTo_readBounds hbounds).mono ?_)
  intro cs t hbounds whole hskip m room' r _ _ hread
  simp only [readGroup, hskip, hbounds, hd, Option.bind_eq_bind, Option.bind_some]
  exact hread

/-- The characters that are no piece. -/
def signs : List Char := [')', '|', '(', '?', '*', '+', '\x7b']

/-- Any other character starts a piece. -/
theorem readGroup_piece {n : Nat} {c : Char} {rest : List Char} (hc : c ∉ signs)
    (hcs : s.flags.skip s.rest = c :: rest) :
    readGroup (n + 1) room d s = (readPiece s.flags (c :: rest)).bind fun found =>
      readGroup n room (d.push found.1) { s with rest := found.2 } := by
  rw [readGroup, hcs]
  split
  case h_1 hnil => cases hnil
  case h_9 => rfl
  all_goals
    next hsign =>
      obtain ⟨rfl, -⟩ := List.cons.inj hsign
      exact absurd (by decide) hc

/-- Nothing can be read where a brace has nothing behind it. -/
theorem readGroup_of_brace {n : Nat} {inside : List Char} (h : s.flags.skip inside = []) :
    readGroup n room d { s with rest := '\x7b' :: inside } = none := by
  cases n with
  | zero => rfl
  | succ n =>
    have hskip : s.flags.skip ('\x7b' :: inside) = '\x7b' :: inside := by
      unfold Flags.skip
      split <;> rfl
    rw [readGroup, hskip]
    simp only [readBounds_of_skip h]
    rfl

/-- A piece is read. -/
theorem steps_piece {c : Char} {rest t : List Char} {p : Written Pattern} (hc : c ∉ signs)
    (hcs : s.flags.skip s.rest = c :: rest)
    (hpiece : readPiece s.flags (c :: rest) = some (p, t)) :
    StepsUpTo room d s (d.push p) { s with rest := t } := by
  refine .of_skip hcs (((upTo_readPiece hpiece).tail
    (Nat.le_of_lt_succ (length_lt_of_readPiece hpiece))).mono ?_)
  rintro cs t (hpiece | ⟨inside, rfl, hinside⟩) whole hskip m room' r _ _ hread
  · rw [readGroup_piece hc hskip, hpiece]
    exact hread
  · -- The braces behind a word boundary would have to be bounds of a repetition.
    cases (readGroup_of_brace hinside).symm.trans hread

/-! ## Groups -/

/-- **Reading a group does not depend on what stands behind the parenthesis at which it stops**: the
same is read however the end is cut. -/
theorem upTo_readGroup {n : Nat} (h : readGroup n room d s = some (w, s')) :
    ReadsUpTo room d s w s' := by
  -- Each branch but the two at which reading stops is one of the steps above.
  induction n generalizing room d s s' w with
  | zero => cases h
  | succ n ih =>
    have hskip := upTo_skip s.flags s.rest
    rw [readGroup] at h
    split at h
    case h_1 hcs =>
      obtain ⟨rfl, rfl⟩ := Prod.mk.inj (Option.some.inj h)
      rw [hcs] at hskip
      obtain ⟨used, hused, -⟩ := hskip
      exact ⟨used, hused, fun t' ht' => absurd ht' CutAt.not_nil⟩
    case h_2 rest hcs =>
      obtain ⟨rfl, rfl⟩ := Prod.mk.inj (Option.some.inj h)
      rw [hcs] at hskip
      refine (hskip.trans (UpTo.test fun _ => CutAt.cons_cases)).mono ?_
      rintro cs t ⟨_, hskip, rfl, hparen⟩ m room' hm hroom
      obtain ⟨m, rfl⟩ := Nat.exists_eq_succ_of_ne_zero (Nat.ne_zero_of_lt hm)
      -- The end is cut before the parenthesis or behind it.
      rcases hparen with ⟨rfl, -⟩ | ⟨rest, rfl, -⟩
      · simp only [readGroup, hskip]
      · simp only [readGroup, hskip]
    case h_3 rest hcs => exact (steps_alternative hcs).reads (ih h)
    case h_4 rest hcs =>
      split at h
      · cases h
      · next hopening => exact (steps_directive hcs hopening).reads (ih h)
      · next hopening =>
        dsimp only at h
        split at h
        · cases h
        · next hroom =>
          split at h
          · next hinner => exact (steps_group hcs hopening hroom (ih hinner)).reads (ih h)
          · cases h
    case h_5 rest hcs | h_6 rest hcs | h_7 rest hcs =>
      obtain ⟨d', hd, h⟩ := Option.bind_eq_some_iff.1 h
      exact (steps_repetition (by decide) hcs hd).reads (ih h)
    case h_8 rest hcs =>
      obtain ⟨⟨least, most, t⟩, hbounds, h⟩ := Option.bind_eq_some_iff.1 h
      obtain ⟨d', hd, h⟩ := Option.bind_eq_some_iff.1 h
      exact (steps_bounds hcs hbounds hd).reads (ih h)
    case h_9 hnil hclosing hbar hopening hquestion hstar hplus hbrace =>
      obtain ⟨⟨p, t⟩, hpiece, h⟩ := Option.bind_eq_some_iff.1 h
      obtain ⟨c, rest, hcs⟩ := List.exists_cons_of_ne_nil hnil
      have hc : c ∉ signs := by
        intro hc
        simp only [signs, List.mem_cons, List.not_mem_nil, or_false] at hc
        rcases hc with rfl | rfl | rfl | rfl | rfl | rfl | rfl
        · exact hclosing rest hcs
        · exact hbar rest hcs
        · exact hopening rest hcs
        · exact hquestion rest hcs
        · exact hstar rest hcs
        · exact hplus rest hcs
        · exact hbrace rest hcs
      rw [hcs] at hpiece
      exact (steps_piece hc hcs hpiece).reads (ih h)

end SqlBuilder.Pattern
