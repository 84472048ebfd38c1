import SqlBuilder.Pattern.Bracket

/-! # Reading the parts of a pattern up to a parenthesis

How a part of a written pattern is read does not depend on what stands far behind it.  A reader is
local if it leaves an end of what it reads, and reads the same when that end is cut at a closing
parenthesis (`Local`).  The readers of names, escapes and sets are local, but for one escape: braces
behind a word boundary are looked into before they are left (`upTo_readEscape`). -/

namespace SqlBuilder.Pattern

open Text (CodeRanges)

variable {flags : Flags}

/-! ## Cut ends -/

/-- **A text that is cut at a closing parenthesis**: what stands before the parenthesis. -/
def CutAt (t t' : List Char) : Prop := ∃ z, t = t' ++ ')' :: z

namespace CutAt

variable {t t' : List Char} {c : Char}

/-- A longer text is cut at the same place. -/
theorem append (h : CutAt t t') (used : List Char) : CutAt (used ++ t) (used ++ t') := by
  obtain ⟨z, rfl⟩ := h
  exact ⟨z, (List.append_assoc used t' (')' :: z)).symm⟩

/-- The empty text cannot be cut. -/
theorem not_nil : ¬CutAt [] t' := by
  rintro ⟨z, hz⟩
  simp at hz

/-- A text is cut before its first character, which is a parenthesis then, or behind it. -/
theorem cons_cases (h : CutAt (c :: t) t') :
    (t' = [] ∧ c = ')') ∨ ∃ r, t' = c :: r ∧ CutAt t r := by
  obtain ⟨z, hz⟩ := h
  cases t' with
  | nil => exact Or.inl ⟨rfl, (List.cons.inj hz).1⟩
  | cons d r =>
    obtain ⟨rfl, rfl⟩ := List.cons.inj hz
    exact Or.inr ⟨r, rfl, z, rfl⟩

/-- A text that starts with another character still does when it is cut. -/
theorem starts (hc : c ≠ ')') (h : CutAt (c :: t) t') : ∃ r, t' = c :: r := by
  rcases h.cons_cases with ⟨-, hparen⟩ | ⟨r, rfl, -⟩
  · exact absurd hparen hc
  · exact ⟨r, rfl⟩

/-- Where a reader finds nothing, it finds nothing when the text is cut, if what it finds does not
depend on what follows. -/
theorem eq_none {α : Type} {read : List Char → Option α}
    (hread : ∀ {used more}, (read used).isSome → (read (used ++ more)).isSome)
    (h : read t = none) (hcut : CutAt t t') : read t' = none := by
  obtain ⟨z, rfl⟩ := hcut
  cases hfound : read t' with
  | none => rfl
  | some found =>
    have hmore : (read (t' ++ ')' :: z)).isSome := hread (by rw [hfound, Option.isSome_some])
    rw [h] at hmore
    cases hmore

/-- What is cut is shorter. -/
theorem length_lt (h : CutAt t t') : t'.length < t.length := by
  obtain ⟨z, rfl⟩ := h
  rw [List.length_append, List.length_cons]
  omega

end CutAt

/-- **A statement about what is read of a text up to an end of it**, which holds however the end is
cut. -/
def UpTo (cs t : List Char) (F : List Char → List Char → Prop) : Prop :=
  ∃ used, cs = used ++ t ∧ ∀ t', CutAt t t' → F (used ++ t') t'

namespace UpTo

variable {cs t t₁ : List Char} {F G : List Char → List Char → Prop}

/-- Nothing is read. -/
theorem refl (h : ∀ t', CutAt t t' → F t' t') : UpTo t t F := ⟨[], rfl, h⟩

/-- One character is read. -/
theorem cons (c : Char) (t : List Char) : UpTo (c :: t) t fun cs t => cs = c :: t :=
  ⟨[c], rfl, fun _ _ => rfl⟩

/-- Nothing is read, and something is found out that stays so. -/
theorem test {P : List Char → Prop} (h : ∀ t', CutAt t t' → P t') :
    UpTo t t fun cs t => cs = t ∧ P cs :=
  .refl fun t' ht' => ⟨rfl, h t' ht'⟩

/-- Nothing is read where a text starts with another character. -/
theorem other {c : Char} (h : ∀ rest, t = c :: rest → False) :
    UpTo t t fun cs t => cs = t ∧ ∀ rest, cs = c :: rest → False := by
  refine .test fun t' ht' => ?_
  rintro rest rfl
  obtain ⟨z, hz⟩ := ht'
  exact h _ hz

/-- **What is read first, and what is read then.** -/
theorem trans (h : UpTo cs t₁ F) (h₁ : UpTo t₁ t G) :
    UpTo cs t fun cs t => ∃ t₁, F cs t₁ ∧ G t₁ t := by
  obtain ⟨used, rfl, hF⟩ := h
  obtain ⟨used₁, rfl, hG⟩ := h₁
  refine ⟨used ++ used₁, (List.append_assoc used used₁ t).symm, fun t' ht' => ?_⟩
  rw [List.append_assoc]
  exact ⟨used₁ ++ t', hF _ (ht'.append used₁), hG t' ht'⟩

/-- A statement may be weakened. -/
theorem mono (h : UpTo cs t F) (hFG : ∀ cs t, F cs t → G cs t) : UpTo cs t G := by
  obtain ⟨used, hcs, hF⟩ := h
  exact ⟨used, hcs, fun t' ht' => hFG _ t' (hF t' ht')⟩

/-- What is read behind the first character, if that one is read. -/
theorem tail {c : Char} {rest : List Char} (h : UpTo (c :: rest) t F)
    (hlength : t.length ≤ rest.length) : UpTo rest t fun cs t => F (c :: cs) t := by
  obtain ⟨used, hcs, hF⟩ := h
  cases used with
  | nil =>
    rw [← show c :: rest = t from hcs, List.length_cons] at hlength
    omega
  | cons d used =>
    obtain ⟨rfl, rfl⟩ := List.cons.inj hcs
    exact ⟨used, rfl, hF⟩

/-- What is left is not longer. -/
theorem length_le (h : UpTo cs t F) : t.length ≤ cs.length := by
  obtain ⟨used, rfl, -⟩ := h
  rw [List.length_append]
  omega

/-- What is left is not longer, however the end is cut. -/
theorem lengths (h : UpTo cs t F) : UpTo cs t fun cs t => F cs t ∧ t.length ≤ cs.length := by
  obtain ⟨used, hcs, hF⟩ := h
  refine ⟨used, hcs, fun t' ht' => ⟨hF t' ht', ?_⟩⟩
  rw [List.length_append]
  omega

end UpTo

/-! ## Free spacing -/

/-- What is dropped does not depend on what follows it. -/
theorem upTo_dropSpacing (inComment : Bool) (cs : List Char) :
    UpTo cs (Flags.dropSpacing inComment cs) fun cs t => Flags.dropSpacing inComment cs = t := by
  fun_induction Flags.dropSpacing inComment cs with
  | case1 => exact .refl fun t' ht' => absurd ht' CutAt.not_nil
  | case2 c rest ih =>
    refine ((UpTo.cons c rest).trans ih).mono ?_
    rintro _ t ⟨t₁, rfl, ht⟩
    rw [Flags.dropSpacing, if_pos rfl, ht]
  | case3 inComment c rest hcomment hblank ih =>
    refine ((UpTo.cons c rest).trans ih).mono ?_
    rintro _ t ⟨t₁, rfl, ht⟩
    rw [Flags.dropSpacing, if_neg hcomment, if_pos hblank, ht]
  | case4 inComment rest hcomment hblank ih =>
    refine ((UpTo.cons '#' rest).trans ih).mono ?_
    rintro _ t ⟨t₁, rfl, ht⟩
    rw [Flags.dropSpacing, if_neg hcomment, if_neg hblank, if_pos rfl, ht]
  | case5 inComment c rest hcomment hblank hsharp =>
    refine .refl fun t' ht' => ?_
    rcases ht'.cons_cases with ⟨rfl, -⟩ | ⟨r, rfl, -⟩
    · rfl
    · rw [Flags.dropSpacing, if_neg hcomment, if_neg hblank, if_neg hsharp]

/-- What is skipped does not depend on what follows it. -/
theorem upTo_skip (flags : Flags) (cs : List Char) :
    UpTo cs (flags.skip cs) fun cs t => flags.skip cs = t := by
  unfold Flags.skip
  split
  · exact upTo_dropSpacing false cs
  · exact .refl fun _ _ => rfl

/-- Where something stands behind free spacing, it stands there whatever follows. -/
theorem dropSpacing_append {inComment : Bool} {cs : List Char}
    (h : Flags.dropSpacing inComment cs ≠ []) (more : List Char) :
    Flags.dropSpacing inComment (cs ++ more) = Flags.dropSpacing inComment cs ++ more := by
  fun_induction Flags.dropSpacing inComment cs with
  | case1 => exact absurd rfl h
  | _ => simp_all [Flags.dropSpacing]

/-- Where something stands behind what is skipped, it stands there whatever follows. -/
theorem skip_append {flags : Flags} {cs : List Char} (h : flags.skip cs ≠ []) (more : List Char) :
    flags.skip (cs ++ more) = flags.skip cs ++ more := by
  unfold Flags.skip at h ⊢
  split
  · next hfree =>
    rw [if_pos hfree] at h
    exact dropSpacing_append h more
  · rfl

/-- What is dropped from the start does not depend on what follows it. -/
theorem upTo_dropWhile (p : Char → Bool) (cs : List Char) :
    UpTo cs (cs.dropWhile p) fun cs' t =>
      cs'.dropWhile p = t ∧ cs'.takeWhile p = cs.takeWhile p := by
  induction cs with
  | nil => exact .refl fun t' ht' => absurd ht' CutAt.not_nil
  | cons c rest ih =>
    cases hc : p c with
    | true =>
      rw [List.dropWhile_cons_of_pos hc, List.takeWhile_cons_of_pos hc]
      refine ((UpTo.cons c rest).trans ih).mono ?_
      rintro _ t ⟨t₁, rfl, ht, htake⟩
      rw [List.dropWhile_cons_of_pos hc, List.takeWhile_cons_of_pos hc, htake]
      exact ⟨ht, rfl⟩
    | false =>
      have hc' : ¬p c = true := by simp [hc]
      rw [List.dropWhile_cons_of_neg hc', List.takeWhile_cons_of_neg hc']
      refine .refl fun t' ht' => ?_
      rcases ht'.cons_cases with ⟨rfl, -⟩ | ⟨r, rfl, -⟩
      · exact ⟨rfl, rfl⟩
      · rw [List.dropWhile_cons_of_neg hc', List.takeWhile_cons_of_neg hc']
        exact ⟨rfl, rfl⟩

/-- What is collected does not depend on what follows it. -/
theorem upTo_gather (flags : Flags) (p : Char → Bool) (limit : Nat) (inComment : Bool)
    (cs : List Char) :
    UpTo cs (flags.gather p limit inComment cs).2 fun cs' t =>
      flags.gather p limit inComment cs' = ((flags.gather p limit inComment cs).1, t) := by
  fun_induction Flags.gather flags p limit inComment cs with
  | case1 => exact .refl fun t' ht' => absurd ht' CutAt.not_nil
  | case2 inComment c rest =>
    refine .refl fun t' _ => ?_
    cases t' <;> rfl
  | case4 limit inComment c rest hlimit hcomment hp more ih =>
    refine ((UpTo.cons c rest).trans ih).mono ?_
    rintro _ t ⟨t₁, rfl, ht⟩
    simp_all [Flags.gather, more]
  | case7 limit inComment c rest hlimit hcomment hp hblank hsharp =>
    refine .refl fun t' ht' => ?_
    rcases ht'.cons_cases with ⟨rfl, -⟩ | ⟨r, rfl, -⟩
    · rfl
    · rw [Flags.gather, if_neg hlimit, if_neg hcomment, if_neg hp, if_neg hblank, if_neg hsharp]
  | _ =>
    refine ((UpTo.cons _ _).trans ‹_›).mono ?_
    rintro _ t ⟨t₁, rfl, ht⟩
    simp_all [Flags.gather]

/-- A limit above the length of a text is none. -/
theorem gather_limit (flags : Flags) (p : Char → Bool) (limit limit' : Nat) (inComment : Bool)
    {cs : List Char} (h : cs.length ≤ limit) (h' : cs.length ≤ limit') :
    flags.gather p limit inComment cs = flags.gather p limit' inComment cs := by
  induction cs generalizing limit limit' inComment with
  | nil => rfl
  | cons c rest ih =>
    rw [List.length_cons] at h h'
    have hrest : ∀ inComment, flags.gather p limit inComment rest
        = flags.gather p limit' inComment rest := fun _ => ih _ _ _ (by omega) (by omega)
    rw [Flags.gather, Flags.gather, if_neg (show ¬limit = 0 by omega),
      if_neg (show ¬limit' = 0 by omega), hrest, hrest, hrest,
      ih (limit - 1) (limit' - 1) false (by omega) (by omega)]

/-- What is collected without a limit does not depend on what follows it. -/
theorem upTo_gather_all {flags : Flags} {p : Char → Bool} {cs chosen t : List Char}
    (h : flags.gather p cs.length false cs = (chosen, t)) :
    UpTo cs t fun cs t => flags.gather p cs.length false cs = (chosen, t) := by
  obtain ⟨used, hcs, hgather⟩ := upTo_gather flags p cs.length false cs
  rw [h] at hcs hgather
  refine ⟨used, hcs, fun t' ht' => ?_⟩
  have hlength : (used ++ t').length ≤ cs.length := by
    rw [hcs, List.length_append, List.length_append]
    exact Nat.add_le_add_left (Nat.le_of_lt ht'.length_lt) used.length
  exact (gather_limit flags p _ _ false (Nat.le_refl _) hlength).trans (hgather t' ht')

section

variable {p : Char → Bool} (hp : ∀ c, p c = true → Text.isBlank c = false ∧ c ≠ '#') {limit : Nat}
  {cs chosen : List Char} {c : Char}
include hp

/-- The first character that is collected in free spacing stands behind it. -/
theorem dropSpacing_of_gather (hfree : flags.freeSpacing = true) {inComment : Bool}
    (h : (flags.gather p limit inComment cs).1 = c :: chosen) :
    p c = true ∧ ∃ rest, Flags.dropSpacing inComment cs = c :: rest := by
  fun_induction Flags.gather flags p limit inComment cs with
  | case4 limit inComment d rest hlimit hcomment hd more ih =>
    obtain ⟨rfl, -⟩ := List.cons.inj h
    obtain ⟨hblank, hsharp⟩ := hp d hd
    refine ⟨hd, rest, ?_⟩
    simp [Flags.dropSpacing, hcomment, hblank, hsharp]
  | _ => simp_all [Flags.dropSpacing]

/-- **The first character that is collected stands behind what is skipped**, if characters of the
class are neither blank nor start a comment. -/
theorem skip_of_gather (h : (flags.gather p limit false cs).1 = c :: chosen) :
    p c = true ∧ ∃ rest, flags.skip cs = c :: rest := by
  unfold Flags.skip
  split
  · next hfree => exact dropSpacing_of_gather hp hfree h
  · next hfree =>
    cases cs with
    | nil => cases h
    | cons d rest =>
      rw [Flags.gather] at h
      split at h
      · cases h
      · rw [if_neg (by simp)] at h
        split at h
        · next hd =>
          obtain ⟨rfl, -⟩ := List.cons.inj h
          exact ⟨hd, rest, rfl⟩
        · simp [hfree] at h

end

/-! ## Local readers -/

/-- **A local reader**: it leaves an end of what it reads, and reads the same however the end is
cut. -/
structure Local {β : Type} (read : List Char → Option (β × List Char)) : Prop where
  /-- What is read is read up to an end. -/
  upTo : ∀ {cs x t}, read cs = some (x, t) → UpTo cs t fun cs t => read cs = some (x, t)

namespace Local

variable {α β γ : Type} {read : List Char → Option (β × List Char)}

/-- Something is there, and nothing is read. -/
theorem const (x : β) : Local fun cs => some (x, cs) where
  upTo h := by
    obtain ⟨rfl, rfl⟩ := Prod.mk.inj (Option.some.inj h)
    exact .refl fun _ _ => rfl

/-- Something may be there, and nothing is read. -/
theorem of_option (o : Option α) (f : α → β) : Local fun cs => o.map fun a => (f a, cs) where
  upTo h := by
    obtain ⟨a, ha, hx⟩ := Option.map_eq_some_iff.1 h
    obtain ⟨rfl, rfl⟩ := Prod.mk.inj hx
    exact .refl fun cs _ => by rw [ha, Option.map_some]

/-- Something is made of what is read. -/
theorem map (h : Local read) (f : β → γ) :
    Local fun cs => (read cs).map fun y => (f y.1, y.2) where
  upTo hread := by
    obtain ⟨y, hy, hx⟩ := Option.map_eq_some_iff.1 hread
    obtain ⟨rfl, rfl⟩ := Prod.mk.inj hx
    exact (h.upTo hy).mono fun cs t hcs => by rw [hcs, Option.map_some]

/-- What is read behind a character is read locally. -/
theorem upTo_cons (h : Local read) {whole : List Char → Option (β × List Char)} {c : Char}
    (hwhole : ∀ rest, whole (c :: rest) = read rest) {rest t : List Char} {x : β}
    (hread : read rest = some (x, t)) :
    UpTo (c :: rest) t fun cs t => whole cs = some (x, t) := by
  refine ((UpTo.cons c rest).trans (h.upTo hread)).mono ?_
  rintro _ t ⟨rest, rfl, hrest⟩
  rw [hwhole, hrest]

/-- What is left is not longer. -/
theorem length_le (h : Local read) {cs t : List Char} {x : β} (hread : read cs = some (x, t)) :
    t.length ≤ cs.length :=
  (h.upTo hread).length_le

end Local

/-! ## Names and numbers -/

/-- The name of a set is read locally. -/
theorem local_readName (flags : Flags) : Local (readName flags) := by
  refine ⟨fun {cs name t} h => ?_⟩
  have hskip := upTo_skip flags cs
  unfold readName at h
  split at h
  · next rest hcs =>
    dsimp only at h
    split at h
    · next chosen after hgather =>
      obtain ⟨rfl, rfl⟩ := Prod.mk.inj (Option.some.inj h)
      rw [hcs] at hskip
      refine (hskip.trans ((UpTo.cons _ rest).trans
        ((upTo_gather_all hgather).trans (UpTo.cons _ after)))).mono ?_
      rintro cs t ⟨_, hskip, rest, rfl, _, hgather, rfl⟩
      simp only [readName, hskip, hgather]
    · cases h
  · cases h
  · next c rest hbrace hbackslash hcs =>
    obtain ⟨rfl, rfl⟩ := Prod.mk.inj (Option.some.inj h)
    rw [hcs] at hskip
    refine (hskip.trans (UpTo.cons c rest)).mono ?_
    rintro cs t ⟨_, hskip, rfl⟩
    simp only [readName, hskip]
  · cases h

/-- A set that is named is read locally. -/
theorem local_readProperty (flags : Flags) (negated : Bool) :
    Local (readProperty flags negated) := by
  refine ⟨fun {cs x t} h => ?_⟩
  obtain ⟨⟨name, rest⟩, hname, h⟩ := Option.bind_eq_some_iff.1 h
  dsimp only at h
  split at h
  · next hunicode =>
    obtain ⟨set, hset, h⟩ := Option.bind_eq_some_iff.1 h
    obtain ⟨whole, hwhole, h⟩ := Option.bind_eq_some_iff.1 h
    obtain ⟨rfl, rfl⟩ := Prod.mk.inj (Option.some.inj h)
    refine ((local_readName flags).upTo hname).mono fun cs t hname => ?_
    simp [readProperty, hname, hunicode, hset, hwhole]
  · cases h

/-- A code point is read locally. -/
theorem local_readHex (flags : Flags) (count : Nat) : Local (readHex flags count) := by
  refine ⟨fun {cs x t} h => ?_⟩
  have hskip := upTo_skip flags cs
  unfold readHex at h
  split at h
  · next rest hcs =>
    split at h
    · next digits after hgather =>
      obtain ⟨c, hc, hx⟩ := Option.map_eq_some_iff.1 h
      obtain ⟨rfl, rfl⟩ := Prod.mk.inj hx
      rw [hcs] at hskip
      refine (hskip.trans ((UpTo.cons _ rest).trans
        ((upTo_gather_all hgather).trans (UpTo.cons _ after)))).mono ?_
      rintro cs t ⟨_, hskip, rest, rfl, _, hgather, rfl⟩
      simp only [readHex, hskip, hgather, hc, Option.map_some]
    · cases h
  · next hbrace =>
    have hgather := upTo_gather flags Text.isHexDigit count false (flags.skip cs)
    generalize flags.gather Text.isHexDigit count false (flags.skip cs) = chosen at h hgather
    obtain ⟨digits, rest⟩ := chosen
    dsimp only at h
    split at h
    · next hlength =>
      obtain ⟨c, hc, hx⟩ := Option.bind_eq_some_iff.1 h
      split at hx
      · cases hx
      · next hbyte =>
        obtain ⟨rfl, rfl⟩ := Prod.mk.inj (Option.some.inj hx)
        refine (hskip.trans ((UpTo.other hbrace).trans hgather)).mono ?_
        rintro cs t ⟨_, hskip, _, ⟨rfl, hbrace⟩, hgather⟩
        simp only [readHex, hskip, hgather, hlength, hc, Option.bind_some, if_neg hbyte, if_true]
    · cases h

/-! ## Escapes -/

/-- Letters are neither blank nor start a comment. -/
theorem not_spacing_of_isAlpha {c : Char} (h : (c.isAlpha || c == '-') = true) :
    Text.isBlank c = false ∧ c ≠ '#' := by
  rcases Bool.or_eq_true_iff.1 h with h | h
  · constructor
    · have hrange : (65 ≤ c.toNat ∧ c.toNat ≤ 90) ∨ (97 ≤ c.toNat ∧ c.toNat ≤ 122) := by
        rcases Bool.or_eq_true_iff.1 (show (c.isUpper || c.isLower) = true from h) with h | h
        · exact Or.inl (of_decide_eq_true h)
        · obtain ⟨hleast, hgreatest⟩ := Bool.and_eq_true_iff.1 h
          exact Or.inr ⟨of_decide_eq_true hleast, of_decide_eq_true hgreatest⟩
      simp [Text.isBlank, Text.blankRanges, Text.CodeRanges.contains]
      omega
    · rintro rfl
      cases h
  · rw [eq_of_beq h]
    decide

/-- **A word boundary before braces with nothing inside**, as far as they are there. -/
def BeforeBrace (flags : Flags) (x : Atom) (t : List Char) : Prop :=
  x = .place (.wordBoundary flags.unicode) ∧
    ∃ inside, t = '\x7b' :: inside ∧ flags.skip inside = []

/-- A word boundary is read locally, unless it stands before braces that are cut. -/
theorem upTo_readBoundary {flags : Flags} {cs t : List Char} {x : Atom}
    (h : readBoundary flags cs = some (x, t)) :
    UpTo cs t fun cs t => readBoundary flags cs = some (x, t) ∨ BeforeBrace flags x t := by
  unfold readBoundary at h
  dsimp only at h
  split at h
  · next inside =>
    split at h
    · cases h
    · next c more hskip =>
      split at h
      · next hc =>
        split at h
        · next name rest hgather =>
          have hinside := (UpTo.cons '\x7b' inside).trans
            ((upTo_gather_all hgather).trans (UpTo.cons _ rest))
          cases name with
          | nil => simp at h
          | cons d chosen =>
            split at h
            case h_5 => cases h
            all_goals
              next hname =>
                obtain ⟨rfl, rfl⟩ := Prod.mk.inj (Option.some.inj h)
                refine hinside.mono ?_
                rintro cs t ⟨inside', rfl, _, hgather', rfl⟩
                -- The first letter of the name is found behind what is skipped, wherever the cut is.
                obtain ⟨hd, more', hskip'⟩ := skip_of_gather (fun c => not_spacing_of_isAlpha)
                  (congrArg Prod.fst hgather')
                refine Or.inl ?_
                simp only [readBoundary, hskip', if_pos hd, hgather', hname]
        · cases h
      · next hc =>
        obtain ⟨rfl, rfl⟩ := Prod.mk.inj (Option.some.inj h)
        refine .refl fun t' ht' => ?_
        rcases ht'.cons_cases with ⟨-, hparen⟩ | ⟨inside', rfl, hinside⟩
        · cases hparen
        · -- The brace is looked into only as far as the first character that is not skipped.
          by_cases hnil : flags.skip inside' = []
          · exact Or.inr ⟨rfl, inside', rfl, hnil⟩
          · obtain ⟨z, rfl⟩ := hinside
            rw [skip_append hnil] at hskip
            obtain ⟨d, more', hd⟩ := List.exists_cons_of_ne_nil hnil
            rw [hd] at hskip
            obtain ⟨rfl, -⟩ := List.cons.inj hskip
            refine Or.inl ?_
            simp only [readBoundary, hd, if_neg hc]
  · next hbrace =>
    obtain ⟨rfl, rfl⟩ := Prod.mk.inj (Option.some.inj h)
    refine (UpTo.other hbrace).mono ?_
    rintro cs t ⟨rfl, hbrace⟩
    refine Or.inl ?_
    simp only [readBoundary]

/-- **An escape is read locally**, unless it is a word boundary before braces that are cut. -/
theorem upTo_readEscape {cs t : List Char} {x : Atom} (h : readEscape flags cs = some (x, t)) :
    UpTo cs t fun cs t => readEscape flags cs = some (x, t) ∨ BeforeBrace flags x t := by
  cases cs with
  | nil => cases h
  | cons c rest =>
    unfold readEscape at h
    dsimp only at h
    split at h
    case h_1 => exact ((local_readHex flags 2).upTo_cons (fun _ => rfl) h).mono fun _ _ => Or.inl
    case h_2 => exact ((local_readHex flags 4).upTo_cons (fun _ => rfl) h).mono fun _ _ => Or.inl
    case h_3 => exact ((local_readHex flags 8).upTo_cons (fun _ => rfl) h).mono fun _ _ => Or.inl
    case h_10 =>
      exact (((local_readProperty flags false).map .set).upTo_cons (fun _ => rfl) h).mono
        fun _ _ => Or.inl
    case h_11 =>
      exact (((local_readProperty flags true).map .set).upTo_cons (fun _ => rfl) h).mono
        fun _ _ => Or.inl
    case h_20 =>
      refine ((UpTo.cons 'b' rest).trans (upTo_readBoundary h)).mono ?_
      rintro _ t ⟨rest, rfl, h⟩
      exact h
    case h_24 =>
      split at h
      · next hplain =>
        obtain ⟨rfl, rfl⟩ := Prod.mk.inj (Option.some.inj h)
        refine (UpTo.cons c rest).mono ?_
        rintro _ t rfl
        exact Or.inl (by simp only [readEscape, hplain, if_true])
      · cases h
    case h_7 | h_8 | h_9 =>
      exact ((Local.of_option _ Atom.set).upTo_cons (fun _ => rfl) h).mono fun _ _ => Or.inl
    all_goals exact ((Local.const _).upTo_cons (fun _ => rfl) h).mono fun _ _ => Or.inl

/-! ## Items of a set -/

/-- An item is read locally, unless it is a word boundary before braces that are cut. -/
theorem upTo_readItem {cs t : List Char} {x : Atom} (h : readItem flags cs = some (x, t)) :
    UpTo cs t fun cs t => readItem flags cs = some (x, t) ∨ BeforeBrace flags x t := by
  unfold readItem at h
  split at h
  · cases h
  · next rest =>
    refine ((UpTo.cons _ rest).trans (upTo_readEscape h)).mono ?_
    rintro _ t ⟨rest, rfl, h⟩
    exact h
  · next c rest hbackslash =>
    obtain ⟨rfl, rfl⟩ := Prod.mk.inj (Option.some.inj h)
    refine (UpTo.cons c rest).mono ?_
    rintro _ t rfl
    exact Or.inl (by simp only [readItem])

end SqlBuilder.Pattern
