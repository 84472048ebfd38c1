import SqlBuilder.Field.Validation
import SqlBuilder.Model
import SqlBuilder.Pattern.Whole
import SqlBuilder.Proofs.PatternGroups
import SqlBuilder.Proofs.PatternMatches

/-! # Patterns for whole texts

A pattern for a whole text is read together with the anchors around it.  Where the text of the
pattern closes no parenthesis that it does not open, it is well formed on its own, and exactly the
texts are accepted that it matches from the first to the last character.  Otherwise the text is no
pattern on its own, and its closing parenthesis ends the group between the anchors. -/

namespace SqlBuilder

namespace Pattern

/-! ## Texts on their own -/

/-- What is read of a text on its own, up to a closing parenthesis or the end. -/
def readAlone (text : String) : Option (Written Pattern × Progress) :=
  readGroup (text.toList.length + 1) depthLimit {} ⟨{}, [], 0, text.toList⟩

/-- **The pattern that a well-formed text writes**, however large its automaton is. -/
def ofWellFormed? (text : String) : Option Pattern :=
  match readAlone text with
  | some (p, ⟨_, _, _, []⟩) => if p.depth ≤ depthLimit then some p.value else none
  | _ => none

/-- **Whether a text closes a parenthesis that it does not open.** -/
def closesUnopened (text : String) : Bool :=
  match readAlone text with
  | some (_, ⟨_, _, _, ')' :: _⟩) => true
  | _ => false

/-- A text writes a pattern iff it is well formed and the automaton is not too large. -/
theorem ofText?_eq (text : String) :
    Pattern.ofText? text = (ofWellFormed? text).filter Automaton.fits := by
  unfold Pattern.ofText? ofChars? ofWellFormed? readAlone
  generalize readGroup (text.toList.length + 1) depthLimit {} ⟨{}, [], 0, text.toList⟩ = found
  rcases found with _ | ⟨p, flags, names, groups, _ | ⟨c, rest⟩⟩
  · rfl
  · by_cases hdepth : p.depth ≤ depthLimit
    · by_cases hfits : Automaton.fits p.value = true <;> simp [hdepth, hfits, Option.filter]
    · simp [hdepth]
  · rfl

/-- A text that closes a parenthesis that it does not open is not well formed. -/
theorem ofWellFormed?_of_closesUnopened {text : String} (h : closesUnopened text = true) :
    ofWellFormed? text = none := by
  unfold closesUnopened at h
  unfold ofWellFormed?
  split at h
  · next hread => rw [hread]
  · cases h

end Pattern

namespace WholePattern

open Pattern

/-! ## Between the anchors -/

/-- The characters of a pattern with its anchors. -/
theorem toList_anchored (text : String) : (anchored text).toList =
    '^' :: '(' :: '?' :: ':' :: (text.toList ++ [')', '$']) := by
  simp [anchored]

/-- The piece of an anchor. -/
def anchor (a : Assertion) : Written Pattern := ⟨.assertion a, 0⟩

/-- What is read first is the anchor of the start and the group between the anchors. -/
theorem readGroup_start {n room : Nat} {cs : List Char} {r : Written Pattern × Progress}
    (h : readGroup (n + 2) (room + 1) {} ⟨{}, [], 0, '^' :: '(' :: '?' :: ':' :: cs⟩ = some r) :
    ∃ q flags names groups rest,
      readGroup n room {} ⟨{}, [], 0, cs⟩ = some (q, ⟨flags, names, groups, ')' :: rest⟩) ∧
        readGroup n (room + 1) ((({} : Draft).push (anchor .textStart)).push (ofGroup false 1 q))
          ⟨{}, names, groups, rest⟩ = some r := by
  have hstart : readGroup (n + 2) (room + 1) {} ⟨{}, [], 0, '^' :: '(' :: '?' :: ':' :: cs⟩ =
      match readGroup n room {} ⟨{}, [], 0, cs⟩ with
      | some (q, ⟨_, names, groups, ')' :: rest⟩) =>
        readGroup n (room + 1) ((({} : Draft).push (anchor .textStart)).push (ofGroup false 1 q))
          ⟨{}, names, groups, rest⟩
      | _ => none := rfl
  rw [hstart] at h
  split at h
  · next q flags names groups rest hinner => exact ⟨q, flags, names, groups, rest, hinner, h⟩
  · cases h

/-- What is read last is the anchor of the end. -/
theorem readGroup_end (n room : Nat) (d : Draft) (names : List (List Char)) (groups : Nat) :
    readGroup (n + 2) room d ⟨{}, names, groups, ['$']⟩ =
      some ((d.push (anchor .textEnd)).whole, ⟨{}, names, groups, []⟩) := by
  rfl

/-- Where a closing parenthesis stands in a text with the end of the anchors, it stands in the text
or is the one of the anchors. -/
theorem closing_of_append {cs used rest : List Char}
    (h : cs ++ [')', '$'] = used ++ ')' :: rest) :
    ∃ t, cs = used ++ t ∧ ')' :: rest = t ++ [')', '$'] := by
  rcases List.append_eq_append_iff.1 h with ⟨more, hused, hclosing⟩ | ⟨t, hcs, hrest⟩
  · match more, hclosing with
    | [], hclosing => exact ⟨[], by rw [hused]; simp, hclosing.symm⟩
    | [_], hclosing => simp at hclosing
    | _ :: _ :: _, hclosing => simp at hclosing
  · exact ⟨t, hcs, hrest⟩

/-- The pattern between the anchors. -/
theorem whole_anchored (q : Written Pattern) :
    ((((({} : Draft).push (anchor .textStart)).push (ofGroup false 1 q)).push
      (anchor .textEnd)).whole) =
        ⟨concat [.assertion .textStart, q.value, .assertion .textEnd], q.depth + 2⟩ := by
  simp [Draft.whole, Draft.alternative, Draft.push, anchor, ofGroup, depthOfParts]

/-- **What is read between the anchors is read of the text on its own**: the whole text, or what
stands before a parenthesis that it does not open. -/
theorem readAlone_of_ofText? {text : String} {p : WholePattern} (h : ofText? text = some p) :
    ∃ q flags names groups rest, readAlone text = some (q, ⟨flags, names, groups, rest⟩) ∧
      ((rest = [] ∧ q.depth ≤ depthLimit ∧
        p.pattern = concat [.assertion .textStart, q.value, .assertion .textEnd]) ∨
          ∃ more, rest = ')' :: more) := by
  obtain ⟨pattern, hpattern, rfl⟩ := Option.map_eq_some_iff.1 h
  unfold Pattern.ofText? ofChars? at hpattern
  split at hpattern
  · next w _ _ _ hread =>
    split at hpattern
    · next hwhole =>
      obtain rfl := Option.some.inj hpattern
      rw [toList_anchored, show ('^' :: '(' :: '?' :: ':' :: (text.toList ++ [')', '$'])).length + 1
        = text.toList.length + 5 + 2 by simp] at hread
      obtain ⟨q, flags, names, groups, rest, hinner, houter⟩ := readGroup_start hread
      obtain ⟨used, hused, hcut⟩ := upTo_readGroup hinner
      obtain ⟨t, htext, hrest⟩ := closing_of_append hused
      -- The anchors are cut from the text between them.
      have halone := hcut t ⟨['$'], hrest⟩ (text.toList.length + 1) depthLimit
        (by rw [htext]; exact Nat.lt_succ_self _) (by decide)
      rw [← htext] at halone
      refine ⟨q, flags, names, groups, t, halone, ?_⟩
      cases t with
      | nil =>
        obtain ⟨-, rfl⟩ := List.cons.inj hrest
        rw [readGroup_end, whole_anchored] at houter
        obtain ⟨rfl, -⟩ := Prod.mk.inj (Option.some.inj houter)
        have hdepth := of_decide_eq_true (Bool.and_eq_true_iff.1 hwhole).1
        exact Or.inl ⟨rfl, by dsimp only at hdepth; omega, rfl⟩
      | cons c more =>
        obtain ⟨rfl, -⟩ := List.cons.inj hrest
        exact Or.inr ⟨more, rfl⟩
    · cases hpattern
  · cases hpattern

/-- **A pattern for a whole text is well formed on its own and accepts what it matches as a whole**,
or its text closes a parenthesis that it does not open. -/
theorem accepts_iff_matchesWhole {text : String} {p : WholePattern} (h : ofText? text = some p) :
    closesUnopened text = true ∨
      ∃ q, ofWellFormed? text = some q ∧ ∀ s, p.accepts s = true ↔ q.MatchesWhole s := by
  obtain ⟨q, flags, names, groups, rest, halone, ⟨rfl, hdepth, hpattern⟩ | ⟨more, rfl⟩⟩ :=
    readAlone_of_ofText? h
  · refine Or.inr ⟨q.value, ?_, fun s => ?_⟩
    · simp only [ofWellFormed?, halone, if_pos hdepth]
    · rw [accepts, hpattern, matchesIn_anchored]
  · exact Or.inl (by simp only [closesUnopened, halone])

end WholePattern

/-! ## Fields with a pattern -/

namespace FieldKind

open Pattern

/-- A text is checked by its length and by the pattern. -/
theorem check_text_iff (maxLength : Nat) (p : WholePattern) (s : String) :
    (FieldKind.char maxLength (some p)).check (.text s) = .ok () ↔
      s.length ≤ maxLength ∧ p.accepts s = true := by
  have hcheck : (FieldKind.char maxLength (some p)).check (.text s) =
      (checkLength maxLength s).bind fun _ => checkPattern (some p) s := rfl
  rw [hcheck]
  unfold checkLength checkPattern
  by_cases hlong : maxLength < s.length
  · simp [Except.bind, hlong, Nat.not_le.2 hlong]
  · by_cases haccepts : p.accepts s = true <;>
      simp [Except.bind, hlong, Nat.not_lt.1 hlong, haccepts]

/-- What a field accepts passes the check of its kind. -/
theorem check_of_validate {f : Field} {s : String} (h : f.validate (.text s) = .ok ()) :
    f.kind.check (.text s) = .ok () := by
  unfold Field.validate at h
  split at h
  · next hnull => cases hnull
  · split at h
    · cases h
    · split at h
      · cases h
      · exact h

/-- The kind with a pattern that can be read, and what it says of some texts. -/
theorem exists_patterned (maxLength : Nat) (text : String) (answers : List (String × Bool))
    (h : ((WholePattern.ofText? text).map fun p => answers.map fun answer => p.accepts answer.1) =
      some (answers.map Prod.snd)) :
    ∃ p, FieldKind.patterned maxLength text = .ok (.char maxLength (some p)) ∧
      ∀ answer ∈ answers, p.accepts answer.1 = answer.2 := by
  obtain ⟨p, hp, hanswers⟩ := Option.map_eq_some_iff.1 h
  refine ⟨p, by rw [FieldKind.patterned, hp], fun answer hanswer => ?_⟩
  exact List.map_inj_left.1 hanswers answer hanswer

/-- **A pattern constrains whole values, unless its text closes a parenthesis that it does not
open.**  If it does not, then the text is a well-formed pattern on its own, and the kind accepts the
texts that are not too long and that this pattern matches from the first to the last character.  If
it does, then the text is no pattern. -/
theorem patterned_constrains_whole {maxLength : Nat} {text : String} {kind : FieldKind}
    (h : FieldKind.patterned maxLength text = .ok kind) :
    (closesUnopened text = false → ∃ q, ofWellFormed? text = some q ∧
      (∀ s, kind.check (.text s) = .ok () ↔ s.length ≤ maxLength ∧ q.MatchesWhole s) ∧
        ∀ f : Field, f.kind = kind → ∀ s, f.validate (.text s) = .ok () → q.MatchesWhole s) ∧
    (closesUnopened text = true → Pattern.ofText? text = none) := by
  constructor
  · intro hopen
    unfold FieldKind.patterned at h
    split at h
    · next p hp =>
      obtain rfl := Except.ok.inj h
      rcases WholePattern.accepts_iff_matchesWhole hp with hcloses | ⟨q, hq, hwhole⟩
      · rw [hcloses] at hopen
        cases hopen
      · have hcheck : ∀ s, (FieldKind.char maxLength (some p)).check (.text s) = .ok () ↔
            s.length ≤ maxLength ∧ q.MatchesWhole s := by
          intro s
          rw [check_text_iff, hwhole]
        refine ⟨q, hq, hcheck, ?_⟩
        rintro f hkind s hvalid
        have hvalue := check_of_validate hvalid
        rw [hkind, hcheck] at hvalue
        exact hvalue.2
    · cases h
  · intro hcloses
    rw [ofText?_eq, ofWellFormed?_of_closesUnopened hcloses]
    rfl

/-- Codes of three letters, a hyphen and digits: nothing may stand before them. -/
theorem patterned_constrains_code :
    closesUnopened "[A-Z]{3}-[0-9]+" = false ∧
      ∃ kind, FieldKind.patterned 8 "[A-Z]{3}-[0-9]+" = .ok kind ∧
        ∃ q, ofWellFormed? "[A-Z]{3}-[0-9]+" = some q ∧ q.MatchesWhole "ABC-12" ∧
          ¬q.MatchesWhole "xABC-12" := by
  have hopen : closesUnopened "[A-Z]{3}-[0-9]+" = false := by decide +kernel
  obtain ⟨p, hkind, hanswers⟩ := exists_patterned 8 "[A-Z]{3}-[0-9]+"
    [("ABC-12", true), ("xABC-12", false)] (by decide +kernel)
  obtain ⟨q, hq, hcheck, -⟩ := (patterned_constrains_whole hkind).1 hopen
  refine ⟨hopen, _, hkind, q, hq, ?_, fun hwhole => ?_⟩
  · have haccepts := hanswers ("ABC-12", true) (by simp)
    exact ((hcheck _).1 ((check_text_iff 8 p _).2 ⟨by decide, haccepts⟩)).2
  · have haccepts := ((check_text_iff 8 p _).1 ((hcheck "xABC-12").2 ⟨by decide, hwhole⟩)).2
    rw [hanswers ("xABC-12", false) (by simp)] at haccepts
    cases haccepts

/-- **A text that is no pattern can be the pattern of a field**, and a value is accepted of which
only the start is checked: the closing parenthesis ends the group between the anchors. -/
theorem patterned_of_unopened : ∃ kind, FieldKind.patterned 10 "a)|(?:b" = .ok kind ∧
    Pattern.ofText? "a)|(?:b" = none ∧ kind.check (.text "axx") = .ok () := by
  obtain ⟨p, hkind, hanswers⟩ := exists_patterned 10 "a)|(?:b" [("axx", true)] (by decide +kernel)
  exact ⟨_, hkind, by decide +kernel,
    (check_text_iff 10 p "axx").2 ⟨by decide, hanswers ("axx", true) (by simp)⟩⟩

end FieldKind

end SqlBuilder
