import Mathlib.Logic.Function.Iterate
import SqlBuilder.Pattern.Combination

/-! # What patterns match

`Pattern.Matches` says which stretches of a text a pattern matches, by the form of the pattern.  The
search for matches goes through lists of positions and gives up repeating as soon as nothing new is
found; it finds the ends of exactly these stretches (`Pattern.mem_reach_iff`). -/

namespace SqlBuilder

/-! ## Steps -/

/-- **So many steps** of a relation between positions, one after another. -/
def Steps (r : Nat → Nat → Prop) : Nat → Nat → Nat → Prop
  | 0, i, j => i = j
  | n + 1, i, j => ∃ k, r i k ∧ Steps r n k j

namespace Steps

variable {r : Nat → Nat → Prop}

/-- Steps add up. -/
theorem add_iff (m n i j : Nat) : Steps r (m + n) i j ↔ ∃ k, Steps r m i k ∧ Steps r n k j := by
  induction m generalizing i with
  | zero => simp [Steps]
  | succ m ih =>
    rw [Nat.succ_add_eq_add_succ, Nat.add_succ, Steps]
    simp only [ih, Steps]
    exact ⟨fun ⟨k, hk, l, hl, hj⟩ => ⟨l, ⟨k, hk, hl⟩, hj⟩,
      fun ⟨l, ⟨k, hk, hl⟩, hj⟩ => ⟨k, hk, l, hl, hj⟩⟩

/-- One more step at the end. -/
theorem succ_iff (n i j : Nat) : Steps r (n + 1) i j ↔ ∃ k, Steps r n i k ∧ r k j := by
  rw [add_iff]
  simp [Steps]

/-- **A relation that goes forwards**, up to some position at most, or stays where it is. -/
def Forward (size : Nat) (r : Nat → Nat → Prop) : Prop :=
  ∀ i j, r i j → i = j ∨ (i < j ∧ j ≤ size)

/-- Several steps go forwards if each of them does. -/
theorem forward {size : Nat} (hr : Forward size r) (n : Nat) : Forward size (Steps r n) := by
  induction n with
  | zero => exact fun i j h => Or.inl h
  | succ n ih =>
    rintro i j ⟨k, hk, hsteps⟩
    rcases hr i k hk, ih k j hsteps with ⟨rfl | ⟨hik, hk⟩, rfl | ⟨hkj, hj⟩⟩
    · exact Or.inl rfl
    · exact Or.inr ⟨hkj, hj⟩
    · exact Or.inr ⟨hik, hk⟩
    · exact Or.inr ⟨Nat.lt_trans hik hkj, hj⟩

/-- **Steps that stay where they are can be left out**, so that no more are needed than there are
positions. -/
theorem shorten {size : Nat} (hr : Forward size r) {n i j : Nat} (h : Steps r n i j) :
    ∃ m, m ≤ n ∧ m ≤ j - i ∧ Steps r m i j := by
  induction n generalizing i with
  | zero => exact ⟨0, Nat.le_refl 0, Nat.zero_le _, h⟩
  | succ n ih =>
    obtain ⟨k, hk, hsteps⟩ := h
    obtain ⟨m, hmn, hmj, hm⟩ := ih hsteps
    rcases hr i k hk with rfl | ⟨hik, -⟩
    · exact ⟨m, by omega, hmj, hm⟩
    · have hkj : k ≤ j := by
        rcases forward hr m k j hm with rfl | ⟨hkj, -⟩
        · exact Nat.le_refl k
        · exact Nat.le_of_lt hkj
      exact ⟨m + 1, by omega, by omega, k, hk, hm⟩

/-- Steps from one position to another, not more than there are positions. -/
theorem shorten_to_size {size : Nat} (hr : Forward size r) {n i j : Nat} (h : Steps r n i j) :
    ∃ m, m ≤ n ∧ m ≤ size ∧ Steps r m i j := by
  obtain ⟨m, hmn, hmj, hm⟩ := shorten hr h
  refine ⟨m, hmn, ?_, hm⟩
  rcases forward hr n i j h with rfl | ⟨-, hj⟩
  · omega
  · omega

end Steps

namespace Pattern

/-! ## Searching step by step -/

/-- **A search that makes one step** from every position of a list. -/
def Searches (f : List Nat → List Nat) (r : Nat → Nat → Prop) : Prop :=
  ∀ starts j, j ∈ f starts ↔ ∃ i ∈ starts, r i j

section

variable {f : List Nat → List Nat} {r : Nat → Nat → Prop}

/-- Applying a search until nothing changes is applying it so many times. -/
theorem iterate_eq (f : List Nat → List Nat) (n : Nat) (starts : List Nat) :
    iterate f n starts = f^[n] starts := by
  induction n generalizing starts with
  | zero => rfl
  | succ n ih =>
    rw [iterate]
    by_cases hfixed : f starts = starts
    · rw [Function.iterate_fixed hfixed]
      exact if_pos hfixed
    · rw [Function.iterate_succ_apply, ← ih]
      exact if_neg hfixed

/-- What is seen stays so. -/
theorem mem_spread_of_mem {seen : List Nat} {j : Nat} (hj : j ∈ seen) (n : Nat)
    (frontier : List Nat) : j ∈ spread f n seen frontier := by
  induction n generalizing seen frontier with
  | zero => exact hj
  | succ n ih =>
    rw [spread]
    split
    · exact hj
    · exact ih ((mem_mergePositions _ _ j).2 (Or.inl hj)) _

variable (hf : Searches f r)
include hf

/-- A search that is applied so many times makes so many steps. -/
theorem mem_iterate_iff (n : Nat) (starts : List Nat) (j : Nat) :
    j ∈ iterate f n starts ↔ ∃ i ∈ starts, Steps r n i j := by
  rw [iterate_eq]
  induction n generalizing j with
  | zero => simp [Steps]
  | succ n ih =>
    rw [Function.iterate_succ_apply', hf]
    simp only [ih, Steps.succ_iff]
    exact ⟨fun ⟨k, ⟨i, hi, hk⟩, hj⟩ => ⟨i, hi, k, hk, hj⟩,
      fun ⟨i, hi, k, hk, hj⟩ => ⟨k, ⟨i, hi, hk⟩, hj⟩⟩

/-- Spreading finds nothing that is too many steps away. -/
theorem steps_of_mem_spread {starts seen frontier : List Nat} {bound : Nat}
    (hseen : ∀ j ∈ seen, ∃ i ∈ starts, ∃ m ≤ bound, Steps r m i j)
    (hfrontier : ∀ j ∈ frontier, ∃ i ∈ starts, ∃ m ≤ bound, Steps r m i j) {n j : Nat}
    (hj : j ∈ spread f n seen frontier) : ∃ i ∈ starts, ∃ m ≤ bound + n, Steps r m i j := by
  induction n generalizing seen frontier bound with
  | zero => exact hseen j hj
  | succ n ih =>
    have hlater : ∀ k, (∃ i ∈ starts, ∃ m ≤ bound, Steps r m i k) →
        ∃ i ∈ starts, ∃ m ≤ bound + 1, Steps r m i k := by
      rintro k ⟨i, hi, m, hm, hsteps⟩
      exact ⟨i, hi, m, by omega, hsteps⟩
    have hfresh : ∀ k ∈ withoutPositions (f frontier) seen,
        ∃ i ∈ starts, ∃ m ≤ bound + 1, Steps r m i k := by
      intro k hk
      obtain ⟨l, hl, hlk⟩ := (hf _ k).1 (mem_of_mem_withoutPositions hk)
      obtain ⟨i, hi, m, hm, hsteps⟩ := hfrontier l hl
      exact ⟨i, hi, m + 1, by omega, (Steps.succ_iff m i k).2 ⟨l, hsteps, hlk⟩⟩
    rw [spread] at hj
    split at hj
    · obtain ⟨i, hi, m, hm, hsteps⟩ := hseen j hj
      exact ⟨i, hi, m, by omega, hsteps⟩
    · rw [Nat.add_comm n 1, ← Nat.add_assoc]
      refine ih (fun k hk => ?_) hfresh hj
      rcases (mem_mergePositions _ _ k).1 hk with hk | hk
      · exact hlater k (hseen k hk)
      · exact hfresh k hk

/-- **Spreading finds all that is so many steps away**, if of what is seen only the frontier has
not been looked behind. -/
theorem mem_spread_of_steps {seen frontier : List Nat}
    (hinside : ∀ k ∈ seen, k ∈ frontier ∨ ∀ l, r k l → l ∈ seen) {n m i j : Nat} (hm : m ≤ n)
    (hi : i ∈ seen) (hsteps : Steps r m i j) : j ∈ spread f n seen frontier := by
  induction n generalizing seen frontier m i with
  | zero =>
    obtain rfl := Nat.le_zero.1 hm
    exact hsteps ▸ hi
  | succ n ih =>
    -- One step behind what is seen is seen now or fresh.
    have hnext : ∀ k ∈ seen, ∀ l, r k l → l ∈ seen ∨ l ∈ withoutPositions (f frontier) seen := by
      intro k hk l hl
      rcases hinside k hk with hk | hclosed
      · exact (mem_withoutPositions_or_mem seen ((hf _ l).2 ⟨k, hk, hl⟩)).symm
      · exact Or.inl (hclosed l hl)
    rw [spread]
    split
    · next hempty =>
      -- Nothing is fresh, so steps do not lead out of what is seen.
      clear hm
      induction m generalizing i with
      | zero => exact hsteps ▸ hi
      | succ m ihm =>
        obtain ⟨k, hk, hrest⟩ := hsteps
        refine ihm ?_ hrest
        rcases hnext i hi k hk with h | h
        · exact h
        · rw [List.isEmpty_iff.1 hempty] at h
          cases h
    · have hmerged : ∀ k, k ∈ seen ∨ k ∈ withoutPositions (f frontier) seen →
          k ∈ mergePositions seen (withoutPositions (f frontier) seen) := fun k =>
        (mem_mergePositions _ _ k).2
      cases m with
      | zero => exact hsteps ▸ mem_spread_of_mem (hmerged i (Or.inl hi)) _ _
      | succ m =>
        obtain ⟨k, hk, hrest⟩ := hsteps
        refine ih (fun l hl => ?_) (by omega) (hmerged k (hnext i hi k hk)) hrest
        rcases (mem_mergePositions _ _ l).1 hl with hl | hl
        · exact Or.inr fun l' hl' => hmerged l' (hnext l hl l' hl')
        · exact Or.inl hl

/-- **Spreading makes at most so many steps.** -/
theorem mem_spread_iff (n : Nat) (starts : List Nat) (j : Nat) :
    j ∈ spread f n starts starts ↔ ∃ i ∈ starts, ∃ m ≤ n, Steps r m i j := by
  constructor
  · intro hj
    have hstart : ∀ k ∈ starts, ∃ i ∈ starts, ∃ m ≤ 0, Steps r m i k := fun k hk =>
      ⟨k, hk, 0, Nat.le_refl 0, rfl⟩
    obtain ⟨i, hi, m, hm, hsteps⟩ := steps_of_mem_spread hf hstart hstart hj
    exact ⟨i, hi, m, by omega, hsteps⟩
  · rintro ⟨i, hi, m, hm, hsteps⟩
    exact mem_spread_of_steps hf (fun k hk => Or.inl hk) hm hi hsteps

end

/-! ## Matches -/

/-- **Which stretches of a text a pattern matches**: whether there is a match from one position to
another. -/
def Matches (text : Array Char) : Pattern → Nat → Nat → Prop
  | empty, i, j => i = j
  | literal cs, i, j => cs <+: text.toList.drop i ∧ j = i + cs.length
  | oneOf set, i, j => (∃ c, text[i]? = some c ∧ set.contains c = true) ∧ j = i + 1
  | assertion a, i, j => a.holds text i = true ∧ i = j
  | sequence a b, i, j => ∃ k, a.Matches text i k ∧ b.Matches text k j
  | choice a b, i, j => a.Matches text i j ∨ b.Matches text i j
  | repetition a least most, i, j =>
    ∃ n, least ≤ n ∧ (∀ bound ∈ most, n - least ≤ bound - least) ∧ Steps (a.Matches text) n i j
  | group _ a, i, j => a.Matches text i j

variable {text : Array Char}

/-- Going further by one character. -/
theorem mem_advance_iff (accepts : Char → Bool) (starts : List Nat) (j : Nat) :
    j ∈ advance text accepts starts ↔
      ∃ i ∈ starts, (∃ c, text[i]? = some c ∧ accepts c = true) ∧ j = i + 1 := by
  simp only [advance, List.mem_filterMap, Option.ite_none_right_eq_some, Option.any_eq_true,
    Option.some.injEq]
  exact exists_congr fun i => and_congr_right fun _ => and_congr_right fun _ => eq_comm

/-- A text from a position on starts with the character there. -/
theorem drop_eq_cons {i : Nat} {c : Char} (h : text[i]? = some c) :
    text.toList.drop i = c :: text.toList.drop (i + 1) := by
  obtain ⟨hi, rfl⟩ := Array.getElem?_eq_some_iff.1 h
  exact List.drop_eq_getElem_cons (by simpa using hi)

/-- There is a character where some characters stand. -/
theorem exists_of_prefix_drop {i : Nat} {c : Char} {rest : List Char}
    (h : c :: rest <+: text.toList.drop i) : ∃ d, text[i]? = some d := by
  have hlength := h.length_le
  rw [List.length_drop, List.length_cons] at hlength
  have hi : i < text.size := by
    rw [← Array.length_toList]
    omega
  exact ⟨text[i], Array.getElem?_eq_getElem hi⟩

/-- Going further by some characters. -/
theorem mem_foldl_advance_iff (cs : List Char) (starts : List Nat) (j : Nat) :
    j ∈ cs.foldl (fun starts c => advance text (· == c) starts) starts ↔
      ∃ i ∈ starts, cs <+: text.toList.drop i ∧ j = i + cs.length := by
  induction cs generalizing starts with
  | nil => simp
  | cons c rest ih =>
    rw [List.foldl_cons, ih]
    simp only [mem_advance_iff]
    constructor
    · rintro ⟨_, ⟨i, hi, ⟨d, hd, hcd⟩, rfl⟩, hrest, rfl⟩
      obtain rfl := eq_of_beq hcd
      refine ⟨i, hi, ?_, by rw [List.length_cons]; omega⟩
      rw [drop_eq_cons hd]
      exact List.cons_prefix_cons.2 ⟨rfl, hrest⟩
    · rintro ⟨i, hi, hstart, rfl⟩
      obtain ⟨d, hd⟩ := exists_of_prefix_drop hstart
      rw [drop_eq_cons hd] at hstart
      obtain ⟨rfl, hrest⟩ := List.cons_prefix_cons.1 hstart
      exact ⟨i + 1, ⟨i, hi, ⟨c, hd, beq_self_eq_true c⟩, rfl⟩, hrest,
        by rw [List.length_cons]; omega⟩

/-- **Matches go forwards.** -/
theorem forward_matches (text : Array Char) (p : Pattern) :
    Steps.Forward text.size (p.Matches text) := by
  induction p with
  | empty => exact fun i j h => Or.inl h
  | literal cs =>
    rintro i j ⟨hstart, rfl⟩
    have hlength := hstart.length_le
    have hsize : text.toList.length = text.size := Array.length_toList
    rw [List.length_drop, hsize] at hlength
    omega
  | oneOf set =>
    rintro i j ⟨⟨c, hc, -⟩, rfl⟩
    have hi := (Array.getElem?_eq_some_iff.1 hc).1
    omega
  | assertion a => exact fun i j h => Or.inl h.2
  | sequence a b iha ihb =>
    rintro i j ⟨k, ha, hb⟩
    have hik := iha i k ha
    have hkj := ihb k j hb
    omega
  | choice a b iha ihb => exact fun i j h => h.elim (iha i j) (ihb i j)
  | repetition a least most ih =>
    rintro i j ⟨n, -, -, hsteps⟩
    exact Steps.forward ih n i j hsteps
  | group index a ih => exact ih

/-- A search for matches goes on from every position. -/
theorem searches_reach (p : Pattern) : Searches (p.reach text) (p.Matches text) := by
  induction p with
  | empty => simp [Searches, Matches]
  | literal cs => exact mem_foldl_advance_iff cs
  | oneOf set => exact mem_advance_iff set.contains
  | assertion a => simp [Searches, Matches]
  | sequence a b iha ihb =>
    intro starts j
    rw [reach_sequence, ihb]
    simp only [iha starts, Matches]
    exact ⟨fun ⟨k, ⟨i, hi, hk⟩, hj⟩ => ⟨i, hi, k, hk, hj⟩,
      fun ⟨i, hi, k, hk, hj⟩ => ⟨k, ⟨i, hi, hk⟩, hj⟩⟩
  | choice a b iha ihb =>
    intro starts j
    rw [mem_reach_choice, iha, ihb]
    simp only [Matches, and_or_left, exists_or]
  | repetition a least most ih =>
    intro starts j
    unfold reach
    dsimp only
    rw [mem_spread_iff ih]
    simp only [mem_iterate_iff ih, Matches]
    constructor
    · rintro ⟨k, ⟨i, hi, hrequired⟩, m, hm, hfurther⟩
      refine ⟨i, hi, least + m, Nat.le_add_right least m, fun bound hbound => ?_,
        (Steps.add_iff least m i j).2 ⟨k, hrequired, hfurther⟩⟩
      obtain rfl := Option.mem_def.1 hbound
      dsimp only at hm
      omega
    · rintro ⟨i, hi, n, hleast, hmost, hsteps⟩
      obtain ⟨m, rfl⟩ := Nat.exists_eq_add_of_le hleast
      obtain ⟨k, hrequired, hfurther⟩ := (Steps.add_iff least m i j).1 hsteps
      -- More steps than there are positions are never needed.
      obtain ⟨m', hm', hsize, hfewer⟩ :=
        Steps.shorten_to_size (forward_matches text a) hfurther
      refine ⟨k, ⟨i, hi, hrequired⟩, m', ?_, hfewer⟩
      cases most with
      | none =>
        dsimp only
        omega
      | some bound =>
        have hbound := hmost bound rfl
        dsimp only
        omega
  | group index a ih => exact ih

/-- **The search finds the ends of all matches** that start at one of some positions, and nothing
else. -/
theorem mem_reach_iff (p : Pattern) (starts : List Nat) (j : Nat) :
    j ∈ p.reach text starts ↔ ∃ i ∈ starts, p.Matches text i j :=
  searches_reach p starts j

/-- A match from a position is what the search finds from there. -/
theorem matches_iff_mem_reach (p : Pattern) (i j : Nat) :
    p.Matches text i j ↔ j ∈ p.reach text [i] := by
  simp [mem_reach_iff]

/-- **A pattern has a match in a text** iff the search finds one. -/
theorem matchesIn_iff (p : Pattern) (text : Array Char) :
    p.matchesIn text = true ↔ ∃ i j, i ≤ text.size ∧ p.Matches text i j := by
  rw [matchesIn, Bool.not_eq_true', List.isEmpty_eq_false_iff_exists_mem]
  simp only [mem_reach_iff, List.mem_range, Nat.lt_succ_iff]
  exact ⟨fun ⟨j, i, hi, hj⟩ => ⟨i, j, hi, hj⟩, fun ⟨i, j, hi, hj⟩ => ⟨j, i, hi, hj⟩⟩

/-- Patterns one after another match where each of them does. -/
theorem matches_concat_cons (p : Pattern) (ps : List Pattern) (i j : Nat) :
    (concat (p :: ps)).Matches text i j ↔
      ∃ k, p.Matches text i k ∧ (concat ps).Matches text k j := by
  rw [matches_iff_mem_reach, reach_concat, List.foldl_cons, ← reach_concat, mem_reach_iff]
  simp only [← matches_iff_mem_reach]

/-- **A text that a pattern matches from its first to its last character.** -/
def MatchesWhole (p : Pattern) (s : String) : Prop :=
  p.Matches s.toList.toArray 0 s.toList.length

/-- **Between assertions of the start and of the end, a pattern has a match in a text** iff it
matches it from the first to the last character. -/
theorem matchesIn_anchored (p : Pattern) (s : String) :
    (concat [.assertion .textStart, p, .assertion .textEnd]).matchesIn s.toList.toArray = true ↔
      p.MatchesWhole s := by
  rw [matchesIn_iff]
  simp only [matches_concat_cons, concat_nil, Matches, Assertion.holds, beq_iff_eq]
  constructor
  · rintro ⟨i, j, -, _, ⟨rfl, rfl⟩, k, hk, _, ⟨rfl, rfl⟩, rfl⟩
    exact hk
  · intro h
    exact ⟨0, _, Nat.zero_le _, 0, ⟨rfl, rfl⟩, _, h, _, ⟨rfl, rfl⟩, rfl⟩

end Pattern
end SqlBuilder
