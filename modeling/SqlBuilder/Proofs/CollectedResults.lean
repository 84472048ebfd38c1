import Mathlib.Data.List.Forall2

/-! # Results that are collected in order

Something that may fail is done with each element of a list, one after the other, until the first
failure.  `Collects` says what that gives: the results of all elements, or the first failure.  No
element behind it has any influence. -/

namespace SqlBuilder

variable {ε α β : Type}

/-- **What is collected from a list**: the results of all elements in order, or the failure of the
first element that fails. -/
inductive Collects (f : α → Except ε β) : List α → Except ε (List β) → Prop
  /-- No element fails. -/
  | all {l : List α} {results : List β} (h : List.Forall₂ (fun a b => f a = .ok b) l results) :
    Collects f l (.ok results)
  /-- An element fails, and none before it does. -/
  | failure (before : List α) {after : List α} {a : α} {e : ε}
    (hbefore : ∀ b ∈ before, (f b).isOk = true) (ha : f a = .error e) :
    Collects f (before ++ a :: after) (.error e)

namespace Collects

variable {f : α → Except ε β} {l : List α}

/-- A result before others. -/
theorem cons {a : α} {b : β} (ha : f a = .ok b) {outcome : Except ε (List β)}
    (h : Collects f l outcome) : Collects f (a :: l) (outcome.map (b :: ·)) := by
  cases h with
  | all h => exact .all (.cons ha h)
  | failure before hbefore hfailure =>
    exact .failure (a :: before) (List.forall_mem_cons.2 ⟨by rw [ha]; rfl, hbefore⟩) hfailure

/-- **Going through a list collects** what it should. -/
theorem of_mapM (f : α → Except ε β) (l : List α) : Collects f l (l.mapM f) := by
  induction l with
  | nil => exact .all .nil
  | cons a rest ih =>
    rw [List.mapM_cons]
    cases ha : f a with
    | error e => exact .failure [] (by simp) ha
    | ok b => exact ih.cons ha

/-- Results of all elements are collected. -/
theorem mapM_of_forall₂ {results : List β}
    (h : List.Forall₂ (fun a b => f a = .ok b) l results) : l.mapM f = .ok results := by
  induction h with
  | nil => rfl
  | cons ha _ ih =>
    rw [List.mapM_cons, ha, ih]
    rfl

/-- The first failure ends the collection. -/
theorem mapM_of_failure {before : List α} {a : α} {e : ε}
    (hbefore : ∀ b ∈ before, (f b).isOk = true) (ha : f a = .error e) (after : List α) :
    (before ++ a :: after).mapM f = .error e := by
  induction before with
  | nil =>
    rw [List.nil_append, List.mapM_cons, ha]
    rfl
  | cons b rest ih =>
    obtain ⟨hb, hrest⟩ := List.forall_mem_cons.1 hbefore
    cases hresult : f b with
    | error e' =>
      rw [hresult] at hb
      cases hb
    | ok c =>
      rw [List.cons_append, List.mapM_cons, hresult, ih hrest]
      rfl

/-- Elements with results do not fail. -/
theorem isOk_of_forall₂ {results : List β}
    (h : List.Forall₂ (fun a b => f a = .ok b) l results) : ∀ a ∈ l, (f a).isOk = true := by
  induction h with
  | nil => simp
  | cons ha _ ih => exact List.forall_mem_cons.2 ⟨by rw [ha]; rfl, ih⟩

/-- Without failure there is a result for each element. -/
theorem exists_mapM_of_forall (h : ∀ a ∈ l, (f a).isOk = true) :
    ∃ results, List.Forall₂ (fun a b => f a = .ok b) l results ∧ l.mapM f = .ok results := by
  generalize houtcome : l.mapM f = outcome
  have hcollects := of_mapM f l
  rw [houtcome] at hcollects
  cases hcollects with
  | all hresults => exact ⟨_, hresults, rfl⟩
  | failure before hbefore ha =>
    have hok := h _ (List.mem_append_right before List.mem_cons_self)
    rw [ha] at hok
    cases hok

end Collects

/-- **What is collected from a list is determined by the elements.** -/
theorem mapM_eq_iff_collects {f : α → Except ε β} {l : List α} {outcome : Except ε (List β)} :
    l.mapM f = outcome ↔ Collects f l outcome := by
  constructor
  · rintro rfl
    exact .of_mapM f l
  · intro h
    cases h with
    | all h => exact Collects.mapM_of_forall₂ h
    | failure before hbefore ha => exact Collects.mapM_of_failure hbefore ha _

end SqlBuilder
