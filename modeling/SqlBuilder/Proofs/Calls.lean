import Mathlib.Data.List.Forall2
import SqlBuilder.Statement

/-! # Builder calls that differ in their values

The calls that build a statement, of any kind, and the values that they put in, in order.  Two
sequences of calls are alike for a relation of values if they are equal but for related values at
the same places, and put in no SQL text as it is (`StatementCalls.Alike`).  Such calls are alike for
any relation that holds of their values place by place (`StatementCalls.Alike.of_values`); all calls
that are alike to given ones are alike (`StatementCalls.Alike.fork`), and there are such calls with
any related values in the places (`StatementCalls.Alike.exists_with_values`). -/

namespace SqlBuilder

variable {V W : Value → Value → Prop}

/-- **The relation of any two values**, under which only the places of values matter. -/
def Value.AnyTwo : Value → Value → Prop := fun _ _ => True

/-- Two lists that are related to a third are related to each other. -/
theorem forall₂_fork {α β γ : Type} {R : α → β → Prop} {S : α → γ → Prop} {T : β → γ → Prop}
    {l : List α} {m : List β} {n : List γ} (h : List.Forall₂ R l m) (h' : List.Forall₂ S l n)
    (hT : ∀ a b c, R a b → S a c → T b c) : List.Forall₂ T m n := by
  induction h generalizing n with
  | nil =>
    cases h'
    exact .nil
  | cons hab _ ih =>
    cases h' with
    | cons hac hrest => exact .cons (hT _ _ _ hab hac) (ih hrest)

/-- A list that is related to another is related to itself, as its members are. -/
theorem forall₂_self {α β : Type} {R : α → β → Prop} {S : α → α → Prop} {l : List α} {m : List β}
    (h : List.Forall₂ R l m) (hS : ∀ a b, R a b → S a a) : List.Forall₂ S l l := by
  induction h with
  | nil => exact .nil
  | cons hab _ ih => exact .cons (hS _ _ hab) ih

/-- Lists of any values are related if they both are so to a third. -/
theorem forall₂_anyTwo {values values₀ values₁ : List Value} (h : List.Forall₂ V values values₀)
    (h' : List.Forall₂ W values values₁) : List.Forall₂ Value.AnyTwo values₀ values₁ :=
  forall₂_fork h h' fun _ _ _ _ _ => trivial

/-- What is related to a list of one member is one itself. -/
theorem exists_singleton_of_forall₂ {α β : Type} {R : α → β → Prop} {a : α} {m : List β}
    (h : List.Forall₂ R [a] m) : ∃ b, m = [b] ∧ R a b := by
  obtain ⟨b, rest, hb, hrest, rfl⟩ := List.forall₂_cons_left_iff.1 h
  exact ⟨b, by rw [List.forall₂_nil_left_iff.1 hrest], hb⟩

/-- What is related to a concatenation is one itself. -/
theorem exists_append_of_forall₂ {α β : Type} {R : α → β → Prop} {l m : List α} {n : List β}
    (h : List.Forall₂ R (l ++ m) n) :
    ∃ front back, n = front ++ back ∧ List.Forall₂ R l front ∧ List.Forall₂ R m back := by
  refine ⟨n.take l.length, n.drop l.length, (List.take_append_drop _ _).symm, ?_, ?_⟩
  · have hfront := List.forall₂_take l.length h
    rwa [List.take_left] at hfront
  · have hback := List.forall₂_drop l.length h
    rwa [List.drop_left] at hback

/-- A relation of lists of the same length in front splits over concatenation. -/
theorem forall₂_of_append {α : Type} {R S : α → α → Prop} {l l' m m' : List α}
    (h : List.Forall₂ R l l') (hs : List.Forall₂ S (l ++ m) (l' ++ m')) :
    List.Forall₂ S l l' ∧ List.Forall₂ S m m' := by
  induction h with
  | nil => exact ⟨.nil, hs⟩
  | cons _ _ ih =>
    obtain ⟨hab, hrest⟩ := List.forall₂_cons.1 hs
    exact ⟨.cons hab (ih hrest).1, (ih hrest).2⟩

/-! ## Conditions and scopes -/

namespace Condition

/-- The values of a condition. -/
def values : Condition → List Value
  | .compare _ _ _ v => [v]
  | .member _ values _ => values
  | .between _ low high _ => [low, high]
  | _ => []

/-- Two conditions that are equal but for related values. -/
inductive Alike (V : Value → Value → Prop) : Condition → Condition → Prop
  | compare (c : Connector) (column : String) (op : Operator) {v v' : Value} (h : V v v') :
    Alike V (.compare c column op v) (.compare c column op v')
  | member (column : String) (negated : Bool) {values values' : List Value}
    (h : List.Forall₂ V values values') :
    Alike V (.member column values negated) (.member column values' negated)
  | between (column : String) (negated : Bool) {low low' high high' : Value} (hlow : V low low')
    (hhigh : V high high') :
    Alike V (.between column low high negated) (.between column low' high' negated)
  | openGroup (c : Connector) : Alike V (.openGroup c) (.openGroup c)
  | closeGroup : Alike V .closeGroup .closeGroup

variable {c c' : Condition}

/-- The values of alike conditions are related. -/
theorem Alike.values (h : c.Alike V c') : List.Forall₂ V c.values c'.values := by
  cases h with
  | compare _ _ _ hv => exact .cons hv .nil
  | member _ _ hvalues => exact hvalues
  | between _ _ hlow hhigh => exact .cons hlow (.cons hhigh .nil)
  | openGroup | closeGroup => exact .nil

/-- Alike calls are alike for any relation that holds of their values place by place. -/
theorem Alike.of_values (h : c.Alike V c') (hw : List.Forall₂ W c.values c'.values) :
    c.Alike W c' := by
  cases h with
  | compare c column op hv => exact .compare c column op (List.forall₂_cons.1 hw).1
  | member column negated hvalues => exact .member column negated hw
  | between column negated hlow hhigh =>
    obtain ⟨hwlow, hwrest⟩ := List.forall₂_cons.1 hw
    exact .between column negated hwlow (List.forall₂_cons.1 hwrest).1
  | openGroup c => exact .openGroup c
  | closeGroup => exact .closeGroup

/-- A condition that is alike to one is alike to itself. -/
theorem Alike.self (h : c.Alike V c') : c.Alike Value.AnyTwo c := by
  cases h with
  | compare k column op _ => exact .compare k column op trivial
  | member column negated _ => exact .member column negated (List.forall₂_same.2 fun _ _ => trivial)
  | between column negated _ _ => exact .between column negated trivial trivial
  | openGroup k => exact .openGroup k
  | closeGroup => exact .closeGroup

/-- Conditions that are alike to one are alike. -/
theorem Alike.fork {c₀ c₁ : Condition} (h : c.Alike V c₀) (h' : c.Alike W c₁) :
    c₀.Alike Value.AnyTwo c₁ := by
  cases h with
  | compare k column op _ => cases h' with | compare => exact .compare k column op trivial
  | member column negated hvalues =>
    cases h' with
    | member _ _ hvalues' => exact .member column negated (forall₂_anyTwo hvalues hvalues')
  | between column negated _ _ =>
    cases h' with | between => exact .between column negated trivial trivial
  | openGroup k => cases h' with | openGroup => exact .openGroup k
  | closeGroup => cases h' with | closeGroup => exact .closeGroup

/-- The condition with other values. -/
theorem Alike.exists_with_values (h : c.Alike V c') {values : List Value}
    (hvalues : List.Forall₂ W c.values values) : ∃ c₀, c.Alike W c₀ ∧ c₀.values = values := by
  cases h with
  | compare k column op _ =>
    obtain ⟨v, rfl, hv⟩ := exists_singleton_of_forall₂ hvalues
    exact ⟨_, .compare k column op hv, rfl⟩
  | member column negated _ => exact ⟨_, .member column negated hvalues, rfl⟩
  | between column negated _ _ =>
    obtain ⟨low, others, hlow, hothers, rfl⟩ := List.forall₂_cons_left_iff.1 hvalues
    obtain ⟨high, rfl, hhigh⟩ := exists_singleton_of_forall₂ hothers
    exact ⟨_, .between column negated hlow hhigh, rfl⟩
  | openGroup k => exact ⟨_, .openGroup k, (List.forall₂_nil_left_iff.1 hvalues).symm⟩
  | closeGroup => exact ⟨_, .closeGroup, (List.forall₂_nil_left_iff.1 hvalues).symm⟩

end Condition

namespace ScopeStep

/-- The values of a change of a scope. -/
def values : ScopeStep → List Value
  | .filter c => c.values
  | _ => []

/-- Two changes of a scope that are equal but for related values. -/
inductive Alike (V : Value → Value → Prop) : ScopeStep → ScopeStep → Prop
  | filter {c c' : Condition} (h : c.Alike V c') : Alike V (.filter c) (.filter c')
  | orderBy (name : String) (order : SortOrder) :
    Alike V (.orderBy name order) (.orderBy name order)
  | limit (n : UInt64) : Alike V (.limit n) (.limit n)
  | offset (n : UInt64) : Alike V (.offset n) (.offset n)

variable {step step' : ScopeStep}

/-- The values of alike changes of a scope are related. -/
theorem Alike.values (h : step.Alike V step') : List.Forall₂ V step.values step'.values := by
  cases h with
  | filter hc => exact hc.values
  | orderBy | limit | offset => exact .nil

/-- Alike calls are alike for any relation that holds of their values place by place. -/
theorem Alike.of_values (h : step.Alike V step') (hw : List.Forall₂ W step.values step'.values) :
    step.Alike W step' := by
  cases h with
  | filter hc => exact .filter (hc.of_values hw)
  | orderBy name order => exact .orderBy name order
  | limit n => exact .limit n
  | offset n => exact .offset n

/-- A change of a scope that is alike to one is alike to itself. -/
theorem Alike.self (h : step.Alike V step') : step.Alike Value.AnyTwo step := by
  cases h with
  | filter hc => exact .filter hc.self
  | orderBy name order => exact .orderBy name order
  | limit n => exact .limit n
  | offset n => exact .offset n

/-- Changes of a scope that are alike to one are alike. -/
theorem Alike.fork {step₀ step₁ : ScopeStep} (h : step.Alike V step₀) (h' : step.Alike W step₁) :
    step₀.Alike Value.AnyTwo step₁ := by
  cases h with
  | filter hc => cases h' with | filter hc' => exact .filter (hc.fork hc')
  | orderBy name order => cases h' with | orderBy => exact .orderBy name order
  | limit n => cases h' with | limit => exact .limit n
  | offset n => cases h' with | offset => exact .offset n

/-- The change of a scope with other values. -/
theorem Alike.exists_with_values (h : step.Alike V step') {values : List Value}
    (hvalues : List.Forall₂ W step.values values) :
    ∃ step₀, step.Alike W step₀ ∧ step₀.values = values := by
  cases h with
  | filter hc =>
    obtain ⟨c₀, hc₀, hvalues₀⟩ := hc.exists_with_values hvalues
    exact ⟨_, .filter hc₀, hvalues₀⟩
  | orderBy name order => exact ⟨_, .orderBy name order, (List.forall₂_nil_left_iff.1 hvalues).symm⟩
  | limit n => exact ⟨_, .limit n, (List.forall₂_nil_left_iff.1 hvalues).symm⟩
  | offset n => exact ⟨_, .offset n, (List.forall₂_nil_left_iff.1 hvalues).symm⟩

end ScopeStep

/-! ## SELECT -/

namespace SelectStep

/-- Whether a call puts in names, keywords and numbers only: no values, no further SELECT and no SQL
text as it is. -/
def isFixed : SelectStep → Bool
  | .distinct _ | .columns _ | .columnAs _ _ | .fromTable _ | .join _ _ | .on _ _ _ | .sharing _
  | .groupBy _ | .orderBy _ _ | .limit _ | .offset _ | .reset => true
  | .filter _ | .having _ | .combine _ _ _ | .expression _ _ | .fromRaw _ | .orderByRaw _ => false

mutual

/-- The values of a call on a SELECT, combined SELECTs included. -/
def values : SelectStep → List Value
  | .filter c => c.values
  | .having c => c.values
  | .combine _ _ steps => allValues steps
  | _ => []
termination_by structural step => step

/-- The values of a sequence of calls on a SELECT. -/
def allValues : List SelectStep → List Value
  | [] => []
  | step :: steps => step.values ++ allValues steps
termination_by structural steps => steps

end

mutual

/-- **Two calls on a SELECT in dialect `d`** that are equal but for related values, and combine
SELECTs of the dialect only. -/
inductive Alike (d : Dialect) (V : Value → Value → Prop) : SelectStep → SelectStep → Prop
  | fixed {step : SelectStep} (h : step.isFixed = true) : Alike d V step step
  | filter {c c' : Condition} (h : c.Alike V c') : Alike d V (.filter c) (.filter c')
  | having {c c' : Condition} (h : c.Alike V c') : Alike d V (.having c) (.having c')
  | combine (op : SetOperator) {steps steps' : List SelectStep} (h : AllAlike d V steps steps') :
    Alike d V (.combine op d steps) (.combine op d steps')

/-- Two sequences of such calls. -/
inductive AllAlike (d : Dialect) (V : Value → Value → Prop) :
    List SelectStep → List SelectStep → Prop
  | nil : AllAlike d V [] []
  | cons {step step' : SelectStep} {steps steps' : List SelectStep} (h : Alike d V step step')
    (hs : AllAlike d V steps steps') : AllAlike d V (step :: steps) (step' :: steps')

end

variable {d : Dialect}

/-- A call that puts in names only has no values. -/
theorem values_of_isFixed {step : SelectStep} (h : step.isFixed = true) : step.values = [] := by
  cases step <;> first | rfl | cases h

mutual

/-- The values of alike calls are related. -/
theorem Alike.values : ∀ {step step' : SelectStep}, step.Alike d V step' →
    List.Forall₂ V step.values step'.values
  | _, _, .fixed h => by rw [values_of_isFixed h]; exact .nil
  | _, _, .filter h => Condition.Alike.values h
  | _, _, .having h => Condition.Alike.values h
  | _, _, .combine _ h => AllAlike.values h

/-- The values of alike sequences of calls are related. -/
theorem AllAlike.values : ∀ {steps steps' : List SelectStep}, AllAlike d V steps steps' →
    List.Forall₂ V (allValues steps) (allValues steps')
  | _, _, .nil => .nil
  | _, _, .cons h hs => List.rel_append (Alike.values h) (AllAlike.values hs)

end

mutual

/-- Alike calls are alike for any relation that holds of their values place by place. -/
theorem Alike.of_values : ∀ {step step' : SelectStep}, step.Alike d V step' →
    List.Forall₂ W step.values step'.values → step.Alike d W step'
  | _, _, .fixed h, _ => .fixed h
  | _, _, .filter h, hw => .filter (Condition.Alike.of_values h hw)
  | _, _, .having h, hw => .having (Condition.Alike.of_values h hw)
  | _, _, .combine op h, hw => .combine op (AllAlike.of_values h hw)

/-- Alike calls are alike for any relation that holds of their values place by place. -/
theorem AllAlike.of_values : ∀ {steps steps' : List SelectStep}, AllAlike d V steps steps' →
    List.Forall₂ W (allValues steps) (allValues steps') →
    AllAlike d W steps steps'
  | _, _, .nil, _ => .nil
  | _, _, .cons h hs, hw => by
    -- The first calls have equally many values, so the values split between them and the others.
    obtain ⟨hfirst, hrest⟩ := forall₂_of_append (Alike.values h) hw
    exact .cons (Alike.of_values h hfirst) (AllAlike.of_values hs hrest)

end

mutual

/-- A call that is alike to one is alike to itself. -/
theorem Alike.self : ∀ {step step' : SelectStep}, step.Alike d V step' →
    step.Alike d Value.AnyTwo step
  | _, _, .fixed h => .fixed h
  | _, _, .filter h => .filter (Condition.Alike.self h)
  | _, _, .having h => .having (Condition.Alike.self h)
  | _, _, .combine op h => .combine op (AllAlike.self h)

/-- A sequence of calls that is alike to one is alike to itself. -/
theorem AllAlike.self : ∀ {steps steps' : List SelectStep}, AllAlike d V steps steps' →
    AllAlike d Value.AnyTwo steps steps
  | _, _, .nil => .nil
  | _, _, .cons h hs => .cons (Alike.self h) (AllAlike.self hs)

end

/-- A call that puts in names only is alike to itself only. -/
theorem Alike.eq_of_isFixed {step step' : SelectStep} (h : step.Alike d V step')
    (hstep : step.isFixed = true) : step' = step := by
  cases h with
  | fixed => rfl
  | filter | having | combine => cases hstep

mutual

/-- Calls that are alike to one are alike. -/
theorem Alike.fork : ∀ {step step₀ step₁ : SelectStep}, step.Alike d V step₀ →
    step.Alike d W step₁ → step₀.Alike d Value.AnyTwo step₁
  | _, _, _, .fixed h, h' => by
    rw [h'.eq_of_isFixed h]
    exact .fixed h
  | _, _, _, .filter h, h' => by
    cases h' with
    | fixed hfixed => cases hfixed
    | filter h' => exact .filter (Condition.Alike.fork h h')
  | _, _, _, .having h, h' => by
    cases h' with
    | fixed hfixed => cases hfixed
    | having h' => exact .having (Condition.Alike.fork h h')
  | _, _, _, .combine op h, h' => by
    cases h' with
    | fixed hfixed => cases hfixed
    | combine _ h' => exact .combine op (AllAlike.fork h h')

/-- Sequences of calls that are alike to one are alike. -/
theorem AllAlike.fork : ∀ {steps steps₀ steps₁ : List SelectStep}, AllAlike d V steps steps₀ →
    AllAlike d W steps steps₁ → AllAlike d Value.AnyTwo steps₀ steps₁
  | _, _, _, .nil, .nil => .nil
  | _, _, _, .cons h hs, .cons h' hs' => .cons (Alike.fork h h') (AllAlike.fork hs hs')

end

mutual

/-- The call with other values. -/
theorem Alike.exists_with_values : ∀ {step step' : SelectStep}, step.Alike d V step' →
    ∀ {values : List Value}, List.Forall₂ W step.values values →
      ∃ step₀, step.Alike d W step₀ ∧ step₀.values = values
  | _, _, .fixed h, _, hvalues => by
    have hnone := values_of_isFixed h
    rw [hnone] at hvalues
    exact ⟨_, .fixed h, hnone.trans (List.forall₂_nil_left_iff.1 hvalues).symm⟩
  | _, _, .filter h, _, hvalues => by
    obtain ⟨c₀, hc₀, hvalues₀⟩ := Condition.Alike.exists_with_values h hvalues
    exact ⟨_, .filter hc₀, hvalues₀⟩
  | _, _, .having h, _, hvalues => by
    obtain ⟨c₀, hc₀, hvalues₀⟩ := Condition.Alike.exists_with_values h hvalues
    exact ⟨_, .having hc₀, hvalues₀⟩
  | _, _, .combine op h, _, hvalues => by
    obtain ⟨steps₀, hsteps₀, hvalues₀⟩ := AllAlike.exists_with_values h hvalues
    exact ⟨_, .combine op hsteps₀, hvalues₀⟩

/-- The sequence of calls with other values. -/
theorem AllAlike.exists_with_values :
    ∀ {steps steps' : List SelectStep}, AllAlike d V steps steps' →
    ∀ {values : List Value}, List.Forall₂ W (allValues steps) values →
      ∃ steps₀, AllAlike d W steps steps₀ ∧ allValues steps₀ = values
  | _, _, .nil, _, hvalues => ⟨[], .nil, (List.forall₂_nil_left_iff.1 hvalues).symm⟩
  | _, _, .cons h hs, _, hvalues => by
    obtain ⟨front, back, rfl, hfront, hback⟩ := exists_append_of_forall₂ hvalues
    obtain ⟨step₀, hstep₀, rfl⟩ := Alike.exists_with_values h hfront
    obtain ⟨steps₀, hsteps₀, rfl⟩ := AllAlike.exists_with_values hs hback
    exact ⟨step₀ :: steps₀, .cons hstep₀ hsteps₀, rfl⟩

end

end SelectStep

/-! ## INSERT, UPDATE and DELETE -/

/-- Calls that are alike one by one are so for any relation that holds of their values. -/
theorem forall₂_of_flatMap {α : Type} {R S : α → α → Prop} {values : α → List Value}
    {l l' : List α} (h : List.Forall₂ R l l')
    (hw : List.Forall₂ W (l.flatMap values) (l'.flatMap values))
    (hR : ∀ a a', R a a' → List.Forall₂ V (values a) (values a'))
    (hS : ∀ a a', R a a' → List.Forall₂ W (values a) (values a') → S a a') :
    List.Forall₂ S l l' := by
  induction h with
  | nil => exact .nil
  | cons ha _ ih =>
    -- As for SELECT, the values of the first calls come first.
    obtain ⟨hfirst, hrest⟩ := forall₂_of_append (hR _ _ ha) hw
    exact .cons (hS _ _ ha hfirst) (ih hrest)

/-- A sequence of calls with other values, if every call can get any. -/
theorem exists_forall₂_of_flatMap {α : Type} {R S : α → α → Prop} {values : α → List Value}
    {l l' : List α} (h : List.Forall₂ R l l') {others : List Value}
    (hothers : List.Forall₂ W (l.flatMap values) others)
    (hR : ∀ a a', R a a' → ∀ {vs}, List.Forall₂ W (values a) vs → ∃ b, S a b ∧ values b = vs) :
    ∃ m, List.Forall₂ S l m ∧ m.flatMap values = others := by
  induction h generalizing others with
  | nil => exact ⟨[], .nil, (List.forall₂_nil_left_iff.1 hothers).symm⟩
  | cons ha _ ih =>
    rw [List.flatMap_cons] at hothers
    obtain ⟨front, back, rfl, hfront, hback⟩ := exists_append_of_forall₂ hothers
    obtain ⟨b, hb, rfl⟩ := hR _ _ ha hfront
    obtain ⟨m, hm, rfl⟩ := ih hback
    exact ⟨b :: m, .cons hb hm, List.flatMap_cons⟩

namespace InsertStep

/-- The values of a call on an INSERT. -/
def values : InsertStep → List Value
  | .value _ v => [v]
  | .row cells => cells.map Prod.snd
  | _ => []

/-- Two calls on an INSERT that are equal but for related values. -/
inductive Alike (V : Value → Value → Prop) : InsertStep → InsertStep → Prop
  | into (table : String) : Alike V (.into table) (.into table)
  | columns (names : List String) : Alike V (.columns names) (.columns names)
  | value (column : String) {v v' : Value} (h : V v v') :
    Alike V (.value column v) (.value column v')
  | row {cells cells' : List (String × Value)}
    (h : List.Forall₂ (fun cell cell' => cell.1 = cell'.1 ∧ V cell.2 cell'.2) cells cells') :
    Alike V (.row cells) (.row cells')
  | nextRow : Alike V .nextRow .nextRow
  | reset : Alike V .reset .reset

/-- The values of alike calls on an INSERT are related. -/
theorem Alike.values {step step' : InsertStep} (h : step.Alike V step') :
    List.Forall₂ V step.values step'.values := by
  cases h with
  | value column hv => exact .cons hv .nil
  | row hcells =>
    rw [InsertStep.values, InsertStep.values, List.forall₂_map_left_iff,
      List.forall₂_map_right_iff]
    exact hcells.imp fun _ _ hcell => hcell.2
  | into | columns | nextRow | reset => exact .nil

/-- Alike calls are alike for any relation that holds of their values place by place. -/
theorem Alike.of_values {step step' : InsertStep} (h : step.Alike V step')
    (hw : List.Forall₂ W step.values step'.values) :
    step.Alike W step' := by
  cases h with
  | value column hv => exact .value column (List.forall₂_cons.1 hw).1
  | row hcells =>
    rw [InsertStep.values, InsertStep.values, List.forall₂_map_left_iff,
      List.forall₂_map_right_iff] at hw
    exact .row (List.Forall₂.mp (fun _ _ hcell hv => ⟨hcell.1, hv⟩) hcells hw)
  | into table => exact .into table
  | columns names => exact .columns names
  | nextRow => exact .nextRow
  | reset => exact .reset

/-- A call that is alike to one is alike to itself. -/
theorem Alike.self {step step' : InsertStep} (h : step.Alike V step') :
    step.Alike Value.AnyTwo step := by
  cases h with
  | into table => exact .into table
  | columns names => exact .columns names
  | value column _ => exact .value column trivial
  | row _ => exact .row (List.forall₂_same.2 fun _ _ => ⟨rfl, trivial⟩)
  | nextRow => exact .nextRow
  | reset => exact .reset

/-- Calls that are alike to one are alike. -/
theorem Alike.fork {step step₀ step₁ : InsertStep} (h : step.Alike V step₀)
    (h' : step.Alike W step₁) : step₀.Alike Value.AnyTwo step₁ := by
  cases h with
  | into table => cases h' with | into => exact .into table
  | columns names => cases h' with | columns => exact .columns names
  | value column _ => cases h' with | value => exact .value column trivial
  | row hcells =>
    cases h' with
    | row hcells' =>
      exact .row (forall₂_fork hcells hcells' fun _ _ _ hcell hcell' =>
        ⟨hcell.1.symm.trans hcell'.1, trivial⟩)
  | nextRow => cases h' with | nextRow => exact .nextRow
  | reset => cases h' with | reset => exact .reset

/-- The cells of a row with other values. -/
theorem exists_cells {cells : List (String × Value)} {values : List Value}
    (h : List.Forall₂ W (cells.map Prod.snd) values) :
    ∃ cells₀ : List (String × Value),
      List.Forall₂ (fun cell cell₀ => cell.1 = cell₀.1 ∧ W cell.2 cell₀.2) cells cells₀ ∧
      cells₀.map Prod.snd = values := by
  induction cells generalizing values with
  | nil => exact ⟨[], .nil, (List.forall₂_nil_left_iff.1 h).symm⟩
  | cons cell cells ih =>
    obtain ⟨v, rest, hv, hrest, rfl⟩ := List.forall₂_cons_left_iff.1 h
    obtain ⟨cells₀, hcells₀, rfl⟩ := ih hrest
    exact ⟨(cell.1, v) :: cells₀, .cons ⟨rfl, hv⟩ hcells₀, rfl⟩

/-- The call with other values. -/
theorem Alike.exists_with_values {step step' : InsertStep} (h : step.Alike V step')
    {values : List Value} (hvalues : List.Forall₂ W step.values values) :
    ∃ step₀, step.Alike W step₀ ∧ step₀.values = values := by
  cases h with
  | value column _ =>
    obtain ⟨v, rfl, hv⟩ := exists_singleton_of_forall₂ hvalues
    exact ⟨_, .value column hv, rfl⟩
  | row _ =>
    obtain ⟨cells₀, hcells₀, rfl⟩ := exists_cells hvalues
    exact ⟨_, .row hcells₀, rfl⟩
  | into table => exact ⟨_, .into table, (List.forall₂_nil_left_iff.1 hvalues).symm⟩
  | columns names => exact ⟨_, .columns names, (List.forall₂_nil_left_iff.1 hvalues).symm⟩
  | nextRow => exact ⟨_, .nextRow, (List.forall₂_nil_left_iff.1 hvalues).symm⟩
  | reset => exact ⟨_, .reset, (List.forall₂_nil_left_iff.1 hvalues).symm⟩

end InsertStep

namespace UpdateStep

/-- The values of a call on an UPDATE. -/
def values : UpdateStep → List Value
  | .set _ v => [v]
  | .scope step => step.values
  | _ => []

/-- Two calls on an UPDATE that are equal but for related values. -/
inductive Alike (V : Value → Value → Prop) : UpdateStep → UpdateStep → Prop
  | table (t : TableRef) : Alike V (.table t) (.table t)
  | set (column : String) {v v' : Value} (h : V v v') : Alike V (.set column v) (.set column v')
  | scope {step step' : ScopeStep} (h : step.Alike V step') : Alike V (.scope step) (.scope step')
  | reset : Alike V .reset .reset

/-- The values of alike calls on an UPDATE are related. -/
theorem Alike.values {step step' : UpdateStep} (h : step.Alike V step') :
    List.Forall₂ V step.values step'.values := by
  cases h with
  | set column hv => exact .cons hv .nil
  | scope hstep => exact hstep.values
  | table | reset => exact .nil

/-- Alike calls are alike for any relation that holds of their values place by place. -/
theorem Alike.of_values {step step' : UpdateStep} (h : step.Alike V step')
    (hw : List.Forall₂ W step.values step'.values) :
    step.Alike W step' := by
  cases h with
  | set column hv => exact .set column (List.forall₂_cons.1 hw).1
  | scope hstep => exact .scope (hstep.of_values hw)
  | table t => exact .table t
  | reset => exact .reset

/-- A call that is alike to one is alike to itself. -/
theorem Alike.self {step step' : UpdateStep} (h : step.Alike V step') :
    step.Alike Value.AnyTwo step := by
  cases h with
  | table t => exact .table t
  | set column _ => exact .set column trivial
  | scope hstep => exact .scope hstep.self
  | reset => exact .reset

/-- Calls that are alike to one are alike. -/
theorem Alike.fork {step step₀ step₁ : UpdateStep} (h : step.Alike V step₀)
    (h' : step.Alike W step₁) : step₀.Alike Value.AnyTwo step₁ := by
  cases h with
  | table t => cases h' with | table => exact .table t
  | set column _ => cases h' with | set => exact .set column trivial
  | scope hstep => cases h' with | scope hstep' => exact .scope (hstep.fork hstep')
  | reset => cases h' with | reset => exact .reset

/-- The call with other values. -/
theorem Alike.exists_with_values {step step' : UpdateStep} (h : step.Alike V step')
    {values : List Value} (hvalues : List.Forall₂ W step.values values) :
    ∃ step₀, step.Alike W step₀ ∧ step₀.values = values := by
  cases h with
  | set column _ =>
    obtain ⟨v, rfl, hv⟩ := exists_singleton_of_forall₂ hvalues
    exact ⟨_, .set column hv, rfl⟩
  | scope hstep =>
    obtain ⟨step₀, hstep₀, hvalues₀⟩ := hstep.exists_with_values hvalues
    exact ⟨_, .scope hstep₀, hvalues₀⟩
  | table t => exact ⟨_, .table t, (List.forall₂_nil_left_iff.1 hvalues).symm⟩
  | reset => exact ⟨_, .reset, (List.forall₂_nil_left_iff.1 hvalues).symm⟩

end UpdateStep

namespace DeleteStep

/-- The values of a call on a DELETE. -/
def values : DeleteStep → List Value
  | .scope step => step.values
  | _ => []

/-- Two calls on a DELETE that are equal but for related values. -/
inductive Alike (V : Value → Value → Prop) : DeleteStep → DeleteStep → Prop
  | fromTable (t : TableRef) : Alike V (.fromTable t) (.fromTable t)
  | scope {step step' : ScopeStep} (h : step.Alike V step') : Alike V (.scope step) (.scope step')
  | reset : Alike V .reset .reset

/-- The values of alike calls on a DELETE are related. -/
theorem Alike.values {step step' : DeleteStep} (h : step.Alike V step') :
    List.Forall₂ V step.values step'.values := by
  cases h with
  | scope hstep => exact hstep.values
  | fromTable | reset => exact .nil

/-- Alike calls are alike for any relation that holds of their values place by place. -/
theorem Alike.of_values {step step' : DeleteStep} (h : step.Alike V step')
    (hw : List.Forall₂ W step.values step'.values) :
    step.Alike W step' := by
  cases h with
  | scope hstep => exact .scope (hstep.of_values hw)
  | fromTable t => exact .fromTable t
  | reset => exact .reset

/-- A call that is alike to one is alike to itself. -/
theorem Alike.self {step step' : DeleteStep} (h : step.Alike V step') :
    step.Alike Value.AnyTwo step := by
  cases h with
  | fromTable t => exact .fromTable t
  | scope hstep => exact .scope hstep.self
  | reset => exact .reset

/-- Calls that are alike to one are alike. -/
theorem Alike.fork {step step₀ step₁ : DeleteStep} (h : step.Alike V step₀)
    (h' : step.Alike W step₁) : step₀.Alike Value.AnyTwo step₁ := by
  cases h with
  | fromTable t => cases h' with | fromTable => exact .fromTable t
  | scope hstep => cases h' with | scope hstep' => exact .scope (hstep.fork hstep')
  | reset => cases h' with | reset => exact .reset

/-- The call with other values. -/
theorem Alike.exists_with_values {step step' : DeleteStep} (h : step.Alike V step')
    {values : List Value} (hvalues : List.Forall₂ W step.values values) :
    ∃ step₀, step.Alike W step₀ ∧ step₀.values = values := by
  cases h with
  | scope hstep =>
    obtain ⟨step₀, hstep₀, hvalues₀⟩ := hstep.exists_with_values hvalues
    exact ⟨_, .scope hstep₀, hvalues₀⟩
  | fromTable t => exact ⟨_, .fromTable t, (List.forall₂_nil_left_iff.1 hvalues).symm⟩
  | reset => exact ⟨_, .reset, (List.forall₂_nil_left_iff.1 hvalues).symm⟩

end DeleteStep

/-! ## Statements of any kind -/

/-- The calls that build a statement. -/
inductive StatementCalls where
  | select (steps : List SelectStep)
  | insert (steps : List InsertStep)
  | update (steps : List UpdateStep)
  | delete (steps : List DeleteStep)

namespace StatementCalls

/-- The statement that the calls build in a dialect. -/
def run (d : Dialect) : StatementCalls → Statement
  | select steps => .select ((Select.new d).run steps)
  | insert steps => .insert ((Insert.new d).run steps)
  | update steps => .update ((Update.new d).run steps)
  | delete steps => .delete ((Delete.new d).run steps)

/-- The values that the calls put in, in order. -/
def values : StatementCalls → List Value
  | select steps => SelectStep.allValues steps
  | insert steps => steps.flatMap InsertStep.values
  | update steps => steps.flatMap UpdateStep.values
  | delete steps => steps.flatMap DeleteStep.values

/-- **Two sequences of calls in dialect `d` that are equal but for related values**, put in no SQL
text as it is, and combine SELECTs of the dialect only. -/
inductive Alike (d : Dialect) (V : Value → Value → Prop) : StatementCalls → StatementCalls → Prop
  | select {steps steps' : List SelectStep} (h : SelectStep.AllAlike d V steps steps') :
    Alike d V (.select steps) (.select steps')
  | insert {steps steps' : List InsertStep} (h : List.Forall₂ (InsertStep.Alike V) steps steps') :
    Alike d V (.insert steps) (.insert steps')
  | update {steps steps' : List UpdateStep} (h : List.Forall₂ (UpdateStep.Alike V) steps steps') :
    Alike d V (.update steps) (.update steps')
  | delete {steps steps' : List DeleteStep} (h : List.Forall₂ (DeleteStep.Alike V) steps steps') :
    Alike d V (.delete steps) (.delete steps')

variable {d : Dialect} {calls calls' : StatementCalls}

/-- The values of alike calls are related place by place. -/
theorem Alike.values (h : calls.Alike d V calls') : List.Forall₂ V calls.values calls'.values := by
  cases h with
  | select h => exact h.values
  | insert h => exact List.rel_flatMap h fun _ _ hstep => hstep.values
  | update h => exact List.rel_flatMap h fun _ _ hstep => hstep.values
  | delete h => exact List.rel_flatMap h fun _ _ hstep => hstep.values

/-- **Alike calls are alike for any relation that holds of their values place by place.** -/
theorem Alike.of_values (h : calls.Alike d V calls')
    (hw : List.Forall₂ W calls.values calls'.values) : calls.Alike d W calls' := by
  cases h with
  | select h => exact .select (h.of_values hw)
  | insert h =>
    exact .insert (forall₂_of_flatMap h hw (fun _ _ hstep => hstep.values)
      fun _ _ hstep => hstep.of_values)
  | update h =>
    exact .update (forall₂_of_flatMap h hw (fun _ _ hstep => hstep.values)
      fun _ _ hstep => hstep.of_values)
  | delete h =>
    exact .delete (forall₂_of_flatMap h hw (fun _ _ hstep => hstep.values)
      fun _ _ hstep => hstep.of_values)

/-- Calls that are alike to others are alike to themselves. -/
theorem Alike.self (h : calls.Alike d V calls') : calls.Alike d Value.AnyTwo calls := by
  cases h with
  | select h => exact .select h.self
  | insert h => exact .insert (forall₂_self h fun _ _ hstep => hstep.self)
  | update h => exact .update (forall₂_self h fun _ _ hstep => hstep.self)
  | delete h => exact .delete (forall₂_self h fun _ _ hstep => hstep.self)

/-- **Calls that are alike to given ones are alike**, whatever their values. -/
theorem Alike.fork {calls₀ calls₁ : StatementCalls} (h : calls.Alike d V calls₀)
    (h' : calls.Alike d W calls₁) : calls₀.Alike d Value.AnyTwo calls₁ := by
  cases h with
  | select h => cases h' with | select h' => exact .select (h.fork h')
  | insert h =>
    cases h' with
    | insert h' => exact .insert (forall₂_fork h h' fun _ _ _ hstep hstep' => hstep.fork hstep')
  | update h =>
    cases h' with
    | update h' => exact .update (forall₂_fork h h' fun _ _ _ hstep hstep' => hstep.fork hstep')
  | delete h =>
    cases h' with
    | delete h' => exact .delete (forall₂_fork h h' fun _ _ _ hstep hstep' => hstep.fork hstep')

/-- **There are calls alike to given ones with any related values in their places.** -/
theorem Alike.exists_with_values (h : calls.Alike d V calls') {values : List Value}
    (hvalues : List.Forall₂ W calls.values values) :
    ∃ calls₀, calls.Alike d W calls₀ ∧ calls₀.values = values := by
  cases h with
  | select h =>
    obtain ⟨steps₀, hsteps₀, hvalues₀⟩ := h.exists_with_values hvalues
    exact ⟨_, .select hsteps₀, hvalues₀⟩
  | insert h =>
    obtain ⟨steps₀, hsteps₀, hvalues₀⟩ := exists_forall₂_of_flatMap h hvalues
      fun _ _ hstep _ => hstep.exists_with_values
    exact ⟨_, .insert hsteps₀, hvalues₀⟩
  | update h =>
    obtain ⟨steps₀, hsteps₀, hvalues₀⟩ := exists_forall₂_of_flatMap h hvalues
      fun _ _ hstep _ => hstep.exists_with_values
    exact ⟨_, .update hsteps₀, hvalues₀⟩
  | delete h =>
    obtain ⟨steps₀, hsteps₀, hvalues₀⟩ := exists_forall₂_of_flatMap h hvalues
      fun _ _ hstep _ => hstep.exists_with_values
    exact ⟨_, .delete hsteps₀, hvalues₀⟩

end StatementCalls

end SqlBuilder
