import SqlBuilder.Proofs.Parallel.Statements

/-! # Values cannot change the structure of a statement

Sequences of calls that differ only in the characters of their texts build statements with the same
tokens but for string literals, and these hold the texts that were put in.  More than that: which
place of the calls a string literal shows is not up to the texts either.  All such statements have
one list of *token forms*, in which a string literal is the place of a value, and the tokens of each
are these forms with its own values (`same_tokens_of_same_calls`).

The forms are read off one of the statements, in which every text is a *mark* that tells its place
and is part of no other literal. -/

namespace SqlBuilder

variable {d : Dialect} {values values' : List Value} {place part : Nat} {s s' : String}

/-! ## Tokens and the places of values -/

/-- **Whether the literal of the value at a place shows a content**, in a certain string literal of
it.  The literal of a text has one, which holds the text itself. -/
def Dialect.ShowsAt (d : Dialect) (values : List Value) (place part : Nat) (s : String) : Prop :=
  ∃ v, values[place]? = some v ∧ (d.literalTexts v)[part]? = some s

/-- **The form of a token**: what it is for all values. -/
inductive TokenForm where
  /-- A quoted identifier. -/
  | name (content : String)
  /-- A character outside of quotes. -/
  | symbol (c : Char)
  /-- A string literal of the value at a place. -/
  | string (place part : Nat)
deriving Repr, DecidableEq

/-- **Whether a token has a form**, for the given values. -/
inductive TokenForm.Holds (d : Dialect) (values : List Value) : TokenForm → SqlToken → Prop
  | name (content : String) : Holds d values (.name content) (.name content)
  | symbol (c : Char) : Holds d values (.symbol c) (.symbol c)
  | string {place part : Nat} {s : String} (h : d.ShowsAt values place part s) :
    Holds d values (.string place part) (.string s)

/-- **Two contents that are shown at one place**, of the one list of values and of the other. -/
def SameOrigin (d : Dialect) (values values' : List Value) (s s' : String) : Prop :=
  ∃ place part, d.ShowsAt values place part s ∧ d.ShowsAt values' place part s'

/-- Tokens of one form are alike: string literals have the same origin. -/
theorem TokenForm.Holds.alikeIn {form : TokenForm} {t t' : SqlToken} (h : form.Holds d values t)
    (h' : form.Holds d values' t') : t.AlikeIn (SameOrigin d values values') t' := by
  cases h with
  | name content => cases h' with | name => exact .name content
  | symbol c => cases h' with | symbol => exact .symbol c
  | string hs => cases h' with | string hs' => exact .string ⟨_, _, hs, hs'⟩

/-- No two contents are shown in one string literal. -/
theorem Dialect.ShowsAt.unique (h : d.ShowsAt values place part s)
    (h' : d.ShowsAt values place part s') : s = s' := by
  obtain ⟨v, hv, hs⟩ := h
  obtain ⟨v', hv', hs'⟩ := h'
  obtain rfl : v = v' := Option.some.inj (hv.symm.trans hv')
  exact Option.some.inj (hs.symm.trans hs')

/-- The string literals of two values of the same shape at one place have the same origin. -/
theorem Value.SameShape.alikeIn_sameOrigin {v v' : Value} (h : v.SameShape v')
    (hv : values[place]? = some v) (hv' : values'[place]? = some v') :
    v.AlikeIn d (SameOrigin d values values') v' := by
  refine ⟨h, ?_⟩
  cases h with
  | text s s' => exact .cons ⟨place, 0, ⟨_, hv, rfl⟩, ⟨_, hv', rfl⟩⟩ .nil
  | null | bool | int | float | blob | timestamp =>
    refine List.forall₂_same.2 fun s hs => ?_
    obtain ⟨part, hpart⟩ := List.mem_iff_getElem?.1 hs
    exact ⟨place, part, ⟨_, hv, hpart⟩, ⟨_, hv', hpart⟩⟩

/-- Related lists have what they relate at one place. -/
theorem forall₂_place {α β : Type} {R : α → β → Prop} {l : List α} {l' : List β}
    (h : List.Forall₂ R l l') :
    List.Forall₂ (fun a b => ∃ place : Nat, l[place]? = some a ∧ l'[place]? = some b) l l' := by
  induction h with
  | nil => exact .nil
  | cons _ _ ih =>
    refine .cons ⟨0, rfl, rfl⟩ (ih.imp fun _ _ hplace => ?_)
    obtain ⟨place, hleft, hright⟩ := hplace
    exact ⟨place + 1, hleft, hright⟩

/-- Parallel texts have tokens that are equal but for what their string literals hold. -/
theorem Parallel.scan {P : String → String → Prop} {sql sql' : String} (h : Parallel d P sql sql') :
    ∃ ts ts', d.scan sql.toList = some ts ∧ d.scan sql'.toList = some ts' ∧
      List.Forall₂ (SqlToken.AlikeIn P) ts ts' := by
  obtain ⟨ts, ts', hts, hts', htokens⟩ := h
  exact ⟨ts, ts', hts.scan_eq, hts'.scan_eq, htokens⟩

/-- **Calls with values of the same shape build parallel statements**, whose string literals show
the same places. -/
theorem StatementCalls.Alike.sameOrigin {calls calls' : StatementCalls}
    (h : calls.Alike d Value.SameShape calls') (terminated : Bool) :
    ResultAlike (Parallel d (SameOrigin d calls.values calls'.values))
      ((calls.run d).text terminated) ((calls'.run d).text terminated) := by
  have hplaced : List.Forall₂ (Value.AlikeIn d (SameOrigin d calls.values calls'.values))
      calls.values calls'.values := by
    refine List.Forall₂.mp (fun v v' hshape hplace => ?_) h.values (forall₂_place h.values)
    obtain ⟨place, hv, hv'⟩ := hplace
    exact hshape.alikeIn_sameOrigin hv hv'
  exact (h.of_values hplaced).text terminated

/-! ## Marks -/

/-- **The mark of a place**: as many line feeds as there are places up to it. -/
def mark (place : Nat) : String := String.ofList (List.replicate (place + 1) '\n')

/-- A mark tells its place. -/
theorem mark_injective : Function.Injective mark := by
  intro place place' h
  have hlength := congrArg (fun s => s.toList.length) h
  simpa [mark] using hlength

/-- A mark has a line feed. -/
theorem mem_mark (place : Nat) : '\n' ∈ (mark place).toList := by
  simp [mark]

/-- No literal but that of a text shows a line feed. -/
theorem not_mem_of_mem_literalTexts {v : Value} (hv : ∀ t, v ≠ .text t)
    (hs : s ∈ d.literalTexts v) : '\n' ∉ s.toList := by
  have hplain : ∀ {t : String}, IsPlain t → '\n' ∉ t.toList :=
    fun ht hmem => absurd (ht _ hmem) (by decide)
  cases v with
  | text t => exact absurd rfl (hv t)
  | null | bool | int | float | raw => cases hs
  | blob bytes =>
    have hdigits : '\n' ∉ (hexText bytes).toList := hplain (isPlain_hexText bytes)
    have hescaped : '\n' ∉ ("\\x" ++ hexText bytes).toList := by
      rw [String.toList_append, List.mem_append, not_or]
      exact ⟨by decide, hdigits⟩
    cases d
    case msSql => cases hs
    case postgreSql => exact List.mem_singleton.1 hs ▸ hescaped
    all_goals exact List.mem_singleton.1 hs ▸ hdigits
  | timestamp t =>
    have hblank : '\n' ∉ (t.dateAndTime " ").toList :=
      hplain (isPlain_dateAndTime t.toMoment (by decide))
    have hletter : '\n' ∉ (t.dateAndTime "T").toList :=
      hplain (isPlain_dateAndTime t.toMoment (by decide))
    cases d
    case msSql => exact List.mem_singleton.1 hs ▸ hletter
    case oracle =>
      -- The pattern of the timestamp is a string literal of its own.
      rcases List.mem_cons.1 hs with rfl | hpattern
      · exact hblank
      · exact List.mem_singleton.1 hpattern ▸ by decide
    all_goals exact List.mem_singleton.1 hs ▸ hblank

namespace Value

/-- A value with the mark of its place for a text. -/
def marked (place : Nat) : Value → Value
  | .text _ => .text (mark place)
  | v => v

namespace SameShape

variable {v v₀ v₁ : Value}

/-- A value with a mark has the same shape. -/
theorem marked (h : v.SameShape v₀) (place : Nat) : v.SameShape (v.marked place) := by
  cases h <;> constructor

/-- A value that has the shape of one has its own. -/
theorem self (h : v.SameShape v₀) : v.SameShape v := by
  cases h <;> constructor

/-- Values of the shape of one have the same shape. -/
theorem fork (h : v.SameShape v₀) (h' : v.SameShape v₁) : v₀.SameShape v₁ := by
  cases h <;> cases h' <;> constructor

/-- Only texts have other values of their shape. -/
theorem eq_of_ne_text (h : v.SameShape v₀) (hv : ∀ t, v ≠ .text t) : v₀ = v := by
  cases h with
  | text t => exact absurd rfl (hv t)
  | null | bool | int | float | blob | timestamp => rfl

end SameShape

end Value

/-- **Values with a mark in the place of every text.** -/
def markedValues (values : List Value) : List Value := values.mapIdx Value.marked

/-- Values with marks have the same shapes. -/
theorem forall₂_markedValues (h : List.Forall₂ Value.SameShape values values') :
    List.Forall₂ Value.SameShape values (markedValues values) := by
  obtain ⟨hlength, hshape⟩ := List.forall₂_iff_get.1 h
  refine List.forall₂_iff_get.2 ⟨List.length_mapIdx.symm, fun place hplace _ => ?_⟩
  have hmarked := (hshape place hplace (hlength ▸ hplace)).marked place
  simpa [markedValues] using hmarked

/-- A literal of values with marks shows the mark of its place, or is the literal of a value that is
no text. -/
theorem Dialect.ShowsAt.of_marked (h : d.ShowsAt (markedValues values) place part s) :
    (s = mark place ∧ part = 0) ∨
    ∃ v, (∀ t, v ≠ .text t) ∧ (markedValues values)[place]? = some v ∧
      (d.literalTexts v)[part]? = some s := by
  obtain ⟨v, hv, hs⟩ := h
  rw [markedValues, List.getElem?_mapIdx] at hv
  obtain ⟨u, hu, rfl⟩ := Option.map_eq_some_iff.1 hv
  have hplace : (markedValues values)[place]? = some (u.marked place) := by
    rw [markedValues, List.getElem?_mapIdx, hu, Option.map_some]
  cases u with
  | text t =>
    cases part with
    | zero => exact .inl ⟨(Option.some.inj hs).symm, rfl⟩
    | succ part => cases hs
  | null | bool | int | float | blob | timestamp | raw =>
    exact .inr ⟨_, fun t => by simp [Value.marked], hplace, hs⟩

/-- Values that are no texts are the same in all values of the same shapes. -/
theorem getElem?_of_ne_text (h : List.Forall₂ Value.SameShape values values') {v : Value}
    (hv : ∀ t, v ≠ .text t) (hplace : values[place]? = some v) : values'[place]? = some v := by
  obtain ⟨hlength, hshape⟩ := List.forall₂_iff_get.1 h
  obtain ⟨hlt, rfl⟩ := List.getElem?_eq_some_iff.1 hplace
  have hlt' : place < values'.length := hlength ▸ hlt
  have hsame : values'[place] = values[place] := (hshape place hlt hlt').eq_of_ne_text hv
  exact List.getElem?_eq_some_iff.2 ⟨hlt', hsame⟩

/-- **What stands for a place among marks stands for it among all values**: a content that is shown
where another run shows the mark of a place is shown at this place. -/
theorem SameOrigin.showsAt (horigin : SameOrigin d (markedValues values) values' s s')
    (hshape : List.Forall₂ Value.SameShape (markedValues values) values')
    (h : d.ShowsAt (markedValues values) place part s) : d.ShowsAt values' place part s' := by
  obtain ⟨place', part', hleft, hright⟩ := horigin
  rcases h.of_marked with ⟨rfl, rfl⟩ | ⟨v, hv, hplace, hs⟩
  · rcases hleft.of_marked with ⟨hmark, rfl⟩ | ⟨w, hw, -, hs'⟩
    · obtain rfl := mark_injective hmark
      exact hright
    · exact absurd (mem_mark place) (not_mem_of_mem_literalTexts hw (List.mem_of_getElem? hs'))
  · rcases hleft.of_marked with ⟨rfl, -⟩ | ⟨w, hw, hplace', hs'⟩
    · exact absurd (mem_mark place') (not_mem_of_mem_literalTexts hv (List.mem_of_getElem? hs))
    · -- Neither value is a text, so both are in the other values too, and show the same.
      have hfirst : d.ShowsAt values' place part s := ⟨v, getElem?_of_ne_text hshape hv hplace, hs⟩
      have hsecond : d.ShowsAt values' place' part' s :=
        ⟨w, getElem?_of_ne_text hshape hw hplace', hs'⟩
      rwa [← hsecond.unique hright]

/-! ## The forms of a statement -/

namespace StatementCalls.Alike

variable {calls calls₁ : StatementCalls}

/-- Calls that are alike to any are alike to themselves. -/
theorem sameShape_self (h : calls.Alike d Value.SameShape calls₁) :
    calls.Alike d Value.SameShape calls :=
  h.self.of_values (forall₂_self h.values fun _ _ => .self)

/-- **There are calls with marks**, and they are alike to all calls that are alike to the given
ones. -/
theorem exists_marked (h : calls.Alike d Value.SameShape calls₁) :
    ∃ marked : StatementCalls, marked.values = markedValues calls.values ∧
      ∀ calls', calls.Alike d Value.SameShape calls' → marked.Alike d Value.SameShape calls' := by
  obtain ⟨marked, hmarked, hvalues⟩ := h.exists_with_values (forall₂_markedValues h.values)
  have hshape : ∀ calls', calls.Alike d Value.SameShape calls' →
      List.Forall₂ Value.SameShape marked.values calls'.values := fun calls' h' =>
    forall₂_fork hmarked.values h'.values fun _ _ _ => .fork
  exact ⟨marked, hvalues, fun calls' h' => (hmarked.fork h').of_values (hshape calls' h')⟩

end StatementCalls.Alike

/-- A token of a statement with marks has a form, which the tokens in its place have for all other
values. -/
theorem exists_form {values₁ : List Value} {t t₁ : SqlToken}
    (h : t.AlikeIn (SameOrigin d (markedValues values) values₁) t₁) :
    ∃ form : TokenForm, ∀ {values' : List Value} {t' : SqlToken},
      List.Forall₂ Value.SameShape (markedValues values) values' →
      t.AlikeIn (SameOrigin d (markedValues values) values') t' → form.Holds d values' t' := by
  cases h with
  | string horigin =>
    obtain ⟨place, part, hshows, -⟩ := horigin
    refine ⟨.string place part, fun hshape ht' => ?_⟩
    cases ht' with
    | string horigin' => exact .string (horigin'.showsAt hshape hshows)
  | name content =>
    refine ⟨.name content, fun _ ht' => ?_⟩
    cases ht'
    exact .name content
  | symbol c =>
    refine ⟨.symbol c, fun _ ht' => ?_⟩
    cases ht'
    exact .symbol c

/-- The tokens of a statement with marks have forms, which the tokens of the statements with other
values have too. -/
theorem exists_forms {values₁ : List Value} {ts ts₁ : List SqlToken}
    (h : List.Forall₂ (SqlToken.AlikeIn (SameOrigin d (markedValues values) values₁)) ts ts₁) :
    ∃ forms : List TokenForm, ∀ {values' : List Value} {ts' : List SqlToken},
      List.Forall₂ Value.SameShape (markedValues values) values' →
      List.Forall₂ (SqlToken.AlikeIn (SameOrigin d (markedValues values) values')) ts ts' →
      List.Forall₂ (TokenForm.Holds d values') forms ts' := by
  induction h with
  | nil =>
    refine ⟨[], fun _ hts' => ?_⟩
    rw [List.forall₂_nil_left_iff.1 hts']
    exact .nil
  | @cons t t₁ ts ts₁ ht _ ih =>
    obtain ⟨forms, hforms⟩ := ih
    obtain ⟨form, hform⟩ := exists_form ht
    refine ⟨form :: forms, fun hshape hts' => ?_⟩
    obtain ⟨t', rest, ht', hrest, rfl⟩ := List.forall₂_cons_left_iff.1 hts'
    exact .cons (hform hshape ht') (hforms hshape hrest)

/-- **Values cannot change the structure of a statement.** All sequences of calls, of any statement
kind and in any dialect, that differ from given ones only in the characters of their texts, put in
no SQL text as it is and combine SELECTs of the dialect only, fail with them for the same reason, or
build statements with one list of token forms.  So their texts have the same tokens but for string
literals, and string literals at the same place hold the very texts that stand at one place of the
calls, which is the same one whatever the texts are, or the same content of another value. -/
theorem same_tokens_of_same_calls (d : Dialect) (calls : StatementCalls) (terminated : Bool) :
    (∃ e, ∀ calls', calls.Alike d Value.SameShape calls' →
      (calls.run d).text terminated = .error e ∧ (calls'.run d).text terminated = .error e) ∨
    ∃ forms : List TokenForm, ∀ calls', calls.Alike d Value.SameShape calls' →
      ∃ sql sql' ts ts', (calls.run d).text terminated = .ok sql ∧
        (calls'.run d).text terminated = .ok sql' ∧
        d.scan sql.toList = some ts ∧ d.scan sql'.toList = some ts' ∧
        List.Forall₂ (SqlToken.AlikeIn (SameOrigin d calls.values calls'.values)) ts ts' ∧
        List.Forall₂ (TokenForm.Holds d calls.values) forms ts ∧
        List.Forall₂ (TokenForm.Holds d calls'.values) forms ts' := by
  by_cases hany : ∃ calls₁, calls.Alike d Value.SameShape calls₁
  case neg => exact .inr ⟨[], fun calls' h => absurd ⟨calls', h⟩ hany⟩
  obtain ⟨calls₁, h₁⟩ := hany
  obtain ⟨marked, hvalues, hmarked⟩ := h₁.exists_marked
  have hself : calls.Alike d Value.SameShape calls := h₁.sameShape_self
  have hresult : ∀ calls', calls.Alike d Value.SameShape calls' →
      ResultAlike (Parallel d (SameOrigin d (markedValues calls.values) calls'.values))
        ((marked.run d).text terminated) ((calls'.run d).text terminated) := fun calls' h =>
    hvalues ▸ (hmarked calls' h).sameOrigin terminated
  generalize (marked.run d).text terminated = result at hresult
  cases result with
  | error e =>
    have hfails : ∀ calls', calls.Alike d Value.SameShape calls' →
        (calls'.run d).text terminated = .error e := fun calls' h => (hresult calls' h).eq_error
    exact .inl ⟨e, fun calls' h => ⟨hfails calls hself, hfails calls' h⟩⟩
  | ok sql₀ =>
    have htokens : ∀ calls', calls.Alike d Value.SameShape calls' →
        ∃ sql' ts₀ ts', (calls'.run d).text terminated = .ok sql' ∧ d.scan sql₀.toList = some ts₀ ∧
          d.scan sql'.toList = some ts' ∧ List.Forall₂ (SqlToken.AlikeIn
            (SameOrigin d (markedValues calls.values) calls'.values)) ts₀ ts' := by
      intro calls' h
      obtain ⟨sql', hsql', hparallel⟩ := (hresult calls' h).exists_eq_ok
      obtain ⟨ts₀, ts', hscan⟩ := hparallel.scan
      exact ⟨sql', ts₀, ts', hsql', hscan⟩
    -- The marks tell the forms, and all the other values fill these.
    obtain ⟨sql, ts₀, ts, hsql, hscan₀, hscan, halike⟩ := htokens calls hself
    obtain ⟨forms, hforms⟩ := exists_forms halike
    have hshape : ∀ calls', calls.Alike d Value.SameShape calls' →
        List.Forall₂ Value.SameShape (markedValues calls.values) calls'.values := fun calls' h =>
      hvalues ▸ (hmarked calls' h).values
    refine .inr ⟨forms, fun calls' h => ?_⟩
    obtain ⟨sql', ts₀', ts', hsql', hscan₀', hscan', halike'⟩ := htokens calls' h
    obtain rfl : ts₀ = ts₀' := Option.some.inj (hscan₀.symm.trans hscan₀')
    have hfilled := hforms (hshape calls hself) halike
    have hfilled' := hforms (hshape calls' h) halike'
    exact ⟨sql, sql', ts, ts', hsql, hsql', hscan, hscan',
      forall₂_fork hfilled hfilled' fun _ _ _ => TokenForm.Holds.alikeIn, hfilled, hfilled'⟩

/-- The calls for the users of a name. -/
def usersNamed (name : String) : StatementCalls :=
  .select [.fromTable ⟨"users", none⟩, .filter (.compare .and "name" .equal (.text name))]

/-- The tokens of the statement for the users of a name. -/
def usersNamedTokens (name : String) : List SqlToken :=
  "SELECT * FROM ".toList.map .symbol ++ .name "users" :: " WHERE ".toList.map .symbol
    ++ .name "name" :: " = ".toList.map .symbol ++ [.string name]

/-- A name that tries to leave its literal stays inside: the statement has the tokens that it has
for any name. -/
theorem same_tokens_of_injected_name :
    let injected := "'; DROP TABLE users; --"
    (usersNamed "x").Alike .postgreSql Value.SameShape (usersNamed injected) ∧
    ((usersNamed "x").run .postgreSql).text false
      = .ok "SELECT * FROM \"users\" WHERE \"name\" = 'x'" ∧
    ((usersNamed injected).run .postgreSql).text false
      = .ok "SELECT * FROM \"users\" WHERE \"name\" = '''; DROP TABLE users; --'" ∧
    Dialect.postgreSql.scan "SELECT * FROM \"users\" WHERE \"name\" = 'x'".toList
      = some (usersNamedTokens "x") ∧
    Dialect.postgreSql.scan
        "SELECT * FROM \"users\" WHERE \"name\" = '''; DROP TABLE users; --'".toList
      = some (usersNamedTokens injected) ∧
    ∃ forms : List TokenForm,
      List.Forall₂ (TokenForm.Holds .postgreSql [.text "x"]) forms (usersNamedTokens "x") ∧
      List.Forall₂ (TokenForm.Holds .postgreSql [.text injected]) forms
        (usersNamedTokens injected) := by
  intro injected
  have halike : (usersNamed "x").Alike .postgreSql Value.SameShape (usersNamed injected) :=
    .select (.cons (.fixed rfl) (.cons (.filter (.compare _ _ _ (.text _ _))) .nil))
  have hone : ((usersNamed "x").run .postgreSql).text false
      = .ok "SELECT * FROM \"users\" WHERE \"name\" = 'x'" := by decide +kernel
  have hother : ((usersNamed injected).run .postgreSql).text false
      = .ok "SELECT * FROM \"users\" WHERE \"name\" = '''; DROP TABLE users; --'" := by
    decide +kernel
  have hscan : Dialect.postgreSql.scan "SELECT * FROM \"users\" WHERE \"name\" = 'x'".toList
      = some (usersNamedTokens "x") := by decide +kernel
  have hscan' : Dialect.postgreSql.scan
      "SELECT * FROM \"users\" WHERE \"name\" = '''; DROP TABLE users; --'".toList
      = some (usersNamedTokens injected) := by decide +kernel
  refine ⟨halike, hone, hother, hscan, hscan', ?_⟩
  rcases same_tokens_of_same_calls .postgreSql (usersNamed "x") false with ⟨e, hfails⟩ | hforms
  · -- The statement for the one name is built, so this is not the failing case.
    have hfail := (hfails _ halike).1
    rw [hone] at hfail
    cases hfail
  · obtain ⟨forms, hfilled⟩ := hforms
    obtain ⟨sql, sql', ts, ts', hsql, hsql', hts, hts', -, hform, hform'⟩ := hfilled _ halike
    obtain rfl := Except.ok.inj (hone.symm.trans hsql)
    obtain rfl := Except.ok.inj (hother.symm.trans hsql')
    obtain rfl := Option.some.inj (hscan.symm.trans hts)
    obtain rfl := Option.some.inj (hscan'.symm.trans hts')
    exact ⟨forms, hform, hform'⟩

end SqlBuilder
