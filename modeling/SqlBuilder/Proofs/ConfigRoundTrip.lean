import Mathlib
import SqlBuilder.Proofs.WrittenFields

/-! # Configurations survive a round trip

Reading a configuration sorts its maps, names its data sources and fills in defaults, and it takes
several shapes and spellings for the same thing.  Writing one leaves out empty results and writes
out what is missing.  What was read is a fixed point all the same: it can be written
(`Config.isChecked_of_ofText`), and it is what is read from its own text
(`Config.IsWritable.ofText_render`), if no canned row holds a fraction. -/

namespace SqlBuilder

/-! ## Data sources -/

namespace DataSource

/-- **A data source that its JSON text keeps**, inside of brackets that leave room for `depth` more:
its canned results are sorted, and their rows can be written. -/
structure IsWritable (depth : Nat) (s : DataSource) : Prop where
  /-- The canned results are in the order of their statements. -/
  sorted : s.results.IsSorted
  /-- The rows can be written. -/
  rows : ∀ r ∈ s.results, ∀ row ∈ r.2, (Json.object row).Writable depth

/-- A port as it is written. -/
def portJson (port : Option UInt16) : Json :=
  match port with
  | some n => .number (.natural (UInt64.ofNat n.toNat))
  | none => .null

/-- The members of a data source as it is written. -/
def members (s : DataSource) : List (String × Json) :=
  match s.toJson with
  | .object members => members
  | _ => []

/-- A data source is written as its members. -/
theorem toJson_eq (s : DataSource) : s.toJson = .object s.members := rfl

/-- The keys of a written data source are its fields, the last of which may be left out. -/
theorem keys_members (s : DataSource) :
    s.members.map Prod.fst = if s.results.isEmpty then fieldNames.dropLast else fieldNames := by
  by_cases h : s.results.isEmpty <;> simp [members, toJson, h, fieldNames]

/-- No key of a written data source is repeated. -/
theorem nodup_members (s : DataSource) : (s.members.map Prod.fst).Nodup := by
  have hnodup : fieldNames.Nodup := by decide
  rw [keys_members]
  split
  · exact hnodup.sublist (List.dropLast_sublist _)
  · exact hnodup

variable {depth : Nat} {s : DataSource}

/-- A data source that its text keeps can be written. -/
theorem IsWritable.writable_toJson (h : s.IsWritable depth) : s.toJson.Writable (depth + 3) := by
  -- The rows are inside of the data source, the map of its results and a list.
  have hresults : Json.Writable (depth + 2)
      (.object (s.results.map fun r => (r.1, JsonRows.toJson r.2))) := by
    refine .object ?_ fun m hm => ?_
    · rw [List.map_map]
      exact h.sorted.nodup
    · obtain ⟨r, hr, rfl⟩ := List.mem_map.1 hm
      refine .array fun item hitem => ?_
      obtain ⟨row, hrow, rfl⟩ := List.mem_map.1 hitem
      exact h.rows r hr row hrow
  have hoption : ∀ o : Option String, (Json.ofOption o).Writable (depth + 2) := by
    intro o
    cases o with
    | none => exact .null
    | some text => exact .string text
  have hport : (portJson s.port).Writable (depth + 2) := by
    cases s.port with
    | none => exact .null
    | some n => exact .natural _
  rw [toJson_eq]
  refine .object s.nodup_members ?_
  rw [members, toJson]
  simp only [List.forall_mem_append, List.forall_mem_cons]
  refine ⟨⟨.string _, .string _, hoption _, hoption _, hport, hoption _, hoption _, hoption _,
    hoption _, hoption _, .bool _, by simp⟩, ?_⟩
  split
  · simp
  · simpa using hresults

/-- A written port is read. -/
theorem optional?_port?_portJson (port : Option UInt16) :
    JsonSource.optional? JsonSource.port? (portJson port).toSource = some port := by
  cases port with
  | none => rfl
  | some n =>
    -- A port has 16 bits, and so its number of 64 bits is the same.
    have hlt : n.toNat < UInt16.size := n.toNat_lt
    have hsize : UInt16.size < UInt64.size := by decide
    have hread : JsonSource.port? (portJson (some n)).toSource = some n := by
      rw [portJson, Json.toSource, JsonSource.port?, JsonNumber.meaning_natural]
      dsimp only
      rw [UInt64.toNat_ofNat_of_lt' (Nat.lt_trans hlt hsize), if_pos hlt, UInt16.ofNat_toNat]
    exact congrArg (Option.map some) hread

/-- A written dialect is read. -/
theorem ofText?_name (d : Dialect) :
    ((Json.string d.name).toSource.text?.bind Dialect.ofText?) = some d := by
  have hname : Dialect.ofText? d.name = some d := by cases d <;> decide +kernel
  rw [Json.toSource, JsonSource.text?, stringText_stringPieces]
  exact hname

/-- A field of a written data source is read from its member. -/
theorem field_members {α : Type} {name : String} {value : Json} (hm : (name, value) ∈ s.members)
    {default : α} {read : JsonSource → Option α} {result : α}
    (hread : read value.toSource = some result) :
    JsonSource.field (JsonSource.writtenFields s.members) name default read = some result :=
  (JsonSource.field_writtenFields s.nodup_members hm default read).trans hread

/-- An optional text of a written data source is read. -/
theorem field_members_ofOption {name : String} {text : Option String}
    (hm : (name, Json.ofOption text) ∈ s.members) :
    JsonSource.field (JsonSource.writtenFields s.members) name none
      (JsonSource.optional? JsonSource.text?) = some text :=
  field_members hm (JsonSource.optional?_text?_ofOption text)

/-- The canned results of a written data source are read, and there are none if they were left
out. -/
theorem IsWritable.field_results (h : s.IsWritable depth) :
    JsonSource.field (JsonSource.writtenFields s.members) "results" []
      (JsonSource.sorted? (depth + 2) (JsonSource.rows? (depth + 1))) = some s.results := by
  by_cases hempty : s.results.isEmpty
  · have hkeys : "results" ∉ s.members.map Prod.fst := by
      rw [keys_members, if_pos hempty]
      decide
    rw [JsonSource.field_of_not_mem hkeys, List.isEmpty_iff.1 hempty]
  · have hmem : ("results", Json.object (s.results.map fun r => (r.1, JsonRows.toJson r.2)))
        ∈ s.members := by simp [members, toJson, hempty]
    exact field_members hmem
      (JsonSource.sorted?_object h.sorted fun r hr => JsonSource.rows?_toJson (h.rows r hr))

/-- **A written data source is read.** -/
theorem IsWritable.ofSource?_toJson (h : s.IsWritable depth) :
    ofSource? (depth + 3) s.toJson.toSource = some s := by
  have hid : ("id", Json.string s.id) ∈ s.members := by simp [members, toJson]
  have hdialect : ("dialect", Json.string s.dialect.name) ∈ s.members := by simp [members, toJson]
  have hdriver : ("driver", Json.ofOption s.driver) ∈ s.members := by simp [members, toJson]
  have hhost : ("host", Json.ofOption s.host) ∈ s.members := by simp [members, toJson]
  have hport : ("port", portJson s.port) ∈ s.members := by
    cases hport : s.port <;> simp [members, toJson, portJson, hport]
  have hdatabase : ("database", Json.ofOption s.database) ∈ s.members := by
    simp [members, toJson]
  have husername : ("username", Json.ofOption s.username) ∈ s.members := by
    simp [members, toJson]
  have hpassword : ("password", Json.ofOption s.password) ∈ s.members := by
    simp [members, toJson]
  have hcharset : ("charset", Json.ofOption s.charset) ∈ s.members := by simp [members, toJson]
  have hrole : ("role", Json.ofOption s.role) ∈ s.members := by simp [members, toJson]
  have hpersistent : ("persistent", Json.bool s.persistent) ∈ s.members := by
    simp [members, toJson]
  rw [ofSource?, toJson_eq]
  refine bind_eq_of_eq_some (JsonSource.structure?_object s.nodup_members) ?_
  -- The fields in the order in which they are read.
  refine bind_eq_of_eq_some (field_members hid (stringText_stringPieces s.id)) ?_
  refine bind_eq_of_eq_some (field_members hdialect (ofText?_name s.dialect)) ?_
  refine bind_eq_of_eq_some (field_members_ofOption hdriver) ?_
  refine bind_eq_of_eq_some (field_members_ofOption hhost) ?_
  refine bind_eq_of_eq_some (field_members hport (optional?_port?_portJson s.port)) ?_
  refine bind_eq_of_eq_some (field_members_ofOption hdatabase) ?_
  refine bind_eq_of_eq_some (field_members_ofOption husername) ?_
  refine bind_eq_of_eq_some (field_members_ofOption hpassword) ?_
  refine bind_eq_of_eq_some (field_members_ofOption hcharset) ?_
  refine bind_eq_of_eq_some (field_members_ofOption hrole) ?_
  refine bind_eq_of_eq_some (field_members hpersistent rfl) ?_
  exact bind_eq_of_eq_some h.field_results rfl

/-- **A data source whose canned rows hold no fraction.** -/
def IsExact (s : DataSource) : Prop := ∀ r ∈ s.results, ∀ row ∈ r.2, (Json.object row).IsExact

/-- A data source that was read can be written if its rows hold no fraction. -/
theorem isWritable_of_ofSource? {source : JsonSource} (h : ofSource? depth source = some s)
    (hexact : s.IsExact) : s.IsWritable (depth - 3) := by
  rw [ofSource?] at h
  obtain ⟨given, -, h⟩ := Option.bind_eq_some_iff.1 h
  obtain ⟨id, -, h⟩ := Option.bind_eq_some_iff.1 h
  obtain ⟨dialect, -, h⟩ := Option.bind_eq_some_iff.1 h
  obtain ⟨driver, -, h⟩ := Option.bind_eq_some_iff.1 h
  obtain ⟨host, -, h⟩ := Option.bind_eq_some_iff.1 h
  obtain ⟨port, -, h⟩ := Option.bind_eq_some_iff.1 h
  obtain ⟨database, -, h⟩ := Option.bind_eq_some_iff.1 h
  obtain ⟨username, -, h⟩ := Option.bind_eq_some_iff.1 h
  obtain ⟨password, -, h⟩ := Option.bind_eq_some_iff.1 h
  obtain ⟨charset, -, h⟩ := Option.bind_eq_some_iff.1 h
  obtain ⟨role, -, h⟩ := Option.bind_eq_some_iff.1 h
  obtain ⟨persistent, -, h⟩ := Option.bind_eq_some_iff.1 h
  obtain ⟨results, hresults, h⟩ := Option.bind_eq_some_iff.1 h
  obtain rfl := Option.some.inj h
  -- All fields but the results can be written whatever they are.
  rcases JsonSource.eq_default_or_exists_of_field hresults with rfl | ⟨source, hsource⟩
  · exact ⟨List.Pairwise.nil, by simp⟩
  · obtain ⟨hsorted, hread⟩ := JsonSource.isSorted_of_sorted? hsource
    refine ⟨hsorted, fun r hr row hrow => ?_⟩
    obtain ⟨rowsSource, hrows⟩ := hread r hr
    obtain ⟨item, hitem⟩ := JsonSource.exists_meaning_of_rows? hrows row hrow
    exact Json.writable_of_meaning item hitem (hexact r hr row hrow)

/-- A data source under a name has a name, unless it was given an empty one. -/
theorem id_named (key : String) (s : DataSource) : (s.named key).id ≠ "" ∨ key = "" := by
  rw [named]
  split
  · exact (em (key = "")).symm
  · next h => exact Or.inl (by simpa using h)

/-- A data source that has a name keeps it. -/
theorem named_of_id {key : String} (h : s.id ≠ "" ∨ key = "") : s.named key = s := by
  rw [named]
  split
  · next hempty =>
    have hid : s.id = "" := by simpa using hempty
    have hkey : key = "" := h.resolve_left fun hne => hne hid
    rw [hkey, ← hid]
  · rfl

/-- The name does not matter for the canned results. -/
theorem results_named (key : String) (s : DataSource) : (s.named key).results = s.results := by
  rw [named]
  split <;> rfl

end DataSource

/-! ## Configurations -/

namespace Config

/-- **A configuration whose canned rows hold no fraction.** -/
def IsExact (c : Config) : Prop := ∀ s ∈ c.dataSources, s.2.IsExact

/-- A configuration that its JSON text keeps: its data sources are sorted and can be written. -/
structure IsWritable (c : Config) : Prop where
  /-- The data sources are in the order of their keys. -/
  sorted : c.dataSources.IsSorted
  /-- Each data source can be written. -/
  sources : ∀ s ∈ c.dataSources, s.2.IsWritable (nestingBound - 5)

/-- **A configuration that was checked**: every data source has a name, and the default is one of
them. -/
structure IsChecked (c : Config) : Prop where
  /-- Every data source has a name, unless its key is empty. -/
  named : ∀ s ∈ c.dataSources, s.2.id ≠ "" ∨ s.1 = ""
  /-- The default is a data source. -/
  default : ∀ name, c.defaultName = some name → (Entries.find name c.dataSources).isSome = true

variable {c c' : Config}

/-- The members of a configuration as it is written. -/
def members (c : Config) : List (String × Json) :=
  [("data_sources", .object (c.dataSources.map fun s => (s.1, s.2.toJson))),
    ("default", .ofOption c.defaultName)]

/-- A configuration is written as its members. -/
theorem toJson_eq (c : Config) : c.toJson = .object c.members := rfl

/-- No key of a written configuration is repeated. -/
theorem nodup_members (c : Config) : (c.members.map Prod.fst).Nodup := by
  have hkeys : c.members.map Prod.fst = fieldNames := rfl
  rw [hkeys]
  decide

/-- A configuration that its text keeps can be written. -/
theorem IsWritable.writable_toJson (h : c.IsWritable) : c.toJson.Writable nestingBound := by
  have hsources : Json.Writable (nestingBound - 1)
      (.object (c.dataSources.map fun s => (s.1, s.2.toJson))) := by
    refine .object ?_ fun m hm => ?_
    · rw [List.map_map]
      exact h.sorted.nodup
    · obtain ⟨s, hs, rfl⟩ := List.mem_map.1 hm
      exact (h.sources s hs).writable_toJson
  have hdefault : (Json.ofOption c.defaultName).Writable (nestingBound - 1) := by
    cases c.defaultName with
    | none => exact .null
    | some name => exact .string name
  refine .object c.nodup_members ?_
  simp only [List.forall_mem_cons]
  exact ⟨hsources, hdefault, by simp⟩

/-- **A written configuration is read.** -/
theorem IsWritable.ofSource?_toJson (h : c.IsWritable) :
    ofSource? c.toJson.toSource = some c := by
  have hsources : ("data_sources", Json.object (c.dataSources.map fun s => (s.1, s.2.toJson)))
      ∈ c.members := by simp [members]
  have hdefault : ("default", Json.ofOption c.defaultName) ∈ c.members := by simp [members]
  rw [ofSource?, toJson_eq]
  refine bind_eq_of_eq_some (JsonSource.structure?_object c.nodup_members) ?_
  refine bind_eq_of_eq_some ((JsonSource.field_writtenFields c.nodup_members hsources _ _).trans
    (JsonSource.sorted?_object h.sorted fun s hs => (h.sources s hs).ofSource?_toJson)) ?_
  exact bind_eq_of_eq_some ((JsonSource.field_writtenFields c.nodup_members hdefault _ _).trans
    (JsonSource.optional?_text?_ofOption c.defaultName)) rfl

/-- A configuration that was read can be written if its rows hold no fraction. -/
theorem isWritable_of_ofSource? {source : JsonSource} (h : ofSource? source = some c)
    (hexact : c.IsExact) : c.IsWritable := by
  rw [ofSource?] at h
  obtain ⟨given, -, h⟩ := Option.bind_eq_some_iff.1 h
  obtain ⟨dataSources, hsources, h⟩ := Option.bind_eq_some_iff.1 h
  obtain ⟨defaultName, -, h⟩ := Option.bind_eq_some_iff.1 h
  obtain rfl := Option.some.inj h
  rcases JsonSource.eq_default_or_exists_of_field hsources with rfl | ⟨source, hsource⟩
  · exact ⟨List.Pairwise.nil, by simp⟩
  · obtain ⟨hsorted, hread⟩ := JsonSource.isSorted_of_sorted? hsource
    refine ⟨hsorted, fun s hs => ?_⟩
    obtain ⟨source, hs'⟩ := hread s hs
    exact DataSource.isWritable_of_ofSource? hs' (hexact s hs)

/-- What the check of a configuration does. -/
theorem eq_of_checked (h : c.checked = .ok c') :
    c' = ⟨c.dataSources.map fun s => (s.1, s.2.named s.1), c.defaultName⟩ ∧ c'.IsChecked := by
  have hnamed : ∀ s ∈ c.dataSources.map (fun s => (s.1, s.2.named s.1)),
      s.2.id ≠ "" ∨ s.1 = "" := by
    intro s hs
    obtain ⟨source, -, rfl⟩ := List.mem_map.1 hs
    exact source.2.id_named source.1
  rw [checked] at h
  cases hdefault : c.defaultName with
  | none =>
    rw [hdefault] at h
    obtain rfl := Except.ok.inj h
    exact ⟨rfl, hnamed, by simp⟩
  | some name =>
    rw [hdefault] at h
    dsimp only at h
    split at h
    · next hfound =>
      obtain rfl := Except.ok.inj h
      refine ⟨rfl, hnamed, ?_⟩
      rintro _ ⟨⟩
      exact hfound
    · cases h

/-- A configuration that was checked passes the check as it is. -/
theorem IsChecked.checked_eq (h : c.IsChecked) : c.checked = .ok c := by
  have hnamed : c.dataSources.map (fun s => (s.1, s.2.named s.1)) = c.dataSources := by
    refine (List.map_congr_left fun s hs => ?_).trans (List.map_id _)
    rw [DataSource.named_of_id (h.named s hs)]
    rfl
  obtain ⟨dataSources, defaultName⟩ := c
  rw [checked, hnamed]
  cases defaultName with
  | none => rfl
  | some name => exact if_pos (h.default name rfl)

/-- **A configuration that was read was checked**, and can be written if its rows hold no
fraction. -/
theorem isChecked_of_ofText {t : String} (h : ofText t = .ok c) :
    c.IsChecked ∧ (c.IsExact → c.IsWritable) := by
  rw [ofText] at h
  split at h
  · next read hread =>
    obtain ⟨rfl, hchecked⟩ := eq_of_checked h
    refine ⟨hchecked, fun hexact => ?_⟩
    obtain ⟨source, -, hsource⟩ := Option.bind_eq_some_iff.1 hread
    -- A name makes no difference for the rows.
    have hwritable : read.IsWritable := by
      refine isWritable_of_ofSource? hsource fun s hs => ?_
      have hnamed := hexact _ (List.mem_map_of_mem hs)
      rwa [DataSource.IsExact, DataSource.results_named] at hnamed
    refine ⟨List.pairwise_map.2 hwritable.sorted, fun s hs => ?_⟩
    obtain ⟨unnamed, hmem, rfl⟩ := List.mem_map.1 hs
    obtain ⟨hsorted, hrows⟩ := hwritable.sources unnamed hmem
    constructor
    · rwa [DataSource.results_named]
    · rwa [DataSource.results_named]
  · cases h

/-- **The text of a configuration is read as the configuration.** -/
theorem IsWritable.ofText_render (h : c.IsWritable) (hchecked : c.IsChecked) :
    ofText c.toJson.render = .ok c := by
  rw [ofText, Json.ofText?_render h.writable_toJson, Option.bind_some, h.ofSource?_toJson]
  exact hchecked.checked_eq

/-- A data source that is given by its name is there under the name. -/
theorem dataSource_eq_ok_iff (c : Config) (name : String) (s : DataSource) :
    c.dataSource name = .ok s ↔ Entries.find name c.dataSources = some s := by
  unfold dataSource
  cases Entries.find name c.dataSources <;> simp

/-- There is a default data source if one is named or there is only one. -/
theorem IsChecked.exists_defaultDataSource_iff (h : c.IsChecked) :
    (∃ s, c.defaultDataSource = .ok s) ↔ c.defaultName ≠ none ∨ c.dataSources.length = 1 := by
  have hdefault := h.default
  obtain ⟨dataSources, defaultName⟩ := c
  cases defaultName with
  | some name =>
    -- A name that was checked is that of a data source.
    obtain ⟨s, hs⟩ := Option.isSome_iff_exists.1 (hdefault name rfl)
    exact iff_of_true ⟨s, (dataSource_eq_ok_iff _ name s).2 hs⟩ (Or.inl (by simp))
  | none =>
    have hsingle : (∃ s, defaultDataSource ⟨dataSources, none⟩ = .ok s)
        ↔ dataSources.length = 1 := by
      rcases dataSources with _ | ⟨only, _ | ⟨second, rest⟩⟩ <;> simp [defaultDataSource]
    simpa using hsingle

/-- The default data source is the named one, or the only one. -/
theorem mem_of_defaultDataSource {s : DataSource} (h : c.defaultDataSource = .ok s) :
    (∀ name, c.defaultName = some name → (name, s) ∈ c.dataSources) ∧
    (c.defaultName = none → ∃ key, c.dataSources = [(key, s)]) := by
  obtain ⟨dataSources, defaultName⟩ := c
  cases defaultName with
  | some name =>
    have hfound := Entries.mem_of_find ((dataSource_eq_ok_iff _ name s).1 h)
    refine ⟨?_, by simp⟩
    rintro _ ⟨⟩
    exact hfound
  | none =>
    refine ⟨by simp, fun _ => ?_⟩
    rcases dataSources with _ | ⟨⟨key, source⟩, _ | ⟨second, rest⟩⟩
    · simp [defaultDataSource] at h
    · obtain rfl : source = s := by simpa [defaultDataSource] using h
      exact ⟨key, rfl⟩
    · simp [defaultDataSource] at h

/-- **Configurations survive a round trip.** A configuration that was read from a text is read again
from its own text, with every canned row as it was, if the rows hold no fraction.  Its data sources
have names unless their keys are empty, and it has a default data source exactly if one is named or
there is only one: that one. -/
theorem survives_round_trip {t : String} {c : Config} (h : ofText t = .ok c) :
    (c.IsExact → ofText c.toJson.render = .ok c) ∧
    (∀ s ∈ c.dataSources, s.2.id ≠ "" ∨ s.1 = "") ∧
    ((∃ s, c.defaultDataSource = .ok s) ↔ c.defaultName ≠ none ∨ c.dataSources.length = 1) ∧
    ∀ s, c.defaultDataSource = .ok s →
      (∀ name, c.defaultName = some name → (name, s) ∈ c.dataSources) ∧
      (c.defaultName = none → ∃ key, c.dataSources = [(key, s)]) := by
  obtain ⟨hchecked, hwritable⟩ := isChecked_of_ofText h
  exact ⟨fun hexact => (hwritable hexact).ofText_render hchecked, hchecked.named,
    hchecked.exists_defaultDataSource_iff, fun s hs => mem_of_defaultDataSource hs⟩

/-- A configuration whose data source gets its name from its key and has one canned row. -/
theorem survives_round_trip_of_canned_row :
    let t := "\x7b\"data_sources\": \x7b\"main\": \x7b\"dialect\": \"postgres\", " ++
      "\"results\": \x7b\"SELECT 1\": [\x7b\"one\": 1, \"a\": null\x7d]\x7d\x7d\x7d\x7d"
    let c : Config := ⟨[("main", { DataSource.new "main" .postgreSql with
      results := [("SELECT 1", [[("one", .number (.natural 1)), ("a", .null)]])] })], none⟩
    ofText t = .ok c ∧ c.IsExact ∧
    (c.IsExact → ofText c.toJson.render = .ok c) ∧
    (∀ s ∈ c.dataSources, s.2.id ≠ "" ∨ s.1 = "") ∧
    ((∃ s, c.defaultDataSource = .ok s) ↔ c.defaultName ≠ none ∨ c.dataSources.length = 1) ∧
    ∀ s, c.defaultDataSource = .ok s →
      (∀ name, c.defaultName = some name → (name, s) ∈ c.dataSources) ∧
      (c.defaultName = none → ∃ key, c.dataSources = [(key, s)]) := by
  intro t c
  have hread : ofText t = .ok c := by
    subst t c
    cbv
  have hexact : c.IsExact := by
    intro s hs r hr row hrow
    obtain rfl := List.mem_singleton.1 hs
    obtain rfl := List.mem_singleton.1 hr
    obtain rfl := List.mem_singleton.1 hrow
    refine .object ?_
    simp only [List.forall_mem_cons]
    exact ⟨.natural 1, .null, by simp⟩
  exact ⟨hread, hexact, survives_round_trip hread⟩

end Config

end SqlBuilder
