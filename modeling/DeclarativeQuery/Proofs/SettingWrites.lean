import Mathlib.Data.List.Basic
import DeclarativeQuery.Proofs.SettingNames
import DeclarativeQuery.Proofs.SettingSources
import DeclarativeQuery.Settings.Layers

/-!
When the library for files that hold JSON goes key by key. Under one key only the names count that
begin with it. A layer that has plain values there, and not parts of one or tables, replaces what
the layers below it say of the key.
-/

namespace DeclarativeQuery.Settings

/-! What is written under one key. -/

abbrev Write := KeyPath × LayerValue

def written (writes : List Write) (present : Option LayerValue) : Option LayerValue :=
  writes.foldl (fun present (path, value) => some (value.put path (present.getD .nothing))) present

namespace Layer

def under (key : String) (layer : Layer) : List Write :=
  layer.filterMap fun (name, value) =>
    match KeyPath.ofName name with
    | .entry first :: path => if first = key then some (path, value) else none
    | _ => none

@[simp]
theorem under_nil (key : String) : under key [] = [] := rfl

theorem under_cons {name first : String} {path : KeyPath}
    (leads : KeyPath.ofName name = .entry first :: path) (key : String) (value : LayerValue)
    (rest : Layer) : under key ((name, value) :: rest) =
      if first = key then (path, value) :: under key rest else under key rest := by
  simp only [under, List.filterMap_cons, leads]
  by_cases same : first = key <;> simp [same]

theorem field?_put (name : String) (value present : LayerValue) (key : String) :
    (value.put (KeyPath.ofName name) present).field? key =
      written (under key [(name, value)]) (present.field? key) := by
  obtain ⟨first, path, leads, _⟩ := KeyPath.ofName_eq_cons name
  rw [leads, LayerValue.put, LayerValue.field?_withField, under_cons leads]
  by_cases same : first = key
  · subst same
    simp [written, LayerValue.field]
  · simp [written, same, Ne.symm same]

theorem written_append (first second : List Write) (present : Option LayerValue) :
    written (first ++ second) present = written second (written first present) :=
  List.foldl_append

theorem onto_cons (name : String) (value : LayerValue) (rest : Layer) (present : LayerValue) :
    onto ((name, value) :: rest) present = onto rest (value.put (KeyPath.ofName name) present) :=
  List.foldl_cons ..

theorem field?_onto (layer : Layer) (present : LayerValue) (key : String) :
    (layer.onto present).field? key = written (layer.under key) (present.field? key) := by
  induction layer generalizing present with
  | nil => rfl
  | cons first rest ih =>
      rcases first with ⟨name, value⟩
      have apart :
          under key ((name, value) :: rest) = under key [(name, value)] ++ under key rest :=
        List.filterMap_append (l := [(name, value)])
      rw [onto_cons, apart, written_append, ← field?_put, ih]

theorem merged_concat (below : List Layer) (layer : Layer) :
    merged (below ++ [layer]) = layer.onto (merged below) := by
  rw [merged, List.foldl_append]
  rfl

end Layer

/-! Plain values replace what is there. -/

theorem LayerValue.onto_of_not_table {value : LayerValue}
    (plain : ∀ entries, value ≠ .table entries) (present : LayerValue) :
    value.onto present = value := by
  cases value with
  | table entries => exact absurd rfl (plain entries)
  | nothing | flag _ | whole _ | double _ | text _ | list _ => rfl

theorem LayerValue.ofVariable_ne_table (options : VariableOptions) (key text : String)
    (entries : List (String × LayerValue)) : ofVariable options key text ≠ .table entries := by
  simp only [ofVariable, split]
  repeat' split
  all_goals exact nofun

/-- What the layer says of the key are values of the key itself, and no tables: a table goes into
what is there, and an item of a list changes the list that is there. -/
def Layer.Plain (layer : Layer) (key : String) : Prop :=
  ∀ write ∈ layer.under key, write.1 = [] ∧ ∀ entries, write.2 ≠ .table entries

theorem Layer.plain_nil (key : String) : Layer.Plain [] key := nofun

/-- One more value for a key itself. -/
theorem Layer.Plain.cons {name : String} (own : KeyPath.ofName name = [.entry name])
    {value : LayerValue} (bare : ∀ entries, value ≠ .table entries) {rest : Layer} {key : String}
    (plain : rest.Plain key) : Layer.Plain ((name, value) :: rest) key := by
  intro write member
  rw [under_cons own] at member
  split at member
  · rcases List.mem_cons.mp member with rfl | other
    · exact ⟨rfl, bare⟩
    · exact plain write other
  · exact plain write member

theorem Layer.written_of_plain {key : String} (own : KeyPath.ofName key = [.entry key])
    {layer : Layer} (plain : layer.Plain key) (present : Option LayerValue) :
    written (layer.under key) present = (lastNamed? key layer).or present := by
  induction layer generalizing present with
  | nil => rfl
  | cons entry rest ih =>
      rcases entry with ⟨name, value⟩
      obtain ⟨first, path, leads, whole⟩ := KeyPath.ofName_eq_cons name
      rw [Plain, under_cons leads] at plain
      rw [under_cons leads, lastNamed?]
      by_cases same : first = key
      · subst same
        simp only [↓reduceIte, List.forall_mem_cons] at plain ⊢
        obtain ⟨⟨rfl, bare⟩, others⟩ := plain
        have put : written (([], value) :: under first rest) present =
            written (under first rest) (some (value.onto (present.getD .nothing))) := rfl
        rw [put, LayerValue.onto_of_not_table bare, ih others, whole rfl]
        simp
      · have other : Text.lower name ≠ key := by
          intro spelled
          rw [(KeyPath.ofName_eq_entry_iff own).mpr spelled] at leads
          cases leads
          contradiction
        simp only [same, other, ↓reduceIte, Option.or_none] at plain ⊢
        exact ih plain present

/-! Names in the environment. -/

theorem lower_leading : Text.lower (variableOptions.leading ++ "_") = variableStart :=
  Text.lower_of_spelled (by decide +kernel) (by decide +kernel)

theorem Layer.ofVariable?_eq_some_iff {name text key : String} {value : LayerValue} :
    ofVariable? variableOptions name text = some (key, value) ↔
      Text.lower name = variableStart ++ key ∧
        value = LayerValue.ofVariable variableOptions key text := by
  simp only [ofVariable?, lower_leading, Option.map_eq_some_iff,
    List.isPrefixOf?_eq_some_iff_append_eq, Prod.mk.injEq]
  constructor
  · rintro ⟨rest, cut, rfl, rfl⟩
    refine ⟨?_, rfl⟩
    rw [← String.toList_inj, String.toList_append, String.toList_ofList, cut]
  · rintro ⟨same, rfl⟩
    refine ⟨key.toList, ?_, String.ofList_toList, by rw [String.ofList_toList]⟩
    rw [same, String.toList_append]

/-- The key under which a variable is given is in lower case already. -/
theorem Layer.lower_of_ofVariable? {name text key : String} {value : LayerValue}
    (given : ofVariable? variableOptions name text = some (key, value)) : Text.lower key = key := by
  have cut : (Text.lower name).toList = variableStart.toList ++ key.toList := by
    rw [(ofVariable?_eq_some_iff.mp given).1, String.toList_append]
  rw [← String.ofList_toList (s := key), Text.lower_of_suffix cut]

theorem Layer.ofEnvironment_cons (options : VariableOptions) (name text : String)
    (rest : List (String × String)) : ofEnvironment options ((name, text) :: rest) =
      (ofVariable? options name text).toList ++ ofEnvironment options rest := by
  rw [ofEnvironment, List.filterMap_cons]
  cases given : ofVariable? options name text <;> simp [given, ofEnvironment]

theorem Layer.lastNamed?_ofEnvironment (environment : List (String × String)) (key : String) :
    lastNamed? key (ofEnvironment variableOptions environment) =
      (variableText? environment key).map (LayerValue.ofVariable variableOptions key) := by
  induction environment with
  | nil => rfl
  | cons first rest ih =>
      rcases first with ⟨name, text⟩
      rw [variableText?, lastNamed?, Option.map_or, ← variableText?, ← ih, ofEnvironment_cons]
      cases given : ofVariable? variableOptions name text with
      | none =>
          have other : Text.lower name ≠ variableStart ++ key := by
            intro spelled
            rw [ofVariable?_eq_some_iff.mpr ⟨spelled, rfl⟩] at given
            cases given
          simp [other]
      | some entry =>
          rcases entry with ⟨named, value⟩
          have settled := lower_of_ofVariable? given
          obtain ⟨spelled, rfl⟩ := ofVariable?_eq_some_iff.mp given
          have same_iff : variableStart ++ named = variableStart ++ key ↔ named = key :=
            String.append_right_inj variableStart
          simp only [Option.toList_some, List.singleton_append, lastNamed?, settled, spelled,
            same_iff]
          by_cases same : named = key <;> simp [same]

/-! The keys of the two settings. -/

theorem depthKey_own : KeyPath.ofName depthKey = [.entry depthKey] :=
  KeyPath.ofName_of_small (by decide +kernel) (by decide +kernel)

theorem columnsKey_own : KeyPath.ofName columnsKey = [.entry columnsKey] :=
  KeyPath.ofName_of_small (by decide +kernel) (by decide +kernel)

theorem ofName_of_known {key : String} (known : key ∈ [depthKey, columnsKey]) :
    KeyPath.ofName key = [.entry key] := by
  simp only [List.mem_cons, List.not_mem_nil, or_false] at known
  rcases known with rfl | rfl
  · exact depthKey_own
  · exact columnsKey_own

theorem lower_of_known {key : String} (known : key ∈ [depthKey, columnsKey]) :
    Text.lower key = key :=
  (KeyPath.ofName_eq_entry_iff (ofName_of_known known)).mp (ofName_of_known known)

theorem depthKey_ne_columnsKey : depthKey ≠ columnsKey := by decide

/-! The library for files that hold JSON. -/

theorem standard_sources (text : String) (environment : List (String × String)) :
    standard.sources (some Layer.defaults) (some (some text)) environment =
      [some Layer.defaults, Layer.ofText? text,
        some (Layer.ofEnvironment variableOptions environment)] := rfl

theorem standard_value? (layer : Layer) (key : String) :
    standard.value? (some layer) key = lastNamed? key layer := rfl

theorem standard_build? {sources : List (Option Layer)} {table : LayerValue} :
    standard.build? sources = some table ↔
      ∃ layers, sources.mapM id = some layers ∧ Layer.merged layers = table :=
  Option.map_eq_some_iff

theorem standard_builds_iff (sources : List (Option Layer)) :
    (standard.build? sources).isSome ↔ ∀ source ∈ sources, (standard.collect? source).isSome := by
  have reads : (sources.mapM id).isSome ↔ ∀ source ∈ sources, source.isSome := by
    induction sources with
    | nil => simp
    | cons source rest ih =>
        rw [List.forall_mem_cons, ← ih]
        cases source with
        | none => simp
        | some layer => cases read : rest.mapM id <;> simp [List.mapM_cons, read]
  simpa [standard] using reads

theorem standard_defaults_value? (key : String) :
    standard.value? (some Layer.defaults) key =
      if depthKey = key then some (.whole ({} : Settings).maxNestingDepth) else none := by
  rw [standard_value?, Layer.defaults, lastNamed?, lower_of_known List.mem_cons_self]
  rfl

theorem standard_key_by_key {below : List (Option Layer)} {source : Option Layer}
    {lower upper : LayerValue} {key : String} (known : key ∈ [depthKey, columnsKey])
    (plain : ∀ layer, source = some layer → layer.Plain key)
    (below_built : standard.build? below = some lower)
    (built : standard.build? (below ++ [source]) = some upper) :
    standard.field? upper key = (standard.value? source key).or (standard.field? lower key) := by
  obtain ⟨layers, read, rfl⟩ := standard_build?.mp below_built
  obtain ⟨all, reads, rfl⟩ := standard_build?.mp built
  cases source with
  | none => simp [List.mapM_append, read] at reads
  | some layer =>
      have grown : all = layers ++ [layer] := by simpa [List.mapM_append, read, eq_comm] using reads
      rw [grown, Layer.merged_concat, standard_value?]
      exact (Layer.field?_onto layer _ key).trans
        (Layer.written_of_plain (ofName_of_known known) (plain layer rfl) _)

/-- Where the file and the environment have plain values for the two keys, the library keeps to what
it is relied on for. -/
theorem standard_layersByKey {file : Option (Option String)} {environment : List (String × String)}
    (plain : ∀ layer, some layer ∈ standard.sources (some Layer.defaults) file environment →
      ∀ key ∈ [depthKey, columnsKey], layer.Plain key) :
    standard.LayersByKey (some Layer.defaults) file environment where
  written := rfl
  depth_kept value said := by
    rw [standard_defaults_value?, Library.depth, if_pos rfl] at said
    cases said
    rfl
  columns_kept value said := by
    rw [standard_defaults_value?, Library.columns, if_neg depthKey_ne_columnsKey] at said
    cases said
  builds_iff := standard_builds_iff
  build_nil table key built := by
    cases built
    rfl
  key_by_key source member below lower upper below_built built key known :=
    standard_key_by_key known (fun layer same => plain layer (same ▸ member) key known) below_built
      built
  variables_parsed key _ := Layer.lastNamed?_ofEnvironment environment key

end DeclarativeQuery.Settings
