import DeclarativeQuery.Proofs.Sequencing
import DeclarativeQuery.Proofs.SettingWrites

/-!
Which source a setting comes from: the environment if it has a variable for it, else the file if it
says anything of it, else the defaults. What does not fit is refused, and what it replaced does not
stand in for it.
-/

namespace DeclarativeQuery.Settings

structure Valid (settings : Settings) : Prop where
  depth : 1 ≤ settings.maxNestingDepth
  columns : ∀ column ∈ settings.literalColumns, Text.allBlank column = false

theorem validate_eq_ok_iff {settings : Settings} :
    settings.validate = .ok () ↔ settings.Valid := by
  by_cases zero : settings.maxNestingDepth = 0
  · have shallow : ¬ settings.Valid := fun valid => by have := valid.depth; omega
    simp [validate, zero, shallow]
  · simp only [validate, zero, ↓reduceIte]
    cases found : settings.literalColumns.find? Text.allBlank with
    | some name =>
        have blank : Text.allBlank name = true := List.find?_some found
        have among : name ∈ settings.literalColumns := List.mem_of_find?_eq_some found
        have shown : ¬ settings.Valid := by
          intro valid
          rw [valid.columns name among] at blank
          contradiction
        simp [shown]
    | none =>
        have valid : settings.Valid := by
          refine ⟨by omega, fun column member => ?_⟩
          simpa using List.find?_eq_none.mp found column member
        simp [valid]

def FaultsConfiguration {α : Type} (result : Except Error α) : Prop :=
  ∀ error, result = .error error → ∃ fault, error = .configuration fault

namespace FaultsConfiguration
variable {α β : Type} {result : Except Error α}

theorem ok (value : α) : FaultsConfiguration (.ok value) := nofun

theorem usable (value : Option α) : FaultsConfiguration (usable value) := by
  intro error failed
  cases value with
  | some value => cases failed
  | none =>
      cases failed
      exact ⟨_, rfl⟩

theorem bind {next : α → Except Error β} (head : FaultsConfiguration result)
    (tail : ∀ value, FaultsConfiguration (next value)) : FaultsConfiguration (result >>= next) := by
  intro error failed
  cases result with
  | error early => exact head error (by cases failed; rfl)
  | ok value => exact tail value error failed

end FaultsConfiguration

theorem validate_faults (settings : Settings) : FaultsConfiguration settings.validate := by
  intro error refused
  rw [validate] at refused
  split at refused
  · cases refused
    exact ⟨_, rfl⟩
  · split at refused
    · cases refused
      exact ⟨_, rfl⟩
    · contradiction

theorem usable_eq_ok_iff {α : Type} {found : Option α} {value : α} :
    usable found = .ok value ↔ found = some value := by
  cases found <;> simp [usable, unusable]

theorem fitted_faults {Value α : Type} (default : α) (fit? : Value → Option α)
    (found : Option Value) : FaultsConfiguration (fitted default fit? found) := by
  cases found with
  | none => exact .ok default
  | some value => exact .usable _

namespace Library
variable {File Origin Table Value : Type} {library : Library File Origin Table Value}

def fileValue? (library : Library File Origin Table Value) (file : Option File) (key : String) :
    Option Value :=
  file.bind fun file => library.value? (library.required file) key

/-- What a setting comes to, or nothing where what decides does not fit. Only what is given for its
own key is looked at. -/
def settled {α : Type} (library : Library File Origin Table Value) (setting : Setting Value α)
    (file : Option File) (environment : List (String × String)) : Option α :=
  match variableText? environment setting.key, library.fileValue? file setting.key with
  | some text, _ => setting.fit? (library.parse variableOptions setting.key text)
  | none, some value => setting.fit? value
  | none, none => some (setting.of {})

/-- Two loads are given the same for a key: one text by both environments, or no text and then the
same by both files. -/
def SameFor (library : Library File Origin Table Value) (key : String) (file other : Option File)
    (environment others : List (String × String)) : Prop :=
  variableText? environment key = variableText? others key ∧
    (variableText? environment key = none →
      library.fileValue? file key = library.fileValue? other key)

theorem settled_congr {α : Type} (setting : Setting Value α) {file other : Option File}
    {environment others : List (String × String)}
    (same : library.SameFor setting.key file other environment others) :
    library.settled setting file environment = library.settled setting other others := by
  obtain ⟨spoken, silent⟩ := same
  unfold settled
  rw [← spoken]
  cases text : variableText? environment setting.key with
  | some text => rfl
  | none => rw [silent text]

theorem topmost?_sources (defaults : Origin) (file : Option File)
    (environment : List (String × String)) (key : String) :
    library.topmost? (library.sources defaults file environment) key =
      (library.value? (library.environment variableOptions environment) key).or
        ((library.fileValue? file key).or (library.value? defaults key)) := by
  cases file <;> simp [sources, topmost?, fileValue?]

section Laws
variable {defaults : Origin} {file : Option File} {environment : List (String × String)}
  (laws : library.LayersByKey defaults file environment)
include laws

theorem LayersByKey.fitted_of_built {α : Type} (setting : Setting Value α)
    (known : setting.key ∈ [depthKey, columnsKey]) (kept : library.Keeps defaults setting)
    {table : Table}
    (built : library.build? (library.sources defaults file environment) = some table) :
    fitted (setting.of {}) setting.fit? (library.field? table setting.key) =
      usable (library.settled setting file environment) := by
  rw [laws.field?_build (List.Subset.refl _) built known, topmost?_sources,
    laws.variables_parsed setting.key known, settled]
  cases variableText? environment setting.key with
  | some text => rfl
  | none =>
      cases library.fileValue? file setting.key with
      | some value => rfl
      | none =>
          cases default : library.value? defaults setting.key with
          | none => rfl
          | some value => exact congrArg usable (kept value default)

theorem LayersByKey.ofTable_of_built {table : Table}
    (built : library.build? (library.sources defaults file environment) = some table) :
    library.ofTable table = (do
      let maxNestingDepth ← usable (library.settled library.depth file environment)
      let literalColumns ← usable (library.settled library.columns file environment)
      return { maxNestingDepth, literalColumns }) := by
  have depth : fitted ({} : Settings).maxNestingDepth library.toDepth?
      (library.field? table depthKey) =
        usable (library.settled library.depth file environment) :=
    laws.fitted_of_built library.depth (by simp [Library.depth]) laws.depth_kept built
  have columns : fitted ({} : Settings).literalColumns library.toNames?
      (library.field? table columnsKey) =
        usable (library.settled library.columns file environment) :=
    laws.fitted_of_built library.columns (by simp [Library.columns]) laws.columns_kept built
  simp only [ofTable, depth, columns]

theorem LayersByKey.load_eq :
    library.load file environment = (do
      let table ← usable (library.build? (library.sources defaults file environment))
      let settings ← library.ofTable table
      settings.validate
      return settings) := by
  rw [load, laws.written]
  rfl

theorem LayersByKey.load_eq_ok_iff (settings : Settings) :
    library.load file environment = .ok settings ↔
      (∀ source ∈ library.sources defaults file environment, (library.collect? source).isSome) ∧
        library.settled library.depth file environment = some settings.maxNestingDepth ∧
        library.settled library.columns file environment = some settings.literalColumns ∧
        settings.Valid := by
  rw [laws.load_eq, ← laws.builds_iff, ← validate_eq_ok_iff]
  simp only [bind_eq_ok_iff, usable_eq_ok_iff, Option.isSome_iff_exists]
  constructor
  · rintro ⟨table, built, _, fits, ⟨⟩, valid, ⟨⟩⟩
    rw [laws.ofTable_of_built built] at fits
    simp only [bind_eq_ok_iff, usable_eq_ok_iff] at fits
    obtain ⟨_, depth, _, columns, ⟨⟩⟩ := fits
    exact ⟨⟨table, built⟩, depth, columns, valid⟩
  · rintro ⟨⟨table, built⟩, depth, columns, valid⟩
    refine ⟨table, built, settings, ?_, (), valid, rfl⟩
    rw [laws.ofTable_of_built built, depth, columns]
    rfl

/-- The sources are put together before anything is fitted, and both settings are fitted before they
are checked. -/
theorem LayersByKey.load_unusable
    (unfit : (∃ source ∈ library.sources defaults file environment,
        library.collect? source = none) ∨
      library.settled library.depth file environment = none ∨
      library.settled library.columns file environment = none) :
    library.load file environment = unusable := by
  rw [laws.load_eq]
  cases built : library.build? (library.sources defaults file environment) with
  | none => rfl
  | some table =>
      have read := (laws.builds_iff _).mp (Option.isSome_of_eq_some built)
      have refused : library.ofTable table = unusable := by
        rw [laws.ofTable_of_built built]
        rcases unfit with ⟨source, member, unread⟩ | shallow | unnamed
        · have := read source member
          simp [unread] at this
        · rw [shallow]
          rfl
        · rw [unnamed]
          cases library.settled library.depth file environment <;> rfl
      change library.ofTable table >>= _ = unusable
      rw [refused]
      rfl

end Laws

theorem load_faults (library : Library File Origin Table Value) (file : Option File)
    (environment : List (String × String)) :
    FaultsConfiguration (library.load file environment) := by
  refine .bind (.usable _) fun defaults => .bind (.usable _) fun table => ?_
  refine .bind ?_ fun settings => .bind settings.validate_faults fun _ => .ok settings
  exact .bind (fitted_faults _ _ _) fun _ => .bind (fitted_faults _ _ _) fun _ => .ok _

/-- If sources go over one another key by key, a setting is what its variable says, else what the
file says, else the default, whatever is given for the other one; a load in which that does not fit
is refused, and so is one with a source that cannot be read. What is loaded is valid, and no load
fails but for its configuration. -/
theorem load_settles_each_setting (library : Library File Origin Table Value) (defaults : Origin)
    (file : Option File) (environment : List (String × String))
    (laws : library.LayersByKey defaults file environment) :
    (∀ settings, library.load file environment = .ok settings ↔
      (∀ source ∈ library.sources defaults file environment, (library.collect? source).isSome) ∧
        library.settled library.depth file environment = some settings.maxNestingDepth ∧
        library.settled library.columns file environment = some settings.literalColumns ∧
        settings.Valid) ∧
    ((∃ source ∈ library.sources defaults file environment, library.collect? source = none) ∨
        library.settled library.depth file environment = none ∨
        library.settled library.columns file environment = none →
      library.load file environment = unusable) ∧
    FaultsConfiguration (library.load file environment) ∧
    (∀ other others, library.LayersByKey defaults other others → ∀ settings changed,
      library.load file environment = .ok settings → library.load other others = .ok changed →
        (library.SameFor depthKey file other environment others →
          settings.maxNestingDepth = changed.maxNestingDepth) ∧
        (library.SameFor columnsKey file other environment others →
          settings.literalColumns = changed.literalColumns)) := by
  refine ⟨laws.load_eq_ok_iff, laws.load_unusable, library.load_faults file environment, ?_⟩
  intro other others also settings changed loaded again
  obtain ⟨_, depth, columns, _⟩ := (laws.load_eq_ok_iff settings).mp loaded
  obtain ⟨_, depthAgain, columnsAgain, _⟩ := (also.load_eq_ok_iff changed).mp again
  constructor
  · intro same
    rw [library.settled_congr library.depth same, depthAgain] at depth
    exact (Option.some_inj.mp depth).symm
  · intro same
    rw [library.settled_congr library.columns same, columnsAgain] at columns
    exact (Option.some_inj.mp columns).symm

end Library

def fullText : String := "\x7b\"max_nesting_depth\": 5, \"literal_columns\": [\"or\"]\x7d"

def fullLayer : Layer := [(depthKey, .whole 5), (columnsKey, .list [.text "or"])]

theorem ofText?_fullText : Layer.ofText? fullText = some fullLayer := by
  have read : Json.read? fullText =
      some (.object [(depthKey, .whole 5), (columnsKey, .array [.string "or"])]) := by
    simp only [Json.read?, fullText, String.reduceToList]
    rfl
  simp only [Layer.ofText?, read]
  rfl

def depthVariable (text : String) : List (String × String) :=
  [("Query_Directives_Max_Nesting_Depth", text)]

theorem lower_depthVariable :
    Text.lower "Query_Directives_Max_Nesting_Depth" = variableStart ++ depthKey :=
  Text.lower_of_spelled (by decide +kernel) (by decide +kernel)

theorem variableText?_depthVariable (text key : String) :
    variableText? (depthVariable text) key = if depthKey = key then some text else none := by
  have same_iff : variableStart ++ depthKey = variableStart ++ key ↔ depthKey = key :=
    String.append_right_inj variableStart
  simp only [variableText?, depthVariable, lastNamed?, lower_depthVariable, same_iff,
    Option.none_or]

theorem ofEnvironment_depthVariable (text : String) :
    Layer.ofEnvironment variableOptions (depthVariable text) =
      [(depthKey, LayerValue.ofVariable variableOptions depthKey text)] := by
  rw [depthVariable, Layer.ofEnvironment_cons,
    Layer.ofVariable?_eq_some_iff.mpr ⟨lower_depthVariable, rfl⟩]
  rfl

theorem standard_sources_full (text : String) :
    standard.sources (some Layer.defaults) (some (some fullText)) (depthVariable text) =
      [some Layer.defaults, some fullLayer,
        some [(depthKey, LayerValue.ofVariable variableOptions depthKey text)]] := by
  rw [standard_sources, ofText?_fullText, ofEnvironment_depthVariable]

theorem standard_fileValue? (text key : String) :
    standard.fileValue? (some (some text)) key = (Layer.ofText? text).bind (lastNamed? key) := rfl

theorem standard_layersByKey_full (text : String) :
    standard.LayersByKey (some Layer.defaults) (some (some fullText)) (depthVariable text) := by
  apply standard_layersByKey
  intro layer member key _
  simp only [standard_sources_full, List.mem_cons, Option.some.injEq, List.not_mem_nil, or_false]
    at member
  rcases member with rfl | rfl | rfl
  · exact .cons depthKey_own (by simp) (Layer.plain_nil key)
  · exact .cons depthKey_own (by simp) (.cons columnsKey_own (by simp) (Layer.plain_nil key))
  · exact .cons depthKey_own (LayerValue.ofVariable_ne_table _ _ text) (Layer.plain_nil key)

theorem settled_depth_full (text : String) :
    standard.settled standard.depth (some (some fullText)) (depthVariable text) =
      (LayerValue.ofVariable variableOptions depthKey text).toDepth? := by
  have spoken : variableText? (depthVariable text) standard.depth.key = some text :=
    (variableText?_depthVariable text depthKey).trans (if_pos rfl)
  rw [Library.settled, spoken]
  rfl

theorem settled_columns_full (text : String) :
    standard.settled standard.columns (some (some fullText)) (depthVariable text) =
      some ["or"] := by
  have silent : variableText? (depthVariable text) standard.columns.key = none :=
    (variableText?_depthVariable text columnsKey).trans (if_neg depthKey_ne_columnsKey)
  have filed : standard.fileValue? (some (some fullText)) standard.columns.key =
      some (.list [.text "or"]) := by
    have own : Text.lower columnsKey = columnsKey := lower_of_known (by simp)
    simp only [standard_fileValue?, ofText?_fullText, Option.bind_some, fullLayer, lastNamed?,
      Library.columns, own]
    rfl
  rw [Library.settled, silent, filed]
  rfl

theorem variable_goes_over_the_file :
    standard.LayersByKey (some Layer.defaults) (some (some fullText)) (depthVariable "7") ∧
    load (.file fullText) (depthVariable "7") =
      .ok { maxNestingDepth := 7, literalColumns := ["or"] } ∧
    standard.LayersByKey (some Layer.defaults) (some (some fullText)) (depthVariable "") ∧
    load (.file fullText) (depthVariable "") = unusable := by
  have law (text : String) := Library.load_settles_each_setting standard _ _ _
    (standard_layersByKey_full text)
  refine ⟨standard_layersByKey_full "7", ?_, standard_layersByKey_full "", ?_⟩
  · refine ((law "7").1 _).mpr ⟨?_, ?_, settled_columns_full "7", ?_⟩
    · intro source member
      simp only [standard_sources_full, List.mem_cons, List.not_mem_nil, or_false] at member
      rcases member with rfl | rfl | rfl <;> rfl
    · have whole : LayerValue.ofVariable variableOptions depthKey "7" = .whole 7 := by
        have same : Text.lower "7" = "7" := Text.lower_of_small (by decide +kernel)
        simp only [LayerValue.ofVariable, same]
        rfl
      rw [settled_depth_full, whole]
      rfl
    · exact ⟨by decide, by decide +kernel⟩
  · refine (law "").2.1 (.inr (.inl ?_))
    have empty : LayerValue.ofVariable variableOptions depthKey "" = .text "" := by
      have same : Text.lower "" = "" := Text.lower_of_small (by decide +kernel)
      simp only [LayerValue.ofVariable, same]
      rfl
    rw [settled_depth_full, empty]
    rfl

end DeclarativeQuery.Settings
