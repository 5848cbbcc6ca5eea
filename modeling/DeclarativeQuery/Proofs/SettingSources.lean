import Mathlib.Data.List.Induction
import DeclarativeQuery.Settings

/-!
What the library of layered configuration is relied on for. It says how one more source goes over
those below it; from that it follows what any number of sources come to: of those that say something
of a key, the last one counts.
-/

namespace DeclarativeQuery.Settings

/-- The value under the last name that is the key in any case of letters. -/
def lastNamed? {α : Type} (key : String) : List (String × α) → Option α
  | [] => none
  | (name, value) :: rest =>
      (lastNamed? key rest).or (if Text.lower name = key then some value else none)

def variableStart : String := "query_directives_"

def variableText? (environment : List (String × String)) (key : String) : Option String :=
  lastNamed? (variableStart ++ key) environment

structure Setting (Value α : Type) where
  key : String
  of : Settings → α
  fit? : Value → Option α

namespace Library
variable {File Origin Table Value : Type} (library : Library File Origin Table Value)

def depth : Setting Value Nat where
  key := depthKey
  of := maxNestingDepth
  fit? := library.toDepth?

def columns : Setting Value (List String) where
  key := columnsKey
  of := literalColumns
  fit? := library.toNames?

def value? (source : Origin) (key : String) : Option Value :=
  (library.collect? source).bind (lastNamed? key)

def Keeps {α : Type} (defaults : Origin) (setting : Setting Value α) : Prop :=
  ∀ value, library.value? defaults setting.key = some value →
    setting.fit? value = some (setting.of {})

/-- The premises about the library, for the sources of one load and the two keys. They are no
results about it. What the text of a variable is parsed as, and which values fit a setting, is left
open. -/
structure LayersByKey (defaults : Origin) (file : Option File)
    (environment : List (String × String)) : Prop where
  written : library.defaults? = some defaults
  depth_kept : library.Keeps defaults library.depth
  columns_kept : library.Keeps defaults library.columns
  /-- Sources are put together unless one of them cannot be read. -/
  builds_iff : ∀ sources, (library.build? sources).isSome ↔
    ∀ source ∈ sources, (library.collect? source).isSome
  /-- No sources, no values. -/
  build_nil : ∀ table key, library.build? [] = some table → library.field? table key = none
  /-- One more source goes over those below it: what it says of a key replaces what they say of it,
  and where it says nothing, what they say stays. -/
  key_by_key : ∀ source ∈ library.sources defaults file environment, ∀ below lower upper,
    library.build? below = some lower → library.build? (below ++ [source]) = some upper →
    ∀ key ∈ [depthKey, columnsKey],
      library.field? upper key = (library.value? source key).or (library.field? lower key)
  /-- Names of variables count in any case of letters, and the text of a variable is parsed. -/
  variables_parsed : ∀ key ∈ [depthKey, columnsKey],
    library.value? (library.environment variableOptions environment) key =
      (variableText? environment key).map (library.parse variableOptions key)

def topmost? (sources : List Origin) (key : String) : Option Value :=
  sources.foldl (fun found source => (library.value? source key).or found) none

theorem topmost?_concat (below : List Origin) (source : Origin) (key : String) :
    library.topmost? (below ++ [source]) key =
      (library.value? source key).or (library.topmost? below key) := by
  rw [topmost?, List.foldl_append]
  rfl

section Laws
variable {library} {defaults : Origin} {file : Option File} {environment : List (String × String)}
  (laws : library.LayersByKey defaults file environment)
include laws

theorem LayersByKey.exists_lower {below : List Origin} {source : Origin} {upper : Table}
    (built : library.build? (below ++ [source]) = some upper) :
    ∃ lower, library.build? below = some lower := by
  have all : ∀ each ∈ below ++ [source], (library.collect? each).isSome :=
    (laws.builds_iff _).mp (Option.isSome_of_eq_some built)
  have some : (library.build? below).isSome :=
    (laws.builds_iff below).mpr fun each member => all each (List.mem_append_left _ member)
  exact Option.isSome_iff_exists.mp some

/-- The induction is on the sources from the last one down. -/
theorem LayersByKey.field?_build {sources : List Origin} {table : Table} {key : String}
    (among : sources ⊆ library.sources defaults file environment)
    (built : library.build? sources = some table) (known : key ∈ [depthKey, columnsKey]) :
    library.field? table key = library.topmost? sources key := by
  induction sources using List.reverseRecOn generalizing table with
  | nil => exact laws.build_nil table key built
  | append_singleton below source ih =>
      obtain ⟨lower, below_built⟩ := laws.exists_lower built
      have last : source ∈ library.sources defaults file environment :=
        among (List.mem_append_right below List.mem_cons_self)
      have others : below ⊆ library.sources defaults file environment := fun each member =>
        among (List.mem_append_left _ member)
      rw [laws.key_by_key source last below lower table below_built built key known,
        ih others below_built, topmost?_concat]

end Laws

end Library

end DeclarativeQuery.Settings
