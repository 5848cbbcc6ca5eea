import DeclarativeQuery.Json.Reader
import DeclarativeQuery.Settings.LayerValue

/-!
The library that settings are loaded with, for files that hold JSON. Each source goes over those
below it, name by name, and a name is a path into what is there.
-/

namespace DeclarativeQuery.Settings

abbrev Layer := List (String × LayerValue)

namespace Layer

/-- The columns have no entry: where no layer gives any, there are none. -/
def defaults : Layer := [(depthKey, .whole ({} : Settings).maxNestingDepth)]

def ofText? (text : String) : Option Layer :=
  match Json.read? text with
  | some (.object entries) => some (LayerValue.ofEntries entries)
  | _ => none

def ofVariable? (options : VariableOptions) (name text : String) : Option (String × LayerValue) :=
  ((Text.lower (options.leading ++ "_")).toList.isPrefixOf? (Text.lower name).toList).map fun key =>
    (String.ofList key, LayerValue.ofVariable options (String.ofList key) text)

def ofEnvironment (options : VariableOptions) (environment : List (String × String)) : Layer :=
  environment.filterMap fun (name, text) => ofVariable? options name text

def onto (layer : Layer) (present : LayerValue) : LayerValue :=
  layer.foldl (fun present (name, value) => value.put (KeyPath.ofName name) present) present

def merged (layers : List Layer) : LayerValue :=
  layers.foldl (fun present layer => layer.onto present) (.table [])

end Layer

/-- A file is its text, if it is there; a source is what it holds, if it can be read. -/
def standard : Library (Option String) (Option Layer) LayerValue LayerValue where
  defaults? := some (some Layer.defaults)
  required text := text.bind Layer.ofText?
  environment options environment := some (Layer.ofEnvironment options environment)
  collect? := id
  build? sources := (sources.mapM id).map Layer.merged
  field? := LayerValue.field?
  parse := LayerValue.ofVariable
  toDepth? := LayerValue.toDepth?
  toNames? := LayerValue.toNames?

inductive Source where
  | none
  | missing
  | file (text : String)

def Source.file? : Source → Option (Option String)
  | .none => .none
  | .missing => some .none
  | .file text => some (some text)

def load (source : Source) (environment : List (String × String)) : Except Error Settings :=
  standard.load source.file? environment

end DeclarativeQuery.Settings
