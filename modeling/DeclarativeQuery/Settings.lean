import DeclarativeQuery.Error
import DeclarativeQuery.Text.Blank

/-!
The two settings of the compiler: how deep boolean groups may nest, and which filter keys are plain
columns even though they read `and` or `or`. They are loaded with a library of layered
configuration, which is a parameter here: where values come from, how several sources are put
together and which values stand for a number or for a list of names is left to it.
-/

namespace DeclarativeQuery

structure Settings where
  maxNestingDepth : Nat := 32
  literalColumns : List String := []
  deriving DecidableEq

namespace Settings

def isLiteralColumn (settings : Settings) (key : String) : Bool :=
  settings.literalColumns.any fun column => Text.equalIgnoringCase column key

def groupKey? (settings : Settings) (key : String) : Option Connective :=
  if settings.isLiteralColumn key then none else Connective.ofKey? key

def validate (settings : Settings) : Except Error Unit :=
  if settings.maxNestingDepth = 0 then .error (.configuration .zeroDepth)
  else match settings.literalColumns.find? Text.allBlank with
    | some name => .error (.configuration (.blankColumn name))
    | none => .ok ()

/-! The stored form. A list stands for an object and gives the fields in their order; fields that
are missing have their defaults, unknown ones are disregarded. -/

def storedDepth? : Json → Option Nat
  | .number (.whole value) => if 0 ≤ value then some value.toNat else none
  | _ => none

def storedColumn? : Json → Option String
  | .string name => some name
  | _ => none

def storedColumns? : Json → Option (List String)
  | .array items => items.mapM storedColumn?
  | _ => none

def ofStoredFields? (depth columns : Option Json) : Option Settings := do
  let defaults : Settings := {}
  let maxNestingDepth ← Json.storedField? defaults.maxNestingDepth storedDepth? depth
  let literalColumns ← Json.storedField? defaults.literalColumns storedColumns? columns
  return { maxNestingDepth, literalColumns }

def depthKey : String := "max_nesting_depth"

def columnsKey : String := "literal_columns"

def ofStored? : Json → Option Settings
  | .object entries => ofStoredFields? (entries.lookup depthKey) (entries.lookup columnsKey)
  | .array [] => ofStoredFields? none none
  | .array [depth] => ofStoredFields? (some depth) none
  | .array [depth, columns] => ofStoredFields? (some depth) (some columns)
  | _ => none

def toStored (settings : Settings) : Json :=
  .object [
    (depthKey, .whole settings.maxNestingDepth),
    (columnsKey, .array (settings.literalColumns.map .string))]

/-! Loading. -/

/-- How the variables of the environment are to be taken: those whose names begin with a word and a
low line, as truth values and numbers where they can be, and under some keys as lists. -/
structure VariableOptions where
  leading : String
  parsing : Bool
  listSeparator : Char
  listKeys : List String

/-- What the library offers. It says for itself why it refuses something, which is left out here. -/
structure Library (File Origin Table Value : Type) where
  /-- The default settings written out. -/
  defaults? : Option Origin
  /-- A file that has to be there. -/
  required : File → Origin
  environment : VariableOptions → List (String × String) → Origin
  /-- The values of a source by name, if it can be read. -/
  collect? : Origin → Option (List (String × Value))
  /-- Several sources put together, the lowest first. -/
  build? : List Origin → Option Table
  field? : Table → String → Option Value
  /-- What the text of a variable for a key is taken for. -/
  parse : VariableOptions → String → String → Value
  toDepth? : Value → Option Nat
  toNames? : Value → Option (List String)

def unusable {α : Type} : Except Error α := .error (.configuration .unusableSource)

def usable {α : Type} : Option α → Except Error α
  | some value => .ok value
  | none => unusable

/-- A key that is missing has its default; a value that does not fit has not. -/
def fitted {Value α : Type} (default : α) (fit? : Value → Option α) :
    Option Value → Except Error α
  | none => .ok default
  | some value => usable (fit? value)

def variableOptions : VariableOptions where
  leading := "QUERY_DIRECTIVES"
  parsing := true
  listSeparator := ','
  listKeys := [columnsKey]

namespace Library
variable {File Origin Table Value : Type} (library : Library File Origin Table Value)

def sources (defaults : Origin) (file : Option File) (environment : List (String × String)) :
    List Origin :=
  defaults :: (file.map library.required).toList ++
    [library.environment variableOptions environment]

def ofTable (table : Table) : Except Error Settings := do
  let defaults : Settings := {}
  let maxNestingDepth ←
    fitted defaults.maxNestingDepth library.toDepth? (library.field? table depthKey)
  let literalColumns ←
    fitted defaults.literalColumns library.toNames? (library.field? table columnsKey)
  return { maxNestingDepth, literalColumns }

def load (file : Option File) (environment : List (String × String)) : Except Error Settings := do
  let defaults ← usable library.defaults?
  let table ← usable (library.build? (library.sources defaults file environment))
  let settings ← library.ofTable table
  settings.validate
  return settings

end Library

end Settings

end DeclarativeQuery
