import DeclarativeQuery.Plan.Request
import DeclarativeQuery.Sql.Condition
import DeclarativeQuery.Text.Numeral
import DeclarativeQuery.Text.Quoted

/-!
Steps by which a query is built up: calls on the builder, requests to the compiler, groups and
related sets with steps of their own, and changes to the surroundings of the query (its dialect, the
relations and the scopes it knows). A scope is a list of steps under a name.
-/

namespace DeclarativeQuery

inductive Policy where
  /-- It is skipped and they run. -/
  | persist
  /-- It ends the list with its error. -/
  | stop
  deriving DecidableEq

inductive Step where
  | calls (calls : List Call)
  | request (request : Request)
  | group (policy : Policy) (connective : Connective) (steps : List Step)
  | related (policy : Policy) (relation : String) (connective : Connective) (steps : List Step)
  | setDialect (dialect : Dialect)
  | addRelation (name : String) (relation : Relation)
  | setScopes (scopes : List (String × List Step))
  /-- Goes on with the query over the records of a loaded relation. -/
  | enter (relation : String)
  /-- Looks at that query and goes on with the one at hand. -/
  | inspect (relation : String)

namespace Step

/-! The fluent vocabulary: everything is joined by AND unless it says otherwise. -/

def call (call : Call) : Step := .calls [call]

def select (fields : List String) : Step := call (.columns fields)

def whereOp (field operator : String) (value : Json) : Step :=
  call (.compare field operator value .and)

def whereEq (field : String) (value : Json) : Step := whereOp field "=" value

def orWhere (field operator : String) (value : Json) : Step :=
  call (.compare field operator value .or)

def whereBetween (field : String) (lower upper : Json) : Step :=
  call (.between field lower upper .and)

def whereIn (field : String) (values : List Json) : Step := call (.oneOf field values .and)

def whereNotIn (field : String) (values : List Json) : Step := call (.noneOf field values .and)

def whereNotNull (field : String) : Step := call (.notNull field .and)

def whereRaw (expression : String) (binding : Json) : Step := call (.raw expression binding .and)

def whereNested (connective : Connective) (steps : List Step) : Step :=
  .group .persist connective steps

def whereHas (relation : String) (steps : List Step) : Step :=
  .related .persist relation .and steps

def has (relation : String) : Step := call (.hasRelated relation .and)

def groupBy (fields : List String) : Step := .calls (fields.map .groupBy)

def having (field operator : String) (value : Json) : Step :=
  call (.having field operator value .and)

def orderBy (field : String) (direction : Direction) : Step := call (.order ⟨field, direction⟩)

def orderAsc (field : String) : Step := orderBy field .asc

def orderDesc (field : String) : Step := orderBy field .desc

def limit (bound : Int) : Step := call (.limit bound)

def offset (bound : Int) : Step := call (.offset bound)

end Step

namespace Scope

/-! Ready-made scopes. -/

def notNull (column : String) : List Step := [Step.whereNotNull column]

def equals (column : String) (value : Json) : List Step := [Step.whereEq column value]

def createdSince (column : String) (since : Text.Timestamp) : List Step :=
  [Step.whereOp column ">" (.string since.text)]

end Scope

/-!
The scopes that a query may invoke, by name. Names are exact, each stands for one scope, and they
are kept in the order of their code points.
-/

structure Registry where
  entries : List (String × List Step) := []

namespace Registry

def putEntry (name : String) (steps : List Step) :
    List (String × List Step) → List (String × List Step)
  | [] => [(name, steps)]
  | (first, firstSteps) :: rest =>
      if name = first then (name, steps) :: rest
      else if name < first then (name, steps) :: (first, firstSteps) :: rest
      else (first, firstSteps) :: putEntry name steps rest

def register (registry : Registry) (name : String) (steps : List Step) : Registry :=
  ⟨putEntry name steps registry.entries⟩

def ofList (scopes : List (String × List Step)) : Registry :=
  scopes.foldl (fun registry (name, steps) => registry.register name steps) {}

def get? (registry : Registry) (name : String) : Option (List Step) :=
  registry.entries.lookup name

def contains (registry : Registry) (name : String) : Bool := (registry.get? name).isSome

def names (registry : Registry) : List String := registry.entries.map Prod.fst

def isEmpty (registry : Registry) : Bool := registry.entries.isEmpty

def text (registry : Registry) : String := Text.quotedSet registry.names

theorem lookup_putEntry (name key : String) (steps : List Step)
    (entries : List (String × List Step)) :
    (putEntry name steps entries).lookup key =
      if key = name then some steps else entries.lookup key := by
  by_cases same : key = name
  · subst same
    induction entries with
    | nil => simp [putEntry]
    | cons entry rest ih =>
        obtain ⟨first, firstSteps⟩ := entry
        simp only [↓reduceIte] at ih
        by_cases here : key = first
        · simp [putEntry, here]
        · have other : (key == first) = false := by simpa using here
          by_cases before : key < first <;>
            simp [putEntry, List.lookup_cons, here, other, before, ih]
  · have other : (key == name) = false := by simpa using same
    induction entries with
    | nil => simp [putEntry, List.lookup_cons, same, other]
    | cons entry rest ih =>
        obtain ⟨first, firstSteps⟩ := entry
        simp only [same, ↓reduceIte] at ih
        by_cases here : name = first
        · subst here
          simp [putEntry, List.lookup_cons, same, other]
        · by_cases before : name < first <;>
            simp [putEntry, List.lookup_cons, here, other, same, before, ih]

theorem get?_register (registry : Registry) (name key : String) (steps : List Step) :
    (registry.register name steps).get? key =
      if key = name then some steps else registry.get? key :=
  lookup_putEntry name key steps registry.entries

end Registry

end DeclarativeQuery
