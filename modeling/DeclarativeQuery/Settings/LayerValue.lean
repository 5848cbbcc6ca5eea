import DeclarativeQuery.Decimal
import DeclarativeQuery.Json.Basic
import DeclarativeQuery.Settings
import DeclarativeQuery.Text.Case
import DeclarativeQuery.Text.Numeral

/-!
Values as a file or the environment gives them, and one put over another. The name of a setting is a
path into tables and lists: a word, then any number of steps, `.word` to an entry of a table and
`[index]` to an item of a list. Case does not count. A name of any other form is one key.
-/

namespace DeclarativeQuery.Settings

/-- A negative index counts from the end of a list. -/
inductive PathStep where
  | entry (key : String)
  | item (index : Int)
  deriving DecidableEq

abbrev KeyPath := List PathStep

namespace KeyPath

def isWordChar (c : Char) : Bool := c.isAlphanum || c == '_' || c == '-' || c == ' '

def isGap (c : Char) : Bool := c == ' ' || c == '\t'

def readIndex? (written : List Char) : Option Int :=
  let numeral := ((written.dropWhile isGap).reverse.dropWhile isGap).reverse
  if numeral.head? = some '+' then none else Text.readInt64 numeral

def readItem? : List Char → Option PathStep
  | '[' :: written => (readIndex? written).map .item
  | _ => none

def readPart? (part : List Char) : Option KeyPath := do
  let (word, rest) := part.span isWordChar
  let brackets := rest.splitOnP (· == ']')
  guard (!word.isEmpty && brackets.getLast? == some [])
  return .entry (String.ofList word) :: (← brackets.dropLast.mapM readItem?)

def read? (text : List Char) : Option KeyPath :=
  ((text.splitOnP (· == '.')).mapM readPart?).map List.flatten

def ofName (name : String) : KeyPath :=
  let lowered := Text.lower name
  (read? lowered.toList).getD [.entry lowered]

end KeyPath

inductive LayerValue where
  | nothing
  | flag (value : Bool)
  | whole (value : Int)
  | double (value : Decimal.Binary64)
  | text (value : String)
  | list (items : List LayerValue)
  | table (entries : List (String × LayerValue))

namespace LayerValue

/-! A file holds whole numbers of 64 bits with a sign; greater ones count as doubles. -/

def ofNumber : Number → LayerValue
  | .whole value =>
      if value ≤ Text.maxInt64 then .whole value
      else .double (.ofFloat value.toNat.toUInt64.toFloat)
  | .double value => .double value

mutual

def ofJson : Json → LayerValue
  | .null => .nothing
  | .bool value => .flag value
  | .number value => ofNumber value
  | .string value => .text value
  | .array items => .list (ofItems items)
  | .object entries => .table (ofEntries entries)
termination_by structural value => value

def ofItems : List Json → List LayerValue
  | [] => []
  | item :: rest => ofJson item :: ofItems rest
termination_by structural items => items

def ofEntries : List (String × Json) → List (String × LayerValue)
  | [] => []
  | (key, value) :: rest => (key, ofJson value) :: ofEntries rest
termination_by structural entries => entries

end

/-! The environment holds text, taken for a truth value, a whole number or a double where it is
one. -/

def split (separator : Char) (text : String) : LayerValue :=
  .list ((text.toList.splitOnP (· == separator)).map fun part => .text (String.ofList part))

def ofVariable (options : VariableOptions) (key text : String) : LayerValue :=
  let lowered := Text.lower text
  if !options.parsing then .text text
  else if lowered = "true" then .flag true
  else if lowered = "false" then .flag false
  else match Text.readInt64 text.toList with
    | some value => .whole value
    | none =>
        match Decimal.readDouble text.toList with
        | some value => .double (.ofFloat value)
        | none =>
            if options.listKeys.contains key then split options.listSeparator text else .text text

/-! Fitting a value to its key. -/

def depthWords : List (String × Nat) := [
  ("true", 1), ("on", 1), ("yes", 1),
  ("false", 0), ("off", 0), ("no", 0)]

def toDepth? : LayerValue → Option Nat
  | .flag value => some value.toNat
  | .whole value => if 0 ≤ value then some value.toNat else none
  -- rounds half away from zero; what does not fit goes to the nearer end, what is no number to zero
  | .double value => some value.toFloat.round.toUInt64.toNat
  | .text written =>
      match depthWords.lookup (Text.lower written) with
      | some depth => some depth
      | none => Text.readNat64 written.toList
  | _ => none

def doubleLayout : Decimal.Layout where
  inPlace := none
  keepsPoint := false

def toName? : LayerValue → Option String
  | .text written => some written
  | .flag value => some (if value then "true" else "false")
  | .whole value => some (Text.intText value)
  | .double value => some (doubleLayout.text value)
  | _ => none

def toNames? : LayerValue → Option (List String)
  | .list items => items.mapM toName?
  | _ => none

end LayerValue

end DeclarativeQuery.Settings

/-!
One value put over another. A table goes over what is there entry by entry, so one without entries
leaves it as it is; any other value replaces it. Put at the end of a path, a value brings with it
the tables and the lists that the path leads through, in place of anything else that stands there.
-/

namespace DeclarativeQuery.Settings.LayerValue

def entries : LayerValue → List (String × LayerValue)
  | .table entries => entries
  | _ => []

def items : LayerValue → List LayerValue
  | .list items => items
  | _ => []

def field? (value : LayerValue) (key : String) : Option LayerValue := value.entries.lookup key

def field (value : LayerValue) (key : String) : LayerValue := (value.field? key).getD .nothing

def withField (value : LayerValue) (key : String) (entry : LayerValue) : LayerValue :=
  .table (Entries.put key entry value.entries)

/-- No list is filled up further than this. -/
def fillingBound : Nat := 1024 * 1024

/-- The list is filled up with nothing, at either end, until it has the item. An item beyond the
bound leaves nothing of the list. -/
def changeItem (value : LayerValue) (index : Int) (change : LayerValue → LayerValue) :
    LayerValue :=
  let items := value.items
  let position := if index < 0 then items.length + index else index
  let before := (-position).toNat
  let after := (position + 1 - items.length).toNat
  if fillingBound < before + after then .nothing
  else
    let filled := List.replicate before .nothing ++ items ++ List.replicate after .nothing
    .list (filled.modify position.toNat change)

mutual

def onto : LayerValue → LayerValue → LayerValue
  | .table entries, .nothing => entriesOnto entries (.table [])
  | .table entries, present => entriesOnto entries present
  | value, _ => value
termination_by structural value => value

def entriesOnto : List (String × LayerValue) → LayerValue → LayerValue
  | [], present => present
  | (name, value) :: rest, present =>
      let key := Text.lower name
      entriesOnto rest (present.withField key (onto value (present.field key)))
termination_by structural entries => entries

end

def put (value : LayerValue) : KeyPath → LayerValue → LayerValue
  | [], present => value.onto present
  | .entry key :: path, present => present.withField key (value.put path (present.field key))
  | .item index :: path, present => present.changeItem index fun item => value.put path item

theorem field?_withField (value entry : LayerValue) (key wanted : String) :
    (value.withField key entry).field? wanted =
      if wanted = key then some entry else value.field? wanted :=
  Entries.lookup_put key wanted entry value.entries

end DeclarativeQuery.Settings.LayerValue
