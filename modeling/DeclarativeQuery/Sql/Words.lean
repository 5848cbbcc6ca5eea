import DeclarativeQuery.Json.Basic
import DeclarativeQuery.Text.Case

/-!
The small vocabularies that descriptions and queries share. Each word has a lower-case form, used in
descriptions and messages, and where it reaches the query text an upper-case form. Stored as a value
a word is exact; it may also stand as the only key of an object, over null.
-/

namespace DeclarativeQuery

def Json.storedWord? : Json → Option String
  | .string word => some word
  | .object [(word, .null)] => some word
  | _ => none

inductive Connective where
  | and
  | or
  deriving DecidableEq

namespace Connective

def word : Connective → String
  | .and => "and"
  | .or => "or"

def sql : Connective → String
  | .and => "AND"
  | .or => "OR"

def ofKey? (key : String) : Option Connective :=
  if Text.equalIgnoringCase key "and" then some .and
  else if Text.equalIgnoringCase key "or" then some .or
  else none

def ofWord? : String → Option Connective
  | "and" => some .and
  | "or" => some .or
  | _ => none

def ofStored? (value : Json) : Option Connective := value.storedWord?.bind ofWord?

def toStored (connective : Connective) : Json := .string connective.word

end Connective

inductive Direction where
  | asc
  | desc
  deriving DecidableEq

namespace Direction

def word : Direction → String
  | .asc => "asc"
  | .desc => "desc"

def sql : Direction → String
  | .asc => "ASC"
  | .desc => "DESC"

def ofKeyword? (keyword : String) : Option Direction :=
  if Text.equalIgnoringCase keyword "asc" then some .asc
  else if Text.equalIgnoringCase keyword "desc" then some .desc
  else none

def ofWord? : String → Option Direction
  | "asc" => some .asc
  | "desc" => some .desc
  | _ => none

def ofStored? (value : Json) : Option Direction := value.storedWord?.bind ofWord?

def toStored (direction : Direction) : Json := .string direction.word

end Direction

inductive LikeStrategy where
  /-- It has an operator for it. -/
  | operator (token : String)
  /-- The field is compared under a collation that ignores case. -/
  | collation (name : String)
  /-- Both sides are lowered. -/
  | lowerBoth
  deriving DecidableEq

namespace LikeStrategy

/-! Raw expressions; `?` stands for the pattern. -/

def collated (field name : String) : String := field ++ " COLLATE " ++ name ++ " LIKE ?"

def lowered (field : String) : String := "LOWER(" ++ field ++ ") LIKE LOWER(?)"

def expression? (field : String) : LikeStrategy → Option String
  | .operator _ => none
  | .collation name => some (collated field name)
  | .lowerBoth => some (lowered field)

end LikeStrategy

inductive Dialect where
  | postgres
  | mysql
  | other
  deriving DecidableEq

namespace Dialect

def word : Dialect → String
  | .postgres => "postgres"
  | .mysql => "mysql"
  | .other => "other"

def ofWord? : String → Option Dialect
  | "postgres" => some .postgres
  | "mysql" => some .mysql
  | "other" => some .other
  | _ => none

def ofStored? (value : Json) : Option Dialect := value.storedWord?.bind ofWord?

def toStored (dialect : Dialect) : Json := .string dialect.word

def likeStrategy : Dialect → LikeStrategy
  | .postgres => .operator "ilike"
  | .mysql => .collation "utf8_general_ci"
  | .other => .lowerBoth

end Dialect

end DeclarativeQuery
