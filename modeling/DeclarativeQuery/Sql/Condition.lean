import DeclarativeQuery.Json.Basic
import DeclarativeQuery.Sql.Words
import DeclarativeQuery.Text.Numeral

/-!
Conditions and their query text. A list of clauses is flat: each clause says how it is joined to the
one before it, and the text relies on AND binding tighter than OR. Values are written as literals;
texts, lists and mappings stand in single quotes, and a quote inside them is written twice.
-/

namespace DeclarativeQuery

structure Relation where
  table : String
  on : Option String := none
  deriving DecidableEq

/-- The subquery over the related rows. `inner` is the text of `count` joined conditions; more than
one are kept together by parentheses when the tie comes before them. -/
def Relation.existsSql (relation : Relation) (inner : Option String) (count : Nat) : String :=
  let condition := match relation.on, inner with
    | some tie, some inner =>
        if 1 < count then " WHERE " ++ tie ++ " AND (" ++ inner ++ ")"
        else " WHERE " ++ tie ++ " AND " ++ inner
    | some tie, none => " WHERE " ++ tie
    | none, some inner => " WHERE " ++ inner
    | none, none => ""
  "EXISTS (SELECT 1 FROM " ++ relation.table ++ condition ++ ")"

structure Paging where
  limit : Option Int := none
  offset : Option Int := none
  deriving DecidableEq

namespace Paging

def boundSql (keyword : String) : Option Int → String
  | none => ""
  | some bound => " " ++ keyword ++ " " ++ Text.intText bound

def sql (paging : Paging) : String :=
  boundSql "LIMIT" paging.limit ++ boundSql "OFFSET" paging.offset

end Paging

mutual

inductive Condition where
  | compare (field operator : String) (value : Json)
  | oneOf (field : String) (values : List Json)
  | noneOf (field : String) (values : List Json)
  | between (field : String) (lower upper : Json)
  | notNull (field : String)
  /-- The first `?` stands for the binding. -/
  | raw (expression : String) (binding : Option Json)
  | nested (clauses : List Clause)
  /-- There are related rows for which the clauses hold. -/
  | related (relation : String) (target : Relation) (clauses : List Clause)

structure Clause where
  condition : Condition
  connective : Connective

end

namespace Sql

def doubleQuotes (text : List Char) : List Char :=
  text.flatMap fun c => if c = '\'' then ['\'', '\''] else [c]

def quotedLiteral (text : String) : String :=
  "'" ++ String.ofList (doubleQuotes text.toList) ++ "'"

def literal : Json → String
  | .null => "NULL"
  | .bool true => "true"
  | .bool false => "false"
  | .number value => value.text
  | .string text => quotedLiteral text
  | .array items => quotedLiteral (Json.array items).text
  | .object entries => quotedLiteral (Json.object entries).text

def literals (values : List Json) : String := ", ".intercalate (values.map literal)

def fillFirst (filling : List Char) : List Char → List Char
  | [] => []
  | c :: rest => if c = '?' then filling ++ rest else c :: fillFirst filling rest

def bind (expression : String) (value : Json) : String :=
  String.ofList (fillFirst (literal value).toList expression.toList)

end Sql

mutual

def Condition.sql : Condition → String
  | .compare field operator value => field ++ " " ++ operator ++ " " ++ Sql.literal value
  -- no value is in the empty set, and every value is outside it
  | .oneOf field values =>
      if values.isEmpty then "0 = 1" else field ++ " IN (" ++ Sql.literals values ++ ")"
  | .noneOf field values =>
      if values.isEmpty then "1 = 1" else field ++ " NOT IN (" ++ Sql.literals values ++ ")"
  | .between field lower upper =>
      field ++ " BETWEEN " ++ Sql.literal lower ++ " AND " ++ Sql.literal upper
  | .notNull field => field ++ " IS NOT NULL"
  | .raw expression none => expression
  | .raw expression (some binding) => Sql.bind expression binding
  | .nested clauses => "(" ++ Clause.listSql clauses ++ ")"
  | .related _ target clauses =>
      target.existsSql (if clauses.isEmpty then none else some (Clause.listSql clauses))
        clauses.length
termination_by structural condition => condition

def Clause.listSql : List Clause → String
  | [] => ""
  | ⟨condition, _⟩ :: rest => condition.sql ++ Clause.restSql rest
termination_by structural clauses => clauses

def Clause.restSql : List Clause → String
  | [] => ""
  | ⟨condition, connective⟩ :: rest =>
      " " ++ connective.sql ++ " " ++ condition.sql ++ Clause.restSql rest
termination_by structural clauses => clauses

end

end DeclarativeQuery
