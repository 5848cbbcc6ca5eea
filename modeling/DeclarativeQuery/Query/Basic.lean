import DeclarativeQuery.Query.Step
import DeclarativeQuery.Sql.Condition

/-!
A query under construction. A plain one refuses to load relations; one that is aware of relations
keeps its loads, each relation once. Conditions of a group or of a related set are built on a query
of its own, which knows the dialect and the relations but no scopes.
-/

namespace DeclarativeQuery

structure Query where
  table : String
  dialect : Dialect := .other
  relationAware : Bool := false
  columns : List String := ["*"]
  wheres : List Clause := []
  groups : List String := []
  havings : List Clause := []
  orders : List OrderTerm := []
  paging : Option Paging := none
  loads : List EagerLoad := []
  /-- The latest definition of a name comes first. -/
  relations : List (String × Relation) := []
  scopes : Registry := {}

namespace Query

def plain (table : String) : Query := { table }

def entity (table : String) : Query := { table, relationAware := true }

def capabilities (query : Query) : Capabilities where
  inclusion := query.relationAware
  hasScope := query.scopes.contains

/-- An unknown relation is a table of that name. -/
def relationTarget (query : Query) (name : String) : Relation :=
  (query.relations.lookup name).getD { table := name }

def subquery (query : Query) (table : String) : Query :=
  { table
    dialect := query.dialect
    relationAware := query.relationAware
    relations := query.relations }

def addRelation (query : Query) (name : String) (relation : Relation) : Query :=
  { query with relations := (name, relation) :: query.relations }

def addWhere (query : Query) (condition : Condition) (connective : Connective) : Query :=
  { query with wheres := query.wheres ++ [⟨condition, connective⟩] }

def addNested (query : Query) (clauses : List Clause) (connective : Connective) : Query :=
  if clauses.isEmpty then query else query.addWhere (.nested clauses) connective

def addRelated (query : Query) (relation : String) (clauses : List Clause)
    (connective : Connective) : Query :=
  query.addWhere (.related relation (query.relationTarget relation) clauses) connective

/-- Ranges and lists arrive as one value under the name of their operator. -/
def havingCondition (field operator : String) (value : Json) : Condition :=
  match operator, value with
  | "between", .array [lower, upper] => .between field lower upper
  | "in", .array values => .oneOf field values
  | "not in", .array values => .noneOf field values
  | "not null", _ => .notNull field
  | _, _ => .compare field operator value

def addHaving (query : Query) (condition : Condition) (connective : Connective) : Query :=
  { query with havings := query.havings ++ [⟨condition, connective⟩] }

def addOrder (query : Query) (term : OrderTerm) : Query :=
  { query with orders := query.orders ++ [term] }

def addGroup (query : Query) (field : String) : Query :=
  { query with groups := query.groups ++ [field] }

def setLimit (query : Query) (bound : Int) : Query :=
  { query with paging := some { query.paging.getD {} with limit := some bound } }

def setOffset (query : Query) (bound : Int) : Query :=
  { query with paging := some { query.paging.getD {} with offset := some bound } }

def putLoad (load : EagerLoad) : List EagerLoad → List EagerLoad
  | [] => [load]
  | first :: rest =>
      if first.relation = load.relation then load :: rest else first :: putLoad load rest

def addLoads (query : Query) (loads : List EagerLoad) : Query :=
  { query with loads := loads.foldl (fun kept load => putLoad load kept) query.loads }

/-! The text of a query. -/

def listSql (keyword : String) (items : List String) : String :=
  if items.isEmpty then "" else keyword ++ ", ".intercalate items

def clausesSql (keyword : String) (clauses : List Clause) : String :=
  if clauses.isEmpty then "" else keyword ++ Clause.listSql clauses

def pagingSql : Option Paging → String
  | none => ""
  | some paging => paging.sql

def sql (query : Query) : String :=
  "SELECT " ++ ", ".intercalate query.columns ++ " FROM " ++ query.table ++
    clausesSql " WHERE " query.wheres ++ listSql " GROUP BY " query.groups ++
    clausesSql " HAVING " query.havings ++
    listSql " ORDER BY " (query.orders.map OrderTerm.sql) ++ pagingSql query.paging

end Query

end DeclarativeQuery
