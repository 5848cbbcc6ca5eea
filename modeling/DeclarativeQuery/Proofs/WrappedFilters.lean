import DeclarativeQuery.Proofs.FilterConditions
import DeclarativeQuery.Proofs.FilterDepth

/-!
A filter inside a group of its own. The group takes one level more, and adds to the query what the
filter by itself, joined by the connective of the group, makes of a query without clauses: all of it
as one condition in parentheses, or nothing if there is nothing.
-/

namespace DeclarativeQuery

def Settings.deepened (settings : Settings) : Settings :=
  { settings with maxNestingDepth := settings.maxNestingDepth + 1 }

theorem Settings.groupKey?_word {settings : Settings} {connective : Connective}
    (grouping : settings.isLiteralColumn connective.word = false) :
    settings.groupKey? connective.word = some connective := by
  rw [groupKey?, grouping]
  cases connective <;> rfl

namespace Filter

def wrapped (connective : Connective) (payload : Json) : Json :=
  .object [(connective.word, payload)]

theorem read_wrapped {settings : Settings} {directive : String} {connective : Connective}
    {payload : Json} {filters : List Filter}
    (grouping : settings.isLiteralColumn connective.word = false)
    (accepted : read settings directive payload = .ok filters) :
    read settings.deepened directive (wrapped connective payload) =
      .ok [.group connective filters] := by
  obtain ⟨entries, _, mapping, _, _⟩ := readLevel_ok accepted
  have group : settings.deepened.groupKey? connective.word = some connective :=
    Settings.groupKey?_word grouping
  -- the level that the group takes is the one that the deepened settings have more
  have columns : settings.literalColumns = settings.deepened.literalColumns := rfl
  have inside : readLevel settings.deepened directive settings.maxNestingDepth payload =
      .ok filters :=
    readLevel_elsewhere columns payload accepted directive (readLevel_depth payload accepted)
  have entry : readEntry settings.deepened directive settings.maxNestingDepth connective.word
      payload = .ok [.group connective filters] :=
    readEntry_group group (mapping ▸ rfl) inside
  have level : read settings.deepened directive (wrapped connective payload) =
      readEntries settings.deepened directive settings.maxNestingDepth
        [(connective.word, payload)] := rfl
  rw [level, readEntries_cons, entry]
  rfl

end Filter

namespace Query

open Outcome

def fresh (query : Query) (relationAware : Bool) : Query :=
  { table := query.table
    dialect := query.dialect
    relationAware
    relations := query.relations }

theorem fresh_wheres_sql (query : Query) (relationAware : Bool) {clauses : List Clause}
    (some : clauses ≠ []) :
    ((query.fresh relationAware).addWheres clauses).sql =
      "SELECT * FROM " ++ query.table ++ " WHERE " ++ Clause.listSql clauses := by
  have listed : clauses.isEmpty = false := by simpa using some
  have all : "SELECT " ++ ", ".intercalate ["*"] ++ " FROM " = "SELECT * FROM " := by decide
  unfold sql
  simp only [addWheres, fresh, List.nil_append, clausesSql, listed, listSql, pagingSql,
    List.isEmpty_nil, List.map_nil, Bool.false_eq_true, ↓reduceIte, String.append_empty, all,
    String.append_assoc]

theorem fresh_nested_sql (query : Query) (relationAware : Bool) {clauses : List Clause}
    (some : clauses ≠ []) :
    ((query.fresh relationAware).addNested clauses .and).sql =
      "SELECT * FROM " ++ query.table ++ " WHERE (" ++ Clause.listSql clauses ++ ")" := by
  have listed : clauses.isEmpty = false := by simpa using some
  have one : Connective.and.clauses [.nested clauses] ≠ [] := by simp [Connective.clauses]
  have nested : Clause.listSql (Connective.and.clauses [.nested clauses]) =
      "(" ++ Clause.listSql clauses ++ ")" := by
    simp [Connective.clauses, Clause.listSql, Clause.restSql, Condition.sql]
  rw [addNested, listed, if_neg Bool.false_ne_true, addWhere_eq_addWheres,
    fresh_wheres_sql query relationAware one, nested]
  have opening : " WHERE (" = " WHERE " ++ "(" := by decide
  rw [opening]
  simp only [String.append_assoc]

theorem ask_wrapped_reaches (invoke : Invoker) (query : Query) {settings : Settings}
    {connective : Connective} {payload : Json} {filters : List Filter}
    (grouping : settings.isLiteralColumn connective.word = false)
    (accepted : Filter.read settings Directive.filter payload = .ok filters) :
    (query.ask invoke (.filter settings.deepened (Filter.wrapped connective payload) .and)).Reaches
      (query.addNested (connective.clauses (query.filterConditions filters)) .and) := by
  have reached := ask_filter_reaches invoke query settings.deepened _ _ .and
    (Filter.read_wrapped grouping accepted)
  refine reached.to ?_
  rw [addNested_eq_addWheres, filterConditions, Filter.conditions, Filter.conditions,
    List.append_nil]

/-- A filter that is accepted is accepted as the only member of a group too, if one level more is
allowed and the connective is no column. Where the filter by itself leaves no clauses on a fresh
query, the group leaves every query as it is. Otherwise it adds one condition, joined by AND, in
which these clauses are nested. On a fresh query their text is then the same, in parentheses. -/
theorem wrapping_parenthesises_filter (invoke : Invoker) (query : Query) (relationAware : Bool)
    (settings : Settings) (connective : Connective) (payload : Json)
    (grouping : settings.isLiteralColumn connective.word = false)
    (accepted : ∃ filters, Filter.read settings Directive.filter payload = .ok filters) :
    let wrapped := Filter.wrapped connective payload
    let alone := (query.fresh relationAware).ask invoke (.filter settings payload connective)
    let grouped := fun start : Query => start.ask invoke (.filter settings.deepened wrapped .and)
    let clauses := alone.query.wheres
    (∃ filters, Filter.read settings.deepened Directive.filter wrapped = .ok filters) ∧
    alone.failure = none ∧ (grouped query).failure = none ∧
    (clauses = [] → (grouped query).query = query) ∧
    (clauses ≠ [] → (grouped query).query =
      { query with wheres := query.wheres ++ [⟨.nested clauses, .and⟩] }) ∧
    (clauses ≠ [] → ∃ text,
      alone.query.sql = "SELECT * FROM " ++ query.table ++ " WHERE " ++ text ∧
      (grouped (query.fresh relationAware)).query.sql =
        "SELECT * FROM " ++ query.table ++ " WHERE (" ++ text ++ ")") := by
  intro wrapped alone grouped clauses
  obtain ⟨filters, read⟩ := accepted
  have by_itself : alone.Reaches ((query.fresh relationAware).addWheres
      (connective.clauses (query.filterConditions filters))) :=
    ask_filter_reaches invoke (query.fresh relationAware) settings payload filters connective read
  have left : clauses = connective.clauses (query.filterConditions filters) := by
    simp only [clauses, by_itself.query_eq]
    rfl
  have around : (grouped query).Reaches (query.addNested clauses .and) :=
    left ▸ ask_wrapped_reaches invoke query grouping read
  have around_fresh : (grouped (query.fresh relationAware)).Reaches
      ((query.fresh relationAware).addNested clauses .and) :=
    left ▸ ask_wrapped_reaches invoke (query.fresh relationAware) grouping read
  refine ⟨⟨_, Filter.read_wrapped grouping read⟩, by_itself.unfailing, around.unfailing, ?_, ?_, ?_⟩
  · intro none
    rw [around.query_eq, none]
    rfl
  · intro some
    have listed : clauses.isEmpty = false := by simpa using some
    rw [around.query_eq, addNested, listed]
    rfl
  · intro some
    refine ⟨Clause.listSql clauses, ?_, ?_⟩
    · rw [by_itself.query_eq, ← left]
      exact fresh_wheres_sql query relationAware some
    · rw [around_fresh.query_eq]
      exact fresh_nested_sql query relationAware some

def narrowSettings : Settings := { maxNestingDepth := 3, literalColumns := ["Order"] }

def sparseFilter : Json := .object [
  ("Name", .object [("search", .string " a b "), ("eq", .null)]),
  ("and", .object [("or", .object [("x", .null)])]),
  ("posts.Title", .string "t")]

def narrowedMembers : Query := { entity "users" with
  dialect := .mysql
  wheres := [⟨.notNull "id", .and⟩, ⟨.notNull "seen", .or⟩]
  relations := [("posts", ⟨"posts", some "posts.user_id = users.id"⟩)] }

theorem sparse_filter_is_parenthesised :
    let alone := (narrowedMembers.fresh false).ask withoutScopes
      (.filter narrowSettings sparseFilter .or)
    let grouped := fun start : Query => start.ask withoutScopes
      (.filter narrowSettings.deepened (Filter.wrapped .or sparseFilter) .and)
    narrowSettings.isLiteralColumn Connective.or.word = false ∧
    (∃ filters, Filter.read narrowSettings Directive.filter sparseFilter = .ok filters) ∧
    alone.query.wheres ≠ [] ∧
    (grouped narrowedMembers).query = { narrowedMembers with
      wheres := narrowedMembers.wheres ++ [⟨.nested alone.query.wheres, .and⟩] } ∧
    ∃ text, alone.query.sql = "SELECT * FROM " ++ narrowedMembers.table ++ " WHERE " ++ text ∧
      (grouped (narrowedMembers.fresh false)).query.sql =
        "SELECT * FROM " ++ narrowedMembers.table ++ " WHERE (" ++ text ++ ")" := by
  intro alone grouped
  have column : narrowSettings.isLiteralColumn Connective.or.word = false := rfl
  have accepted : ∃ filters, Filter.read narrowSettings Directive.filter sparseFilter =
      .ok filters := ⟨_, rfl⟩
  have listed : alone.query.wheres.length = 2 := by decide +kernel
  have some : alone.query.wheres ≠ [] := by
    intro none
    rw [none] at listed
    contradiction
  obtain ⟨_, _, _, _, added, text⟩ := wrapping_parenthesises_filter withoutScopes narrowedMembers
    false narrowSettings .or sparseFilter column accepted
  exact ⟨column, accepted, some, added some, text some⟩

end Query

end DeclarativeQuery
