import DeclarativeQuery.Proofs.QuoteFreeText
import DeclarativeQuery.Query.Basic

/-!
The literals of a query text are the values of its clauses. Between two values the text always has
something that is no quote, so that no two literals run into each other; and blanking the contents
of the literals is the same as rendering the query with empty texts for its values.
-/

namespace DeclarativeQuery

open Sql (Marks quoteFree)

namespace Json

def literalTexts : Json → List String
  | .string text => [text]
  | .array items => [(Json.array items).text]
  | .object entries => [(Json.object entries).text]
  | _ => []

def blanked : Json → Json
  | .string _ => .string ""
  | .array _ => .string ""
  | .object _ => .string ""
  | value => value

theorem marks_literal (value : Json) :
    Marks (Sql.literal value) value.literalTexts (Sql.literal value.blanked) := by
  cases value with
  | null => exact Marks.plain rfl
  | bool value => cases value <;> exact Marks.plain rfl
  | number value => exact Marks.plain value.text_quoteFree
  | string text => exact Marks.quoted text
  | array items => exact Marks.quoted _
  | object entries => exact Marks.quoted _

theorem marks_literals : ∀ values : List Json,
    Marks (Sql.literals values) (values.flatMap literalTexts) (Sql.literals (values.map blanked))
  | [] => Marks.plain rfl
  | [value] => by simpa [Sql.literals] using marks_literal value
  | value :: second :: rest => by
      have onward := marks_literals (second :: rest)
      have joined := (marks_literal value).parted ", " rfl (by decide) onward
      simpa only [Sql.literals, List.map_cons, String.intercalate_cons_cons,
        List.flatMap_cons] using joined

end Json

namespace Sql

theorem fillFirst_append {before : List Char} (first : '?' ∉ before) (filling after : List Char) :
    fillFirst filling (before ++ '?' :: after) = before ++ filling ++ after := by
  induction before with
  | nil => rfl
  | cons c before ih =>
      have other : c ≠ '?' := fun here => first (here ▸ List.mem_cons_self)
      have onward := ih (List.not_mem_of_not_mem_cons first)
      rw [List.cons_append, fillFirst, if_neg other, onward, List.cons_append, List.cons_append]

/-- A binding takes the place of one mark, and the text before and after it stays. -/
theorem fillFirst_mem {text : List Char} (hole : '?' ∈ text) :
    ∃ before after, text = before ++ '?' :: after ∧
      ∀ filling, fillFirst filling text = before ++ filling ++ after := by
  obtain ⟨before, after, same, first⟩ := List.eq_append_cons_of_mem hole
  exact ⟨before, after, same, fun filling => same ▸ fillFirst_append first filling after⟩

theorem fillFirst_not_mem {text : List Char} (whole : '?' ∉ text) (filling : List Char) :
    fillFirst filling text = text := by
  induction text with
  | nil => rfl
  | cons c rest ih =>
      have other : c ≠ '?' := fun here => whole (here ▸ List.mem_cons_self)
      rw [fillFirst, if_neg other, ih (List.not_mem_of_not_mem_cons whole)]

theorem marks_bind {expression : String} (clear : quoteFree expression = true) (value : Json) :
    Marks (bind expression value)
      (if '?' ∈ expression.toList then value.literalTexts else [])
      (bind expression value.blanked) := by
  -- a field may hold a mark of its own, so the value need not stand where the dialect meant it to
  by_cases hole : '?' ∈ expression.toList
  · obtain ⟨before, after, same, filled⟩ := fillFirst_mem hole
    have plain := quoteFree_iff.mp clear
    rw [same] at plain
    simp only [List.mem_append, List.mem_cons, not_or] at plain
    have cut : ∀ value : Json, bind expression value =
        String.ofList before ++ literal value ++ String.ofList after := by
      intro value
      apply String.toList_inj.mp
      simp [bind, filled]
    rw [cut, cut, if_pos hole]
    have middle := value.marks_literal.after (quoteFree_ofList.mpr plain.1)
    exact middle.followed (quoteFree_ofList.mpr plain.2.2)
  · have same : ∀ value : Json, bind expression value = expression := by
      intro value
      rw [bind, fillFirst_not_mem hole, String.ofList_toList]
    rw [same, same, if_neg hole]
    exact Marks.plain clear

end Sql

/-! Conditions -/

mutual

def Condition.literalTexts : Condition → List String
  | .compare _ _ value => value.literalTexts
  | .oneOf _ values => values.flatMap Json.literalTexts
  | .noneOf _ values => values.flatMap Json.literalTexts
  | .between _ lower upper => lower.literalTexts ++ upper.literalTexts
  | .notNull _ => []
  | .raw _ none => []
  | .raw expression (some binding) =>
      if '?' ∈ expression.toList then binding.literalTexts else []
  | .nested clauses => Clause.literalTexts clauses
  | .related _ _ clauses => Clause.literalTexts clauses
termination_by structural condition => condition

def Clause.literalTexts : List Clause → List String
  | [] => []
  | ⟨condition, _⟩ :: rest => condition.literalTexts ++ Clause.literalTexts rest
termination_by structural clauses => clauses

end

mutual

def Condition.blanked : Condition → Condition
  | .compare field operator value => .compare field operator value.blanked
  | .oneOf field values => .oneOf field (values.map Json.blanked)
  | .noneOf field values => .noneOf field (values.map Json.blanked)
  | .between field lower upper => .between field lower.blanked upper.blanked
  | .notNull field => .notNull field
  | .raw expression binding => .raw expression (binding.map Json.blanked)
  | .nested clauses => .nested (Clause.blanked clauses)
  | .related relation target clauses => .related relation target (Clause.blanked clauses)
termination_by structural condition => condition

def Clause.blanked : List Clause → List Clause
  | [] => []
  | ⟨condition, connective⟩ :: rest => ⟨condition.blanked, connective⟩ :: Clause.blanked rest
termination_by structural clauses => clauses

end

def Relation.isQuoteFree (relation : Relation) : Bool :=
  quoteFree relation.table && relation.on.all quoteFree

mutual

def Condition.isQuoteFree : Condition → Bool
  | .compare field operator _ => quoteFree field && quoteFree operator
  | .oneOf field _ => quoteFree field
  | .noneOf field _ => quoteFree field
  | .between field _ _ => quoteFree field
  | .notNull field => quoteFree field
  | .raw expression _ => quoteFree expression
  | .nested clauses => Clause.isQuoteFree clauses
  | .related _ target clauses => target.isQuoteFree && Clause.isQuoteFree clauses
termination_by structural condition => condition

def Clause.isQuoteFree : List Clause → Bool
  | [] => true
  | ⟨condition, _⟩ :: rest => condition.isQuoteFree && Clause.isQuoteFree rest
termination_by structural clauses => clauses

end

namespace Relation

variable {relation : Relation}

theorem existsSql_quoteFree (clear : relation.isQuoteFree = true) (count : Nat) :
    quoteFree (relation.existsSql none count) = true := by
  rcases relation with ⟨table, tie⟩
  simp only [isQuoteFree, Bool.and_eq_true] at clear
  cases tie with
  | none =>
      simp only [existsSql, Sql.quoteFree_append, clear.1]
      rfl
  | some tie =>
      have tied : quoteFree tie = true := clear.2
      simp only [existsSql, Sql.quoteFree_append, clear.1, tied]
      rfl

theorem marks_existsSql (clear : relation.isQuoteFree = true) (count : Nat)
    {inner blank : String} {texts : List String} (marks : Marks inner texts blank) :
    Marks (relation.existsSql (some inner) count) texts
      (relation.existsSql (some blank) count) := by
  rcases relation with ⟨table, tie⟩
  simp only [isQuoteFree, Bool.and_eq_true] at clear
  have head : quoteFree ("EXISTS (SELECT 1 FROM " ++ table) = true := by
    rw [Sql.quoteFree_append, clear.1]
    rfl
  cases tie with
  | none =>
      have condition : Marks (" WHERE " ++ inner) texts (" WHERE " ++ blank) := marks.after rfl
      exact (condition.after head).followed rfl
  | some tie =>
      have tied : quoteFree tie = true := clear.2
      unfold existsSql
      by_cases several : 1 < count
      · have before : quoteFree (" WHERE " ++ tie ++ " AND (") = true := by
          simp only [Sql.quoteFree_append, tied]
          rfl
        have condition : Marks (" WHERE " ++ tie ++ " AND (" ++ inner ++ ")") texts
            (" WHERE " ++ tie ++ " AND (" ++ blank ++ ")") := (marks.after before).followed rfl
        simp only [several, ↓reduceIte]
        exact (condition.after head).followed rfl
      · have before : quoteFree (" WHERE " ++ tie ++ " AND ") = true := by
          simp only [Sql.quoteFree_append, tied]
          rfl
        have condition := marks.after before
        simp only [several, ↓reduceIte]
        exact (condition.after head).followed rfl

end Relation

theorem Clause.blanked_isEmpty (clauses : List Clause) :
    (Clause.blanked clauses).isEmpty = clauses.isEmpty := by
  cases clauses with
  | nil => rfl
  | cons clause rest =>
      rcases clause with ⟨condition, connective⟩
      rfl

theorem Clause.blanked_length (clauses : List Clause) :
    (Clause.blanked clauses).length = clauses.length := by
  induction clauses with
  | nil => rfl
  | cons clause rest ih =>
      rcases clause with ⟨condition, connective⟩
      rw [Clause.blanked, List.length_cons, List.length_cons, ih]

theorem Connective.sql_quoteFree (connective : Connective) :
    quoteFree (" " ++ connective.sql ++ " ") = true := by
  cases connective <;> rfl

theorem Clause.restSql_apart (clauses : List Clause) :
    Sql.Apart (Clause.restSql clauses).toList := by
  cases clauses with
  | nil => simp [Clause.restSql, Sql.Apart]
  | cons clause rest =>
      rcases clause with ⟨condition, connective⟩
      simp [Clause.restSql, Sql.Apart]

/-! The induction is on the condition; a list is rendered in two ways, with and without its first
connective, and only the second is a recursion. -/

mutual

theorem Condition.marks_sql : ∀ condition : Condition, condition.isQuoteFree = true →
    Marks condition.sql condition.literalTexts condition.blanked.sql
  | .compare field operator value, clear => by
      simp only [Condition.isQuoteFree, Bool.and_eq_true] at clear
      have before : quoteFree (field ++ " " ++ operator ++ " ") = true := by
        simp only [Sql.quoteFree_append, clear.1, clear.2]
        rfl
      exact value.marks_literal.after before
  | .oneOf field [], _ => (Marks.plain rfl : Marks "0 = 1" [] "0 = 1")
  | .oneOf field (value :: rest), clear => by
      have named : quoteFree field = true := clear
      have before : quoteFree (field ++ " IN (") = true := by
        rw [Sql.quoteFree_append, named]
        rfl
      exact ((Json.marks_literals (value :: rest)).after before).followed rfl
  | .noneOf field [], _ => (Marks.plain rfl : Marks "1 = 1" [] "1 = 1")
  | .noneOf field (value :: rest), clear => by
      have named : quoteFree field = true := clear
      have before : quoteFree (field ++ " NOT IN (") = true := by
        rw [Sql.quoteFree_append, named]
        rfl
      exact ((Json.marks_literals (value :: rest)).after before).followed rfl
  | .between field lower upper, clear => by
      have named : quoteFree field = true := clear
      have before : quoteFree (field ++ " BETWEEN ") = true := by
        rw [Sql.quoteFree_append, named]
        rfl
      exact (lower.marks_literal.after before).parted " AND " rfl (by decide) upper.marks_literal
  | .notNull field, clear => by
      have named : quoteFree field = true := clear
      apply Marks.plain
      rw [Condition.sql, Sql.quoteFree_append, named]
      rfl
  | .raw expression none, clear => Marks.plain clear
  | .raw expression (some binding), clear => Sql.marks_bind clear binding
  | .nested clauses, clear => by
      have inside := Clause.marks_listSql clauses clear
      exact (inside.after rfl).followed rfl
  | .related relation target [], clear => by
      simp only [Condition.isQuoteFree, Bool.and_eq_true] at clear
      exact Marks.plain (Relation.existsSql_quoteFree clear.1 0)
  | .related relation target (clause :: rest), clear => by
      simp only [Condition.isQuoteFree, Bool.and_eq_true] at clear
      have inside := Clause.marks_listSql (clause :: rest) clear.2
      have marks := Relation.marks_existsSql clear.1 (clause :: rest).length inside
      rw [Condition.blanked, Condition.sql, Condition.sql, Clause.blanked_isEmpty,
        Clause.blanked_length]
      exact marks
termination_by structural condition => condition

theorem Clause.marks_listSql : ∀ clauses : List Clause, Clause.isQuoteFree clauses = true →
    Marks (Clause.listSql clauses) (Clause.literalTexts clauses)
      (Clause.listSql (Clause.blanked clauses))
  | [], _ => Marks.plain rfl
  | ⟨condition, _⟩ :: rest, clear => by
      simp only [Clause.isQuoteFree, Bool.and_eq_true] at clear
      have first := Condition.marks_sql condition clear.1
      exact first.append (Clause.marks_restSql rest clear.2) (Clause.restSql_apart rest)
termination_by structural clauses => clauses

theorem Clause.marks_restSql : ∀ clauses : List Clause, Clause.isQuoteFree clauses = true →
    Marks (Clause.restSql clauses) (Clause.literalTexts clauses)
      (Clause.restSql (Clause.blanked clauses))
  | [], _ => Marks.plain rfl
  | ⟨condition, connective⟩ :: rest, clear => by
      simp only [Clause.isQuoteFree, Bool.and_eq_true] at clear
      have first := (Condition.marks_sql condition clear.1).after connective.sql_quoteFree
      exact first.append (Clause.marks_restSql rest clear.2) (Clause.restSql_apart rest)
termination_by structural clauses => clauses

end

namespace Query

/-- The values of the clauses are the only parts of the query that may hold quotes. -/
structure QuoteFree (query : Query) : Prop where
  columns : ∀ column ∈ query.columns, quoteFree column = true
  table : quoteFree query.table = true
  wheres : Clause.isQuoteFree query.wheres = true
  groups : ∀ field ∈ query.groups, quoteFree field = true
  havings : Clause.isQuoteFree query.havings = true
  orders : ∀ term ∈ query.orders, quoteFree term.field = true

def blanked (query : Query) : Query :=
  { query with wheres := Clause.blanked query.wheres, havings := Clause.blanked query.havings }

theorem listSql_quoteFree {keyword : String} {items : List String}
    (apart : quoteFree keyword = true) (clear : ∀ item ∈ items, quoteFree item = true) :
    quoteFree (listSql keyword items) = true := by
  unfold listSql
  split
  · rfl
  · rw [Sql.quoteFree_append, apart, Sql.quoteFree_intercalate rfl clear]
    rfl

theorem boundSql_quoteFree (keyword : String) (apart : quoteFree keyword = true)
    (bound : Option Int) : quoteFree (Paging.boundSql keyword bound) = true := by
  cases bound with
  | none => rfl
  | some bound =>
      simp only [Paging.boundSql, Sql.quoteFree_append, apart, Text.intText_quoteFree]
      rfl

theorem pagingSql_quoteFree (paging : Option Paging) : quoteFree (pagingSql paging) = true := by
  cases paging with
  | none => rfl
  | some paging =>
      have limit := boundSql_quoteFree "LIMIT" rfl paging.limit
      have offset := boundSql_quoteFree "OFFSET" rfl paging.offset
      rw [pagingSql, Paging.sql, Sql.quoteFree_append, limit, offset]
      rfl

theorem orderSql_quoteFree {term : OrderTerm} (clear : quoteFree term.field = true) :
    quoteFree term.sql = true := by
  rw [OrderTerm.sql, Sql.quoteFree_append, Sql.quoteFree_append, clear]
  cases term.direction <;> rfl

theorem marks_clausesSql (keyword : String) (apart : quoteFree keyword = true)
    {clauses : List Clause} (clear : Clause.isQuoteFree clauses = true) :
    Marks (clausesSql keyword clauses) (Clause.literalTexts clauses)
      (clausesSql keyword (Clause.blanked clauses)) := by
  unfold clausesSql
  rw [Clause.blanked_isEmpty]
  cases clauses with
  | nil => exact Marks.plain rfl
  | cons clause rest => exact (Clause.marks_listSql (clause :: rest) clear).after apart

/-- The literals of the text are the values of the clauses. -/
theorem marks_sql {query : Query} (clear : query.QuoteFree) :
    Marks query.sql (Clause.literalTexts query.wheres ++ Clause.literalTexts query.havings)
      query.blanked.sql := by
  have columns : quoteFree (", ".intercalate query.columns) = true :=
    Sql.quoteFree_intercalate rfl clear.columns
  have groups : quoteFree (listSql " GROUP BY " query.groups) = true :=
    listSql_quoteFree rfl clear.groups
  have orders : quoteFree (listSql " ORDER BY " (query.orders.map OrderTerm.sql)) = true := by
    apply listSql_quoteFree rfl
    intro text member
    obtain ⟨term, listed, same⟩ := List.mem_map.mp member
    rw [← same]
    exact orderSql_quoteFree (clear.orders term listed)
  have head : quoteFree ("SELECT " ++ ", ".intercalate query.columns ++ " FROM " ++ query.table) =
      true := by
    simp only [Sql.quoteFree_append, columns, clear.table]
    rfl
  have wheres := marks_clausesSql " WHERE " rfl clear.wheres
  have havings := marks_clausesSql " HAVING " rfl clear.havings
  -- the last literal of the first part is closed, for the second starts with a blank or is empty
  have apart : Sql.Apart (clausesSql " HAVING " query.havings).toList := by
    unfold clausesSql
    split <;> simp [Sql.Apart]
  have selected := (wheres.after head).followed groups
  have grouped := selected.append havings apart
  exact (grouped.followed orders).followed (pagingSql_quoteFree query.paging)

end Query

end DeclarativeQuery
