import DeclarativeQuery.Proofs.SearchConditions
import DeclarativeQuery.Proofs.TextMeaning

/-!
Whether the condition of a subquery keeps the tie to the row at hand. More than one clause is
written in parentheses, and each kind of condition is written without an OR outside of parentheses,
except for raw text. So the tie is kept unless the only clause is raw and says OR by itself.
-/

namespace DeclarativeQuery

open Sql (isBare isClosed isSettled)

/-- The tie is a condition of its own, without OR. -/
structure Relation.TiedBy (relation : Relation) (tie : String) : Prop where
  on : relation.on = some tie
  bare : isBare tie = true
  settled : isSettled tie = true

def Relation.isClosed (relation : Relation) : Bool :=
  Sql.isClosed relation.table && relation.on.all Sql.isClosed

def Condition.isRaw : Condition → Bool
  | .raw _ _ => true
  | _ => false

mutual

/-- Fields and operators are without OR; raw text, tables and ties close what they open. -/
def Condition.isClosed : Condition → Bool
  | .compare field operator _ => isBare field && isBare operator
  | .oneOf field _ => isBare field
  | .noneOf field _ => isBare field
  | .between field _ _ => isBare field
  | .notNull field => isBare field
  | .raw expression none => Sql.isClosed expression
  | .raw expression (some binding) => Sql.isClosed (Sql.bind expression binding)
  | .nested clauses => Clause.areClosed clauses
  | .related _ target clauses => target.isClosed && Clause.areClosed clauses
termination_by structural condition => condition

def Clause.areClosed : List Clause → Bool
  | [] => true
  | ⟨condition, _⟩ :: rest => condition.isClosed && Clause.areClosed rest
termination_by structural clauses => clauses

end

namespace Relation

variable {relation : Relation} {inner : Option String}

def rowsSql (relation : Relation) (inner : Option String) (count : Nat) : List String :=
  "SELECT 1 FROM" :: relation.table :: match relation.on, inner with
    | some tie, some inner =>
        ["WHERE", tie, "AND", if 1 < count then "(" ++ inner ++ ")" else inner]
    | some tie, none => ["WHERE", tie]
    | none, some inner => ["WHERE", inner]
    | none, none => []

theorem existsSql_eq (relation : Relation) (inner : Option String) (count : Nat) :
    relation.existsSql inner count =
      "EXISTS" ++ " (" ++ " ".intercalate (relation.rowsSql inner count) ++ ")" := by
  rcases relation with ⟨table, tie⟩
  unfold existsSql rowsSql
  apply String.toList_inj.mp
  by_cases several : 1 < count <;> cases tie <;> cases inner <;>
    simp [several, String.intercalate_cons_cons]

theorem existsSql_bare (closed : relation.isClosed = true)
    (inside : ∀ text ∈ inner, Sql.isClosed text = true) (count : Nat) :
    isBare (relation.existsSql inner count) = true := by
  rcases relation with ⟨table, tie⟩
  simp only [isClosed, Bool.and_eq_true] at closed
  have words : ∀ word ∈ (Relation.mk table tie).rowsSql inner count,
      Sql.isClosed word = true := by
    have keywords : ∀ word ∈ ["SELECT 1 FROM", "WHERE", "AND"], Sql.isClosed word = true := by
      simp only [List.forall_mem_cons]
      exact ⟨rfl, rfl, rfl, List.forall_mem_nil _⟩
    have joined : ∀ text ∈ inner,
        Sql.isClosed (if 1 < count then "(" ++ text ++ ")" else text) = true := by
      intro text same
      split
      · exact Sql.madeOf_group (inside text same) fun _ => rfl
      · exact inside text same
    cases tie <;> cases inner <;> simp_all [rowsSql]
  rw [existsSql_eq]
  exact Sql.madeOf_parenthesized rfl (Sql.madeOf_words words) fun _ => rfl

end Relation

theorem Connective.sql_closed (connective : Connective) : isClosed connective.sql = true := by
  cases connective <;> rfl

theorem Clause.breaks_restSql (clauses : List Clause) :
    Sql.breaks (Clause.restSql clauses) = true := by
  cases clauses with
  | nil => rfl
  | cons clause rest =>
      rcases clause with ⟨condition, connective⟩
      simp [Clause.restSql, Sql.breaks, Sql.isLetter]

theorem Condition.closed_of_bare {condition : Condition} (bare : isBare condition.sql = true) :
    Sql.isClosed condition.sql = true ∧
      (condition.isRaw = false → isBare condition.sql = true) :=
  ⟨Sql.isClosed_of_madeOf bare, fun _ => bare⟩

theorem Sql.bare_listed {field keyword : String} (named : isBare field = true)
    (listing : isBare keyword = true) (values : List Json) :
    isBare (field ++ " " ++ keyword ++ " (" ++ Sql.literals values ++ ")") = true := by
  have head : isBare (field ++ " " ++ keyword) = true :=
    (Sql.madeOf_spaced named keyword).trans listing
  exact Sql.madeOf_parenthesized head (Sql.closed_literals values) fun _ => rfl

theorem Condition.related_sql (name : String) (target : Relation) (clause : Clause)
    (rest : List Clause) : (Condition.related name target (clause :: rest)).sql =
      target.existsSql (some (Clause.listSql (clause :: rest))) (clause :: rest).length := by
  rw [Condition.sql]
  rfl

/-! The induction is on the condition; of a raw one only what it opens and closes is known. -/

mutual

theorem Condition.sql_closed : ∀ condition : Condition, condition.isClosed = true →
    isClosed condition.sql = true ∧ (condition.isRaw = false → isBare condition.sql = true)
  | .compare field operator value, closed => by
      simp only [Condition.isClosed, Bool.and_eq_true] at closed
      have words : ∀ word ∈ [field, operator, Sql.literal value], isBare word = true := by
        simp [closed, Sql.bare_literal]
      have text : (Condition.compare field operator value).sql =
          " ".intercalate [field, operator, Sql.literal value] := by
        simp [Condition.sql, String.intercalate_cons_cons, String.append_assoc]
      exact Condition.closed_of_bare (text ▸ Sql.madeOf_words words)
  | .oneOf field [], _ => by
      have never : isBare "0 = 1" = true := rfl
      exact Condition.closed_of_bare never
  | .oneOf field (value :: rest), closed => by
      have listed := Sql.bare_listed closed (rfl : isBare "IN" = true) (value :: rest)
      have text : (Condition.oneOf field (value :: rest)).sql =
          field ++ " " ++ "IN" ++ " (" ++ Sql.literals (value :: rest) ++ ")" :=
        String.toList_inj.mp (by simp [Condition.sql])
      exact Condition.closed_of_bare (text ▸ listed)
  | .noneOf field [], _ => by
      have always : isBare "1 = 1" = true := rfl
      exact Condition.closed_of_bare always
  | .noneOf field (value :: rest), closed => by
      have listed := Sql.bare_listed closed (rfl : isBare "NOT IN" = true) (value :: rest)
      have text : (Condition.noneOf field (value :: rest)).sql =
          field ++ " " ++ "NOT IN" ++ " (" ++ Sql.literals (value :: rest) ++ ")" :=
        String.toList_inj.mp (by simp [Condition.sql])
      exact Condition.closed_of_bare (text ▸ listed)
  | .between field lower upper, closed => by
      have named : isBare field = true := closed
      have keyword : isBare "BETWEEN" = true := rfl
      have and : isBare "AND" = true := rfl
      have words : ∀ word ∈ [field, "BETWEEN", Sql.literal lower, "AND", Sql.literal upper],
          isBare word = true := by
        simp [named, keyword, and, Sql.bare_literal]
      have text : (Condition.between field lower upper).sql =
          " ".intercalate [field, "BETWEEN", Sql.literal lower, "AND", Sql.literal upper] :=
        String.toList_inj.mp (by simp [Condition.sql, String.intercalate_cons_cons])
      exact Condition.closed_of_bare (text ▸ Sql.madeOf_words words)
  | .notNull field, closed => by
      have named : isBare field = true := closed
      have keyword : isBare " IS NOT NULL" = true := rfl
      exact Condition.closed_of_bare ((Sql.madeOf_append named rfl).trans keyword)
  | .raw expression none, closed => ⟨closed, fun other => nomatch other⟩
  | .raw expression (some binding), closed => ⟨closed, fun other => nomatch other⟩
  | .nested clauses, closed => by
      have inside := Clause.listSql_closed clauses closed
      have grouped : isBare ("(" ++ Clause.listSql clauses ++ ")") = true :=
        Sql.madeOf_group inside fun _ => rfl
      exact Condition.closed_of_bare grouped
  | .related relation target [], closed => by
      simp only [Condition.isClosed, Bool.and_eq_true] at closed
      have bare : isBare (target.existsSql none 0) = true :=
        Relation.existsSql_bare closed.1 (by simp) 0
      exact Condition.closed_of_bare bare
  | .related relation target (clause :: rest), closed => by
      simp only [Condition.isClosed, Bool.and_eq_true] at closed
      have inside := Clause.listSql_closed (clause :: rest) closed.2
      have each : ∀ text ∈ some (Clause.listSql (clause :: rest)), isClosed text = true := by
        simpa using inside
      have text := Condition.related_sql relation target clause rest
      exact Condition.closed_of_bare (text ▸ Relation.existsSql_bare closed.1 each _)
termination_by structural condition => condition

theorem Clause.listSql_closed : ∀ clauses : List Clause, Clause.areClosed clauses = true →
    isClosed (Clause.listSql clauses) = true
  | [], _ => rfl
  | ⟨condition, _⟩ :: rest, closed => by
      simp only [Clause.areClosed, Bool.and_eq_true] at closed
      have first := (Condition.sql_closed condition closed.1).1
      have others := Clause.restSql_closed rest closed.2
      exact (Sql.madeOf_append first (Clause.breaks_restSql rest)).trans others
termination_by structural clauses => clauses

theorem Clause.restSql_closed : ∀ clauses : List Clause, Clause.areClosed clauses = true →
    isClosed (Clause.restSql clauses) = true
  | [], _ => rfl
  | ⟨condition, connective⟩ :: rest, closed => by
      simp only [Clause.areClosed, Bool.and_eq_true] at closed
      have first := (Condition.sql_closed condition closed.1).1
      have others := Clause.restSql_closed rest closed.2
      have joined : isClosed (" " ++ connective.sql) = true :=
        (Sql.madeOf_space connective.sql).trans connective.sql_closed
      have head : isClosed (" " ++ connective.sql ++ " " ++ condition.sql) = true :=
        (Sql.madeOf_spaced joined condition.sql).trans first
      exact (Sql.madeOf_append head (Clause.breaks_restSql rest)).trans others
termination_by structural clauses => clauses

end

/-! Subqueries with a tie. -/

def Clause.groupedSql (clauses : List Clause) : String :=
  if 1 < clauses.length then "(" ++ Clause.listSql clauses ++ ")" else Clause.listSql clauses

def Relation.Finds (target : Relation) (found : String) (condition : Condition) : Prop :=
  condition.sql = "EXISTS (SELECT 1 FROM " ++ target.table ++ " WHERE " ++ found ++ ")"

/-- The condition has no OR outside of parentheses and literals, and the tie holds where it does. -/
structure Sql.KeepsTie (tie found : String) : Prop where
  bare : isBare found = true
  implies : ∀ truth, Sql.holds truth found = true → Sql.holds truth tie = true

section Subquery
variable {target : Relation} {tie : String} {clauses : List Clause}

theorem Relation.TiedBy.finds (tied : target.TiedBy tie) (some : clauses ≠ []) (name : String) :
    target.Finds (tie ++ " AND " ++ Clause.groupedSql clauses)
      (.related name target clauses) := by
  cases clauses with
  | nil => contradiction
  | cons clause rest =>
      rw [Relation.Finds, Condition.related_sql]
      simp only [Relation.existsSql, tied.on, Clause.groupedSql]
      apply String.toList_inj.mp
      by_cases several : 1 < (clause :: rest).length <;> simp only [several, ↓reduceIte] <;> simp

theorem Relation.TiedBy.keepsTie_iff (tied : target.TiedBy tie) (inner : String) :
    Sql.KeepsTie tie (tie ++ " AND " ++ inner) ↔ isBare inner = true := by
  -- the tie and the AND bring no OR along, so all depends on the rest
  have same : isBare (tie ++ " AND " ++ inner) = isBare inner := by
    have joined : isBare (tie ++ " AND") = true :=
      (Sql.madeOf_append tied.bare rfl).trans (rfl : isBare " AND" = true)
    have cut : tie ++ " AND " ++ inner = tie ++ " AND" ++ " " ++ inner :=
      String.toList_inj.mp (by simp)
    rw [cut]
    exact Sql.madeOf_spaced joined inner
  constructor
  · intro keeps
    exact same ▸ keeps.bare
  · intro bare
    refine ⟨same.trans bare, fun truth both => ?_⟩
    rw [Sql.holds_joined tied.bare tied.settled bare truth, Bool.and_eq_true] at both
    exact both.1

/-- Only a raw condition by itself brings an OR along. -/
theorem Clause.groupedSql_bare_iff (some : clauses ≠ [])
    (closed : Clause.areClosed clauses = true) :
    isBare (Clause.groupedSql clauses) = true ↔ ∀ expression binding connective,
      clauses = [⟨.raw expression binding, connective⟩] →
        isBare (Condition.raw expression binding).sql = true := by
  rcases clauses with _ | ⟨⟨condition, connective⟩, _ | ⟨second, rest⟩⟩
  case nil => contradiction
  case cons.nil =>
    -- without parentheses the text is as good as the condition alone
    have single : Clause.groupedSql [⟨condition, connective⟩] = condition.sql := by
      simp [Clause.groupedSql, Clause.listSql, Clause.restSql]
    simp only [Clause.areClosed, Bool.and_true] at closed
    rw [single]
    constructor
    · rintro bare expression binding connective ⟨⟩
      exact bare
    · intro raw
      cases condition with
      | raw expression binding => exact raw expression binding connective rfl
      | _ => exact (Condition.sql_closed _ closed).2 rfl
  case cons.cons =>
    have inside := Clause.listSql_closed _ closed
    have grouped : isBare (Clause.groupedSql (⟨condition, connective⟩ :: second :: rest)) = true :=
      Sql.madeOf_group inside fun _ => rfl
    simp [grouped]

end Subquery

/-! What a filter asks of related records is one clause, and never says OR. -/

theorem Dialect.searchSql_bare {field pattern : String} (named : isBare field = true)
    (sought : isBare pattern = true) (dialect : Dialect) :
    isBare (dialect.searchSql field pattern) = true := by
  cases dialect with
  | postgres =>
      have operator : isBare "ilike" = true := rfl
      have words : ∀ word ∈ [field, "ilike", pattern], isBare word = true := by
        simp [named, operator, sought]
      have text : searchSql .postgres field pattern = " ".intercalate [field, "ilike", pattern] :=
        String.toList_inj.mp (by simp [searchSql, String.intercalate_cons_cons])
      exact text ▸ Sql.madeOf_words words
  | mysql =>
      have operator : isBare "COLLATE utf8_general_ci LIKE" = true := rfl
      have words : ∀ word ∈ [field, "COLLATE utf8_general_ci LIKE", pattern],
          isBare word = true := by
        simp [named, operator, sought]
      have text : searchSql .mysql field pattern =
          " ".intercalate [field, "COLLATE utf8_general_ci LIKE", pattern] :=
        String.toList_inj.mp (by simp [searchSql, String.intercalate_cons_cons])
      exact text ▸ Sql.madeOf_words words
  | other =>
      have operator : isBare "LIKE" = true := rfl
      have lowered : ∀ {text : String}, isBare text = true →
          isBare ("LOWER" ++ ("(" ++ text ++ ")")) = true := by
        intro text bare
        have name : isBare "LOWER" = true := rfl
        have behind : Sql.breaks ("(" ++ text ++ ")") = true := by simp [Sql.breaks, Sql.isLetter]
        exact (Sql.madeOf_append name behind).trans
          (Sql.madeOf_group (Sql.isClosed_of_madeOf bare) fun _ => rfl)
      have words : ∀ word ∈ ["LOWER" ++ ("(" ++ field ++ ")"), "LIKE",
          "LOWER" ++ ("(" ++ pattern ++ ")")], isBare word = true := by
        simp only [List.forall_mem_cons]
        exact ⟨lowered named, operator, lowered sought, List.forall_mem_nil _⟩
      have text : searchSql .other field pattern = " ".intercalate
          ["LOWER" ++ ("(" ++ field ++ ")"), "LIKE", "LOWER" ++ ("(" ++ pattern ++ ")")] :=
        String.toList_inj.mp (by simp [searchSql, String.intercalate_cons_cons])
      exact text ▸ Sql.madeOf_words words

theorem Predicate.condition_sql_bare {field : String} {predicate : Predicate}
    (named : isBare field = true) (whole : '?' ∉ field.toList)
    (operators : ∀ operator value, predicate = .compare operator value → isBare operator = true)
    (dialect : Dialect) : isBare (predicate.condition dialect field).sql = true := by
  cases predicate with
  | search pattern =>
      rw [condition, Dialect.searchCondition_sql_whole (.inr whole)]
      exact Dialect.searchSql_bare named (Sql.bare_quotedLiteral pattern) dialect
  | compare operator value =>
      have closed : (Condition.compare field operator value).isClosed = true := by
        simp [Condition.isClosed, named, operators operator value rfl]
      exact (Condition.sql_closed _ closed).2 rfl
  | between lower upper => exact (Condition.sql_closed (.between field lower upper) named).2 rfl
  | oneOf values => exact (Condition.sql_closed (.oneOf field values) named).2 rfl
  | noneOf values => exact (Condition.sql_closed (.noneOf field values) named).2 rfl
  | notNull => exact (Condition.sql_closed (.notNull field) named).2 rfl

namespace Query

/-- Of a subquery with a tie and with clauses that close what they open, the condition implies the
tie, unless the only clause is raw text with an OR of its own. What a filter asks of related records
keeps the tie always, provided that its field holds no mark. -/
theorem subquery_keeps_tie_unless_raw (target : Relation) (tie : String)
    (tied : target.TiedBy tie) :
    (∀ name clauses, clauses ≠ [] → Clause.areClosed clauses = true →
      ∃ found, target.Finds found (.related name target clauses) ∧
        (Sql.KeepsTie tie found ↔ ∀ expression binding connective,
          clauses = [⟨.raw expression binding, connective⟩] →
            isBare (Condition.raw expression binding).sql = true)) ∧
    (∀ dialect targets relation field predicate, targets relation = target →
      isBare field = true → '?' ∉ field.toList →
      (∀ operator value, predicate = .compare operator value → isBare operator = true) →
      ∃ found,
        target.Finds found (Filter.relatedCondition dialect targets relation field predicate) ∧
        Sql.KeepsTie tie found) := by
  constructor
  · intro name clauses some closed
    refine ⟨_, tied.finds some name, ?_⟩
    rw [tied.keepsTie_iff]
    exact Clause.groupedSql_bare_iff some closed
  · rintro dialect targets relation field predicate rfl named whole operators
    have bare := Predicate.condition_sql_bare named whole operators dialect
    have single : Clause.groupedSql (Connective.and.clauses [predicate.condition dialect field]) =
        (predicate.condition dialect field).sql := by
      simp [Clause.groupedSql, Connective.clauses, Clause.listSql, Clause.restSql]
    refine ⟨_, tied.finds (by simp [Connective.clauses]) relation, ?_⟩
    rw [tied.keepsTie_iff, single]
    exact bare

def postTie : String := "post = posts.id AND at BETWEEN opened AND closed"

def comments : Relation := ⟨"comments", some postTie⟩

def posts : Query := { entity "posts" with
  dialect := .mysql
  relations := [("comments", comments), ("readers", ⟨"readers", some "a OR b"⟩)] }

def commentClauses : List Clause := [
  ⟨.raw "kind = ? OR by = '(or)'" (some (.string "o'r")), .and⟩,
  ⟨.related "readers" ⟨"readers", some "a OR b"⟩ [⟨.notNull "age", .and⟩], .and⟩,
  ⟨.nested [⟨.oneOf "tag" [.string "or", .string ")"], .and⟩,
    ⟨.between "age" (.whole 1) (.whole 9), .or⟩], .or⟩]

theorem several_clauses_keep_tie :
    let asked := posts.run (.whereHas "comments" [
      .whereRaw "kind = ? OR by = '(or)'" (.string "o'r"),
      .whereHas "readers" [.whereNotNull "age"],
      .whereNested .or [.whereIn "tag" [.string "or", .string ")"],
        .call (.between "age" (.whole 1) (.whole 9) .or)]])
    let sought := Filter.relatedCondition .mysql posts.relationTarget "comments" "title"
      (.search "%or%")
    asked.failure = none ∧
    asked.query.wheres = [⟨.related "comments" comments commentClauses, .and⟩] ∧
    Clause.listSql commentClauses = "kind = 'o''r' OR by = '(or)' AND " ++
      "EXISTS (SELECT 1 FROM readers WHERE a OR b AND age IS NOT NULL) OR " ++
      "(tag IN ('or', ')') OR age BETWEEN 1 AND 9)" ∧
    comments.TiedBy postTie ∧ commentClauses ≠ [] ∧ Clause.areClosed commentClauses = true ∧
    posts.relationTarget "comments" = comments ∧ isBare "title" = true ∧ '?' ∉ "title".toList ∧
    (∃ found, comments.Finds found (.related "comments" comments commentClauses) ∧
      Sql.KeepsTie postTie found) ∧
    (∃ found, comments.Finds found sought ∧ Sql.KeepsTie postTie found) := by
  intro asked sought
  have tied : comments.TiedBy postTie := ⟨rfl, by decide +kernel, by decide +kernel⟩
  have closed : Clause.areClosed commentClauses = true := by decide +kernel
  have some : commentClauses ≠ [] := by simp [commentClauses]
  have named : isBare "title" = true := by decide +kernel
  have markless : '?' ∉ "title".toList := by simp
  have law := subquery_keeps_tie_unless_raw comments postTie tied
  obtain ⟨found, finds, keeps⟩ := law.1 "comments" commentClauses some closed
  -- the raw clause is not the only one
  have several := keeps.mpr (by simp [commentClauses])
  have filtered := law.2 .mysql posts.relationTarget "comments" "title" (.search "%or%") rfl named
    markless (fun _ _ other => nomatch other)
  exact ⟨rfl, rfl, by decide +kernel, tied, some, closed, rfl, named, markless,
    ⟨found, finds, several⟩, filtered⟩

/-- The only clause is raw and says OR; its second half holds of rows that the tie leaves out. -/
theorem raw_or_loses_tie :
    let tie := "roles.user_id = users.id"
    let roles : Relation := ⟨"roles", some tie⟩
    let found := "roles.user_id = users.id AND level > 3 OR everyone = 1"
    let asked := ((entity "users").addRelation "roles" roles).run
      (.whereHas "roles" [.whereRaw "level > ? OR everyone = 1" (.whole 3)])
    let raw : Condition := .raw "level > ? OR everyone = 1" (some (.whole 3))
    asked.failure = none ∧
    asked.query.wheres = [⟨.related "roles" roles [⟨raw, .and⟩], .and⟩] ∧
    roles.TiedBy tie ∧ Clause.areClosed [⟨raw, .and⟩] = true ∧
    roles.Finds found (.related "roles" roles [⟨raw, .and⟩]) ∧
    isBare found = false ∧
    ∃ truth, Sql.holds truth found = true ∧ Sql.holds truth tie = false := by
  intro tie roles found asked raw
  have tied : roles.TiedBy tie := ⟨rfl, by decide +kernel, by decide +kernel⟩
  have text : (Condition.related "roles" roles [⟨raw, .and⟩]).sql =
      "EXISTS (SELECT 1 FROM " ++ roles.table ++ " WHERE " ++ found ++ ")" := by
    decide +kernel
  exact ⟨rfl, rfl, tied, by decide +kernel, text, by decide +kernel,
    fun factor => factor.any (·.isWord "everyone"), by decide +kernel, by decide +kernel⟩

end Query

end DeclarativeQuery
