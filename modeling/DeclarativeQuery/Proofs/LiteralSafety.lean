import DeclarativeQuery.Proofs.DescriptionEntries
import DeclarativeQuery.Proofs.DescriptionFrame
import DeclarativeQuery.Proofs.LiteralEntries

/-!
Operands stay inside their literals. On a query that nothing has been asked of, the literals of the
text are those of the description's filters, told from the entries alone, and the text around them
does not depend on what the operands say. Quotes in names are another matter: names are written as
they are, so the laws are about descriptions without such quotes.
-/

namespace DeclarativeQuery

open Sql (quoteFree)

namespace Description

def namingKeys : List String :=
  [Directive.has, Directive.fields, Directive.order, Directive.groupBy, Directive.groupBySnake]

def isQuoteFree (settings : Settings) (description : Json) : Bool :=
  namingKeys.all (fun key => (description.field? key).all Json.isQuoteFree) &&
    (FilterEntry.ofDescription settings description).all FilterEntry.isQuoteFree

variable {settings : Settings} {entries : List (String × Json)} {description : Description}

theorem entry_isQuoteFree {entry : FilterEntry} {payload : Json}
    (clear : isQuoteFree settings payload = true)
    (member : entry ∈ FilterEntry.ofDescription settings payload) :
    entry.isQuoteFree = true := by
  simp only [isQuoteFree, Bool.and_eq_true, List.all_eq_true] at clear
  exact clear.2 entry member

/-- What holds of all that is read from quote-free payloads holds of a naming directive. -/
theorem naming_directive {α : Type} (Clear : α → Prop) {keys : List String} {default result : α}
    {read : String → Json → Except Error α}
    (accepted : directive entries keys default read = .ok result)
    (clear : isQuoteFree settings (.object entries) = true)
    (naming : ∀ key ∈ keys, key ∈ namingKeys) (start : Clear default)
    (each : ∀ key payload, payload.isQuoteFree = true → read key payload = .ok result →
      Clear result) : Clear result := by
  rcases directive_ok accepted with same | ⟨key, among, payload, present, said⟩
  · exact same ▸ start
  · simp only [isQuoteFree, Bool.and_eq_true, List.all_eq_true] at clear
    have named := clear.1 key (naming key among)
    rw [Json.present?, Option.filter_eq_some_iff] at present
    rw [Json.field?, present.1] at named
    exact each key payload named said

theorem names_quoteFree {keys names : List String}
    (accepted : directive entries keys [] Payload.readNames = .ok names)
    (clear : isQuoteFree settings (.object entries) = true)
    (naming : ∀ key ∈ keys, key ∈ namingKeys) : ∀ name ∈ names, quoteFree name = true := by
  apply naming_directive (fun names => ∀ name ∈ names, quoteFree name = true) accepted clear naming
  · intro name member
    contradiction
  · intro key payload text read
    exact Payload.readNames_quoteFree read text

theorem Reads.columns_quoteFree (reads : Reads settings entries description)
    (clear : isQuoteFree settings (.object entries) = true) :
    ∀ column ∈ description.fields.getD ["*"], quoteFree column = true := by
  apply naming_directive (fun fields => ∀ column ∈ fields.getD ["*"], quoteFree column = true)
    reads.fields clear (by decide)
  · intro column member
    rw [List.mem_singleton.mp member]
    rfl
  · intro key payload text read
    obtain ⟨names, listed, same⟩ := map_eq_ok_iff.mp read
    rw [← same]
    exact Payload.readNames_quoteFree listed text

theorem Reads.order_quoteFree (reads : Reads settings entries description)
    (clear : isQuoteFree settings (.object entries) = true) :
    ∀ term ∈ description.order, quoteFree term.field = true := by
  apply naming_directive (fun terms => ∀ term ∈ terms, quoteFree term.field = true)
    reads.order clear (by decide)
  · intro term member
    contradiction
  · intro key payload text read
    exact OrderTerm.readList_quoteFree read text

end Description

namespace Query

/-- Nothing has been asked of it yet; its table, dialect, relations and scopes are free. -/
structure IsFresh (query : Query) : Prop where
  columns : query.columns = ["*"]
  wheres : query.wheres = []
  groups : query.groups = []
  havings : query.havings = []
  orders : query.orders = []
  paging : query.paging = none
  loads : query.loads = []

def namesQuoteFree (query : Query) : Bool :=
  quoteFree query.table && query.relations.all fun (_, relation) => relation.isQuoteFree

variable {query : Query} {settings : Settings} {entries : List (String × Json)}
variable {description : Description}

theorem relationTarget_isQuoteFree (surroundings : query.namesQuoteFree = true) {name : String}
    (named : quoteFree name = true) : (query.relationTarget name).isQuoteFree = true := by
  simp only [namesQuoteFree, Bool.and_eq_true, List.all_eq_true] at surroundings
  unfold relationTarget
  cases found : query.relations.lookup name with
  | none => simp [Relation.isQuoteFree, named]
  | some relation =>
      obtain ⟨before, after, listed, _⟩ := List.lookup_eq_some_iff.mp found
      have member : (name, relation) ∈ query.relations := by simp [listed]
      have clear := surroundings.2 (name, relation) member
      exact clear

/-! The parts of the text that a description adds to a fresh query. -/

theorem withDescription_wheres (fresh : query.IsFresh) (description : Description) :
    (query.withDescription description).wheres = Connective.and.clauses
      (query.filterConditions description.filters ++ description.has.map query.presence) := by
  rw [withDescription, fresh.wheres, List.nil_append, Connective.clauses_append]

theorem withDescription_havings (fresh : query.IsFresh)
    (reads : Description.Reads settings entries description) :
    (query.withDescription description).havings =
      Connective.and.clauses (description.having.map (HavingTerm.statement query.dialect)) := by
  rw [withDescription, fresh.havings, List.nil_append, HavingTerm.map_condition reads.having_reads]

theorem flatMap_leaves {conditions : List Condition}
    (atomic : ∀ condition ∈ conditions, condition.leaves = [condition]) :
    conditions.flatMap Condition.leaves = conditions := by
  induction conditions with
  | nil => rfl
  | cons condition rest ih =>
      have tail := ih fun other member => atomic other (List.mem_cons_of_mem condition member)
      rw [List.flatMap_cons, atomic condition List.mem_cons_self, tail, List.singleton_append]

theorem leaves_wheres (fresh : query.IsFresh) (description : Description) :
    Clause.leaves (query.withDescription description).wheres =
      (query.filterConditions description.filters).flatMap Condition.leaves ++
        description.has.map query.presence := by
  have has : ∀ condition ∈ description.has.map query.presence,
      condition.leaves = [condition] := by
    intro condition member
    obtain ⟨name, _, same⟩ := List.mem_map.mp member
    rw [← same]
    rfl
  rw [withDescription_wheres fresh, Clause.leaves_clauses, List.flatMap_append,
    flatMap_leaves has]

theorem leaves_havings (fresh : query.IsFresh)
    (reads : Description.Reads settings entries description) :
    Clause.leaves (query.withDescription description).havings =
      description.having.map (HavingTerm.statement query.dialect) := by
  rw [withDescription_havings fresh reads, Clause.leaves_clauses, flatMap_leaves]
  intro condition member
  obtain ⟨term, _, same⟩ := List.mem_map.mp member
  rw [← same]
  exact term.predicate.leaves_condition query.dialect term.field

theorem wheres_literalTexts (fresh : query.IsFresh)
    (reads : Description.Reads settings entries description) :
    Clause.literalTexts (query.withDescription description).wheres =
      (FilterEntry.ofDirective settings Directive.filter (.object entries)).flatMap
        FilterEntry.literalTexts := by
  have filters := FilterEntry.literalTexts_of_forall₂ (fun _ _ yields => yields.literalTexts_eq)
    (reads.filters_yield query.dialect query.relationTarget)
  have has : (description.has.map query.presence).flatMap Condition.literalTexts = [] := by
    simp [presence, Condition.literalTexts, Clause.literalTexts]
  rw [Clause.literalTexts_leaves, leaves_wheres fresh, List.flatMap_append, filters, has,
    List.append_nil]

theorem havings_literalTexts (fresh : query.IsFresh)
    (reads : Description.Reads settings entries description) :
    Clause.literalTexts (query.withDescription description).havings =
      (FilterEntry.ofDirective settings Directive.having (.object entries)).flatMap
        FilterEntry.literalTexts := by
  rw [Clause.literalTexts_leaves, leaves_havings fresh reads]
  exact FilterEntry.literalTexts_of_forall₂ (fun _ _ compares => compares.literalTexts_eq)
    reads.having_compares

theorem wheres_isQuoteFree (fresh : query.IsFresh) (surroundings : query.namesQuoteFree = true)
    (reads : Description.Reads settings entries description)
    (clear : Description.isQuoteFree settings (.object entries) = true) :
    Clause.isQuoteFree (query.withDescription description).wheres = true := by
  have filters := FilterEntry.isQuoteFree_of_forall₂
    (fun _ _ yields clear => yields.isQuoteFree clear fun _ named =>
      relationTarget_isQuoteFree surroundings named)
    (reads.filters_yield query.dialect query.relationTarget)
    fun entry member => Description.entry_isQuoteFree clear (List.mem_append_left _ member)
  have has : (description.has.map query.presence).all Condition.isQuoteFree = true := by
    rw [List.all_map, List.all_eq_true]
    intro name member
    have named := Description.names_quoteFree reads.has clear (by decide) name member
    have target := relationTarget_isQuoteFree surroundings named
    simp [presence, Condition.isQuoteFree, Clause.isQuoteFree, target]
  rw [Clause.isQuoteFree_leaves, leaves_wheres fresh, List.all_append, filters, has]
  rfl

theorem havings_isQuoteFree (fresh : query.IsFresh)
    (reads : Description.Reads settings entries description)
    (clear : Description.isQuoteFree settings (.object entries) = true) :
    Clause.isQuoteFree (query.withDescription description).havings = true := by
  rw [Clause.isQuoteFree_leaves, leaves_havings fresh reads]
  refine FilterEntry.isQuoteFree_of_forall₂ ?_ reads.having_compares ?_
  · intro entry condition compares clear
    have keyed : quoteFree entry.key = true := by
      simp only [FilterEntry.isQuoteFree, Bool.and_eq_true] at clear
      exact clear.1
    exact compares.isQuoteFree clear (Text.lower_quoteFree keyed)
  · exact fun entry member => Description.entry_isQuoteFree clear (List.mem_append_right _ member)

/-- A description with quotes in operands only leaves quotes in values only. -/
theorem withDescription_quoteFree (fresh : query.IsFresh)
    (surroundings : query.namesQuoteFree = true)
    (reads : Description.Reads settings entries description)
    (clear : Description.isQuoteFree settings (.object entries) = true) :
    (query.withDescription description).QuoteFree := by
  constructor
  case columns =>
    rw [withDescription, fresh.columns]
    exact reads.columns_quoteFree clear
  case table =>
    simp only [namesQuoteFree, Bool.and_eq_true] at surroundings
    exact surroundings.1
  case wheres => exact wheres_isQuoteFree fresh surroundings reads clear
  case havings => exact havings_isQuoteFree fresh reads clear
  case groups =>
    rw [withDescription, fresh.groups, List.nil_append]
    exact Description.names_quoteFree reads.groupBy clear (by decide)
  case orders =>
    rw [withDescription, fresh.orders, List.nil_append]
    exact reads.order_quoteFree clear

/-- Blanking the values of the query is blanking those of the description. -/
theorem withDescription_blanked_sql (fresh : query.IsFresh)
    (reads : Description.Reads settings entries description) :
    (query.withDescription description).blanked.sql =
      { query.withDescription description.blanked with
        havings := Connective.and.clauses
          (description.blanked.having.map (HavingTerm.statement query.dialect)) }.sql := by
  have presences : (description.has.map query.presence).map Condition.blanked =
      description.has.map query.presence := by
    rw [List.map_map]
    rfl
  have wheres : Clause.blanked (query.withDescription description).wheres =
      (query.withDescription description.blanked).wheres := by
    rw [withDescription_wheres fresh, withDescription_wheres fresh, Connective.blanked_clauses,
      List.map_append, presences, ← Filter.conditions_blanked]
    rfl
  have statements : (description.having.map (HavingTerm.statement query.dialect)).map
        Condition.blanked =
      description.blanked.having.map (HavingTerm.statement query.dialect) := by
    rw [Description.blanked, List.map_map, List.map_map]
    apply List.map_congr_left
    intro term member
    exact Predicate.condition_blanked query.dialect term.field term.predicate
  have havings : Clause.blanked (query.withDescription description).havings =
      Connective.and.clauses
        (description.blanked.having.map (HavingTerm.statement query.dialect)) := by
    rw [withDescription_havings fresh reads, Connective.blanked_clauses, statements]
  unfold sql blanked
  rw [wheres, havings]
  rfl

/-- The query takes the description, which names no scopes and has quotes in operands only. -/
structure Takes (query : Query) (settings : Settings) (payload : Json) : Prop where
  accepted : (query.apply settings payload).failure = none
  scopeless : (Description.read settings payload).map Description.scopes = .ok []
  quoteFree : Description.isQuoteFree settings payload = true

theorem Takes.reads {payload : Json} (takes : query.Takes settings payload) :
    ∃ entries description, payload = .object entries ∧
      Description.read settings payload = .ok description ∧
      Description.Reads settings entries description ∧
      (query.apply settings payload).query = query.withDescription description := by
  obtain ⟨description, read, applied⟩ := apply_reaches takes.accepted
  obtain ⟨entries, same, reads⟩ := Description.read_ok read
  have scopeless := takes.scopeless
  rw [read] at scopeless
  exact ⟨entries, description, same, read, reads, (applied (Except.ok.inj scopeless)).query_eq⟩

/-- What a scan of the text finds after a description. -/
theorem withDescription_marks (fresh : query.IsFresh) (surroundings : query.namesQuoteFree = true)
    (clear : Description.isQuoteFree settings (.object entries) = true)
    (reads : Description.Reads settings entries description) :
    Sql.Marks (query.withDescription description).sql
      ((FilterEntry.ofDescription settings (.object entries)).flatMap FilterEntry.literalTexts)
      (query.withDescription description).blanked.sql := by
  have marks := marks_sql (withDescription_quoteFree fresh surroundings reads clear)
  rw [wheres_literalTexts fresh reads, havings_literalTexts fresh reads,
    ← List.flatMap_append] at marks
  exact marks

/-- Whatever the operands of a description are, the text of the query closes every literal, and its
literals are the operands as they are written. What surrounds the literals is the same for all
descriptions of one frame. -/
theorem operands_stay_in_literals (query : Query) (settings : Settings) (payload : Json)
    (fresh : query.IsFresh) (surroundings : query.namesQuoteFree = true)
    (takes : query.Takes settings payload) :
    Sql.literalTexts? (query.apply settings payload).query.sql =
      some ((FilterEntry.ofDescription settings payload).flatMap FilterEntry.literalTexts) ∧
    ∀ other, query.Takes settings other → Description.frame other = Description.frame payload →
      Sql.blanked? (query.apply settings other).query.sql =
        Sql.blanked? (query.apply settings payload).query.sql := by
  obtain ⟨entries, description, rfl, read, reads, applied⟩ := takes.reads
  -- one scan tells both the literals and the text around them
  have marks := withDescription_marks fresh surroundings takes.quoteFree reads
  rw [applied]
  constructor
  · exact marks.literalTexts?_eq
  · intro other otherTakes alike
    obtain ⟨otherEntries, otherDescription, rfl, otherRead, otherReads, otherApplied⟩ :=
      otherTakes.reads
    have otherMarks := withDescription_marks fresh surroundings otherTakes.quoteFree otherReads
    have same := Description.blanked_eq_of_frame_eq otherRead read alike
    rw [otherApplied, marks.blanked?_eq, otherMarks.blanked?_eq,
      withDescription_blanked_sql fresh reads, withDescription_blanked_sql fresh otherReads, same]

def quotedOperands : Json := .object [
  ("where", .object [
    ("name", .string "o'brien"),
    ("posts.title", .object [("search", .string " it's  a")]),
    ("OR", .object [
      ("tag", .object [("in", .array [.string "'", .whole 3]), ("nn", .string "'")]),
      ("meta", .object [("eq", .object [("a'b", .string "c")])])])]),
  ("having", .object [("total", .object [("between", .array [.string "''", .null])])]),
  ("fields", .array [.string "name"]),
  ("order", .string "name desc")]

def otherOperands : Json := .object [
  ("where", .object [
    ("name", .string "x' OR '1' = '1"),
    ("posts.title", .object [("search", .string "")]),
    ("OR", .object [
      ("tag", .object [("in", .array [.string "a", .whole 3]), ("nn", .string "")]),
      ("meta", .object [("eq", .object [("a'b", .string "'")])])])]),
  ("having", .object [("total", .object [("between", .array [.string "b", .null])])]),
  ("fields", .array [.string "name"]),
  ("order", .string "name desc")]

theorem quoted_operands_stay_in_literals :
    let fresh := (plain "users").addRelation "posts" ⟨"articles", some "articles.user = users.id"⟩
    fresh.IsFresh ∧ fresh.namesQuoteFree = true ∧ fresh.Takes {} quotedOperands ∧
    fresh.Takes {} otherOperands ∧
    Description.frame otherOperands = Description.frame quotedOperands ∧
    Sql.literalTexts? (fresh.apply {} quotedOperands).query.sql =
      some ["o'brien", "%it's%a%", "'", "\x7b\"a'b\":\"c\"\x7d", "''"] ∧
    Sql.blanked? (fresh.apply {} otherOperands).query.sql =
      Sql.blanked? (fresh.apply {} quotedOperands).query.sql := by
  intro fresh
  have untouched : fresh.IsFresh := ⟨rfl, rfl, rfl, rfl, rfl, rfl, rfl⟩
  have surroundings : fresh.namesQuoteFree = true := by decide +kernel
  have accepted : (fresh.apply {} quotedOperands).failure.isNone = true := by decide +kernel
  have quoted : fresh.Takes {} quotedOperands := ⟨Option.isNone_iff_eq_none.mp accepted, rfl, rfl⟩
  have accepted : (fresh.apply {} otherOperands).failure.isNone = true := by decide +kernel
  have other : fresh.Takes {} otherOperands := ⟨Option.isNone_iff_eq_none.mp accepted, rfl, rfl⟩
  have frame : Description.frame otherOperands = Description.frame quotedOperands := rfl
  have safe := operands_stay_in_literals fresh {} quotedOperands untouched surroundings quoted
  exact ⟨untouched, surroundings, quoted, other, frame, safe.1, safe.2 otherOperands other frame⟩

end Query

end DeclarativeQuery
