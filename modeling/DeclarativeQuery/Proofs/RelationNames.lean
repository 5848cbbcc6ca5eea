import DeclarativeQuery.Proofs.Atomicity
import DeclarativeQuery.Proofs.FilterGrammar
import DeclarativeQuery.Proofs.LoadedRelations

/-!
The names of relations on their way to the definitions. A filter lowers the name that it cuts from a
key; everything else looks the name up as it stands. The two meet in one definition where the
lowered name is registered with it, as it is when the name has no capitals. Otherwise the filter
asks for a table that nothing ties to the record at hand.
-/

namespace DeclarativeQuery

/-- A key with a dot is not a group's, whatever the settings. -/
theorem Settings.groupKey?_of_dotted (settings : Settings) {key : String}
    (dotted : '.' ∈ key.toList) : settings.groupKey? key = none := by
  rw [settings.groupKey?_eq_none_iff]
  rintro ⟨⟨word, member, same⟩, _⟩
  have kept : '.' ∈ word.toList.map Char.toLower := by
    rw [← eq_of_beq same]
    exact List.mem_map.mpr ⟨'.', dotted, rfl⟩
  simp only [List.mem_cons, List.not_mem_nil, or_false] at member
  rcases member with rfl | rfl <;> revert kept <;> decide

namespace Filter

def onRelated (relation field : String) (value : Json) : Json :=
  .object [(relation ++ "." ++ field, value)]

theorem read_onRelated {settings : Settings} {directive relation field : String} {value : Json}
    {filters : List Filter} (dotless : '.' ∉ field.toList) (present : value ≠ .null)
    (accepted : read settings directive (onRelated relation field value) = .ok filters) :
    ∃ predicates, readPredicates directive field value = .ok predicates ∧
      filters = predicates.map (.related (Text.lower relation) field) := by
  obtain ⟨entries, below, same, _, level⟩ := readLevel_ok accepted
  cases same
  obtain ⟨first, others, entry, nothing, whole⟩ := readEntries_cons_ok level
  cases nothing
  have path : relationPath? (relation ++ "." ++ field) = some (relation, field) :=
    relationPath?_eq_some_iff.mpr ⟨rfl, dotless⟩
  -- of what an entry can be, the dot leaves nothing but a field of a related record
  rcases readEntry_ok entry with ⟨null, _⟩ | ⟨_, _, group, _⟩ | ⟨_, _, read⟩
  · exact absurd null present
  · rw [settings.groupKey?_of_dotted (by simp)] at group
    cases group
  · rcases readField_ok read with ⟨pathless, _⟩ | ⟨_, _, cut, _, _, predicates, read, same⟩
    · rw [path] at pathless
      cases pathless
    · rw [path] at cut
      cases cut
      exact ⟨predicates, read, by rw [whole, same, List.append_nil]⟩

end Filter

namespace Query

open Outcome

variable {query : Query} {relation : String} {definition : Relation}

theorem relationTarget_eq_iff :
    query.relationTarget relation = definition ↔
      query.relations.lookup relation = some definition ∨
        query.relations.lookup relation = none ∧ definition = { table := relation } := by
  unfold relationTarget
  cases query.relations.lookup relation with
  | none => simp [eq_comm]
  | some known => simp

/-- Related records may be asked for with any steps: those that fail are skipped. -/
theorem whereHas_reaches (invoke : Invoker) (query : Query) (relation : String)
    (steps : List Step) :
    (query.step invoke (.whereHas relation steps)).Reaches
      (query.addRelated relation
        (stepAll invoke .persist (query.subquery (query.relationTarget relation).table)
          steps).query.wheres .and) := by
  have inner : (stepAll invoke .persist
      (query.subquery (query.relationTarget relation).table) steps).Reaches _ :=
    ⟨rfl, stepAll_persist_failure invoke _ steps⟩
  exact inner.inside query fun inner => query.addRelated relation inner.wheres .and

theorem has_reaches (query : Query) (settings : Settings) (relation : String) :
    (query.apply settings (.object [(Directive.has, .string relation)])).Reaches
      (query.addWhere (query.presence relation) .and) := by
  have planned : Request.planDescription query.capabilities settings
      (.object [(Directive.has, .string relation)]) =
        .ok (Description.calls { has := [relation] }) := rfl
  rw [apply_of_planned planned]
  have reached : (performAll (invoker scopeDepth) query
      (Description.calls { has := [relation] })).Reaches _ :=
    description_calls_reaches rfl (by simp)
  refine reached.to ?_
  simp [withDescription, addWhere, addLoads, Filter.conditions, Connective.clauses, boundedPaging]

/-- A filter on a field of related records asks for the relation once for every predicate, and under
the lowered name. This is the definition that the name was registered with if and only if the
lowered name is registered with it too, or with nothing and the definition is the default one. To
ask for related records, with or without steps, and to take up the query over them is to use the
definition under the name as it stands. -/
theorem filter_asks_for_lowered_relation (invoke : Invoker) (query : Query) (settings : Settings)
    {relation field : String} {definition : Relation} {value : Json} {filters : List Filter}
    (registered : query.relations.lookup relation = some definition)
    (dotless : '.' ∉ field.toList) (present : value ≠ .null)
    (accepted : Filter.read settings Directive.filter (Filter.onRelated relation field value) =
      .ok filters) :
    let lowered := Text.lower relation
    let target := query.relationTarget lowered
    (∃ predicates, Filter.readPredicates Directive.filter field value = .ok predicates ∧
      ∀ connective,
        (query.ask invoke (.filter settings (Filter.onRelated relation field value)
          connective)).Reaches
        (query.addWheres (connective.clauses (predicates.map fun predicate =>
          .related lowered target
            (Connective.and.clauses [predicate.condition query.dialect field]))))) ∧
    (target = definition ↔ query.relations.lookup lowered = some definition ∨
      query.relations.lookup lowered = none ∧ definition = { table := lowered }) ∧
    (query.apply settings (.object [(Directive.has, .string relation)])).Reaches
      (query.addWhere (.related relation definition []) .and) ∧
    (∀ steps, (query.step invoke (.whereHas relation steps)).Reaches
      (query.addWhere (.related relation definition
        (stepAll invoke .persist (query.subquery definition.table) steps).query.wheres) .and)) ∧
    (∀ load, query.loads.find? (fun load => load.relation == relation) = some load →
      ∃ loaded, query.relationQuery relation = .ok (some loaded) ∧
        loaded.table = definition.table) := by
  intro lowered target
  have stands : query.relationTarget relation = definition :=
    relationTarget_eq_iff.mpr (.inl registered)
  obtain ⟨predicates, read, same⟩ := Filter.read_onRelated dotless present accepted
  refine ⟨⟨predicates, read, ?_⟩, relationTarget_eq_iff, ?_, ?_, ?_⟩
  · intro connective
    have reached := ask_filter_reaches invoke query settings _ filters connective accepted
    rw [same, filterConditions, Filter.conditions_map_related] at reached
    exact reached
  · rw [← stands]
    exact has_reaches query settings relation
  · intro steps
    rw [← stands]
    exact whereHas_reaches invoke query relation steps
  · intro load loaded
    rw [← stands]
    exact ⟨_, relationQuery_of_loaded loaded, rfl⟩

def readers : Query := { entity "readers" with
  dialect := .postgres
  loads := [{ relation := "author.books" }]
  relations := [("author.books", ⟨"books", some "books.author_id = readers.author_id"⟩)] }

def titled : Json := .object [("like", .string "A%"), ("search", .string "war")]

theorem readers_share_one_definition :
    let definition : Relation := ⟨"books", some "books.author_id = readers.author_id"⟩
    let filter := Filter.onRelated "author.books" "Title" titled
    let filtered := readers.ask withoutScopes (.filter {} filter .or)
    readers.relations.lookup "author.books" = some definition ∧ '.' ∉ "Title".toList ∧
    titled ≠ .null ∧ (∃ filters, Filter.read {} Directive.filter filter = .ok filters) ∧
    readers.relationTarget (Text.lower "author.books") = definition ∧
    filtered.failure = none ∧ Clause.listSql filtered.query.wheres =
      "EXISTS (SELECT 1 FROM books WHERE books.author_id = readers.author_id AND " ++
      "Title like 'A%') OR EXISTS (SELECT 1 FROM books WHERE " ++
      "books.author_id = readers.author_id AND Title ilike '%war%')" ∧
    (∃ loaded, readers.relationQuery "author.books" = .ok (some loaded) ∧
      loaded.table = "books") := by
  intro definition filter filtered
  have registered : readers.relations.lookup "author.books" = some definition := rfl
  have dotless : '.' ∉ "Title".toList := by decide
  have present : titled ≠ .null := Json.noConfusion
  have accepted : Filter.read {} Directive.filter filter = .ok _ := rfl
  obtain ⟨⟨_, _, reached⟩, known, _, _, loaded⟩ :=
    filter_asks_for_lowered_relation withoutScopes readers {} registered dotless present accepted
  have lowered : readers.relations.lookup (Text.lower "author.books") = some definition := by
    decide +kernel
  exact ⟨registered, dotless, present, ⟨_, accepted⟩, known.mpr (.inl lowered),
    (reached .or).unfailing, by decide +kernel, loaded _ rfl⟩

def members : Query := { entity "users" with
  relations := [("Roles", ⟨"roles", some "roles.user_id = users.id"⟩)] }

/-- What the filter asks for is not tied to the record at hand, though the relation is registered
with a tie, and to ask for the relation itself is to use it. -/
theorem capital_relation_loses_its_tie :
    let definition : Relation := ⟨"roles", some "roles.user_id = users.id"⟩
    let filter := Filter.onRelated "Roles" "name" (.string "admin")
    let filtered := members.apply {} (.object [(Directive.filter, filter)])
    let present := members.apply {} (.object [(Directive.has, .string "Roles")])
    members.relations.lookup "Roles" = some definition ∧ filtered.failure = none ∧
    filtered.query.wheres = [⟨.related "roles" { table := "roles" }
      [⟨.compare "name" "=" (.string "admin"), .and⟩], .and⟩] ∧
    present.query.wheres = [⟨.related "Roles" definition [], .and⟩] ∧
    ({ table := "roles" } : Relation) ≠ definition ∧
    filtered.query.sql =
      "SELECT * FROM users WHERE EXISTS (SELECT 1 FROM roles WHERE name = 'admin')" ∧
    present.query.sql = "SELECT * FROM users WHERE " ++
      "EXISTS (SELECT 1 FROM roles WHERE roles.user_id = users.id)" := by
  intro definition filter filtered present
  have read : Description.read {} (.object [(Directive.filter, filter)]) =
      .ok { filters := [.related "roles" "name" (.compare "=" (.string "admin"))] } := rfl
  have reached : filtered.Reaches _ := apply_of_read read rfl rfl
  refine ⟨rfl, reached.unfailing, ?_, rfl, by decide, ?_, by decide +kernel⟩ <;>
    rw [reached.query_eq]
  · rfl
  · decide +kernel

end Query

end DeclarativeQuery
