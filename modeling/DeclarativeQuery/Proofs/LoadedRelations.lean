import DeclarativeQuery.Proofs.AppliedDescription
import DeclarativeQuery.Proofs.DescriptionReading
import DeclarativeQuery.Proofs.FilterDepth
import DeclarativeQuery.Proofs.MergedLoads
import DeclarativeQuery.Proofs.QueryEdits

/-!
The queries over the records of loaded relations. A relation's configuration is read and carried out
apart from descriptions: it has readers, reports and calls of its own. It says what a description
with the same entries says, and the query over the relation's records is the one that this
description makes of a query over the relation's table.
-/

namespace DeclarativeQuery

/-! Configurations as descriptions. -/

def RelationConfig.description (config : RelationConfig) : Description where
  filters := config.filters
  fields := config.columns
  order := config.order

def EagerLoad.configuration (load : EagerLoad) : RelationConfig := load.config.getD {}

theorem Payload.readNames_under {directive : String} {payload : Json} {names : List String}
    (accepted : readNames directive payload = .ok names) (other : String) :
    readNames other payload = .ok names := by
  cases payload with
  | array items =>
      refine mapM_ok_imp ?_ accepted
      intro item name read
      cases item <;> first | exact read | cases read
  | string name => exact accepted
  | _ => cases accepted

theorem Payload.reading_eq_ok_iff {α : Type} {default result : α} {payload : Option Json}
    {read other : Json → Except Error α}
    (same : ∀ value result, read value = .ok result ↔ other value = .ok result) :
    reading default payload read = .ok result ↔ reading default payload other = .ok result := by
  cases payload with
  | none => rfl
  | some value => exact same value result

namespace RelationConfig

/-- The keys of a configuration, and nothing under them that would not count. -/
def Filled (entries : List (String × Json)) : Prop :=
  ∀ key value, (key, value) ∈ entries → key ∈ ["where", "fields", "order"] ∧
    ∀ blank ∈ [Json.null, .bool false, .string "", .array [], .object []], value ≠ blank

variable {settings : Settings} {entries : List (String × Json)} {config : RelationConfig}

theorem Filled.isVoid_eq_false (filled : Filled entries) {key : String} {value : Json}
    (found : entries.lookup key = some value) :
    Payload.isVoid value = false ∧ value.isNull = false := by
  obtain ⟨before, after, listed, _⟩ := List.lookup_eq_some_iff.mp found
  have solid := (filled key value (by simp [listed])).2
  simp only [List.forall_mem_cons, List.not_mem_nil, false_imp_iff, implies_true, and_true] at solid
  obtain ⟨notNull, notFalse, notEmpty, notNil, notBare⟩ := solid
  cases value with
  | null => contradiction
  | bool value => cases value <;> simp_all [Payload.isVoid, Json.isNull]
  | string text => simp_all [Payload.isVoid, Json.isNull]
  | array items => simp_all [Payload.isVoid, Json.isNull]
  | object inside => simp_all [Payload.isVoid, Json.isNull]
  | number value => simp [Payload.isVoid, Json.isNull]

/-- There the two ways to tell whether an entry counts agree. -/
theorem Filled.filled?_eq_present? (filled : Filled entries) (key : String) :
    Payload.filled? key entries = Json.present? key entries := by
  unfold Payload.filled? Json.present?
  cases found : entries.lookup key with
  | none => rfl
  | some value =>
      obtain ⟨solid, present⟩ := filled.isVoid_eq_false found
      simp [Option.filter, solid, present]

theorem Filled.present?_eq_none (filled : Filled entries) {key : String}
    (foreign : key ∉ ["where", "fields", "order"]) : Json.present? key entries = none := by
  unfold Json.present?
  cases found : entries.lookup key with
  | none => rfl
  | some value =>
      obtain ⟨before, after, listed, _⟩ := List.lookup_eq_some_iff.mp found
      exact absurd (filled key value (by simp [listed])).1 foreign

theorem ofEntries_eq_ok_iff :
    ofEntries settings entries = .ok config ↔
      Payload.reading [] (Payload.filled? "where" entries)
          (Filter.read settings Inclusion.directive) = .ok config.filters ∧
        Payload.reading none (Payload.filled? "fields" entries) (fun payload =>
          (Payload.readNames Inclusion.directive payload).map some) = .ok config.columns ∧
        Payload.reading [] (Payload.filled? "order" entries) OrderTerm.readList =
          .ok config.order := by
  unfold ofEntries
  simp only [bind_eq_ok_iff]
  constructor
  · rintro ⟨filters, filtered, columns, selected, order, ordered, same⟩
    rw [← Except.ok.inj same]
    exact ⟨filtered, selected, ordered⟩
  · rintro ⟨filtered, selected, ordered⟩
    exact ⟨_, filtered, _, selected, _, ordered, rfl⟩

/-- A directive that a configuration knows is read as the configuration reads it, if the two readers
accept the same. -/
theorem Filled.directive_iff (filled : Filled entries) {α : Type} {key : String}
    {default result : α} {read : String → Json → Except Error α} {own : Json → Except Error α}
    (same : ∀ value result, read key value = .ok result ↔ own value = .ok result) :
    Description.directive entries [key] default read = .ok result ↔
      Payload.reading default (Payload.filled? key entries) own = .ok result := by
  rw [Description.directive_single, filled.filled?_eq_present?]
  exact Payload.reading_eq_ok_iff same

theorem Filled.filters_iff (filled : Filled entries) (filters : List Filter) :
    Description.directive entries [Directive.filter] [] (Filter.read settings) = .ok filters ↔
      Payload.reading [] (Payload.filled? "where" entries)
        (Filter.read settings Inclusion.directive) = .ok filters :=
  filled.directive_iff fun _ _ =>
    ⟨fun read => Filter.read_under read _, fun read => Filter.read_under read _⟩

theorem Filled.columns_iff (filled : Filled entries) (columns : Option (List String)) :
    Description.directive entries [Directive.fields] none (fun key payload =>
        (Payload.readNames key payload).map some) = .ok columns ↔
      Payload.reading none (Payload.filled? "fields" entries) (fun payload =>
        (Payload.readNames Inclusion.directive payload).map some) = .ok columns := by
  refine filled.directive_iff ?_
  intro value result
  simp only [map_eq_ok_iff]
  constructor
  · rintro ⟨names, read, same⟩
    exact ⟨names, Payload.readNames_under read _, same⟩
  · rintro ⟨names, read, same⟩
    exact ⟨names, Payload.readNames_under read _, same⟩

theorem Filled.order_iff (filled : Filled entries) (order : List OrderTerm) :
    Description.directive entries [Directive.order] [] (fun _ payload =>
        OrderTerm.readList payload) = .ok order ↔
      Payload.reading [] (Payload.filled? "order" entries) OrderTerm.readList = .ok order :=
  filled.directive_iff fun _ _ => Iff.rfl

/-- Any other directive is absent. -/
theorem Filled.directive_foreign (filled : Filled entries) {α : Type} {keys : List String}
    (foreign : ∀ key ∈ keys, key ∉ ["where", "fields", "order"]) (default : α)
    (read : String → Json → Except Error α) :
    Description.directive entries keys default read = .ok default :=
  Description.directive_absent (fun key member => filled.present?_eq_none (foreign key member)) _ _

theorem Filled.description_eq (filled : Filled entries) {description : Description}
    (reads : Description.Reads settings entries description) :
    description =
      (RelationConfig.mk description.filters description.fields description.order).description := by
  have silent {α : Type} {keys : List String} {default result : α}
      {read : String → Json → Except Error α}
      (accepted : Description.directive entries keys default read = .ok result)
      (foreign : ∀ key ∈ keys, key ∉ ["where", "fields", "order"]) : default = result := by
    rw [filled.directive_foreign foreign] at accepted
    exact Except.ok.inj accepted
  rcases description with ⟨_, filters, _, _, fields, order, _, _, _, _⟩
  cases silent reads.inclusion (by decide)
  cases silent reads.has (by decide)
  cases silent reads.scopes (by decide)
  cases silent reads.limit (by decide)
  cases silent reads.offset (by decide)
  cases silent reads.groupBy (by decide)
  cases silent reads.having (by decide)
  rfl

/-- Where no entry is void a configuration is read if and only if its entries are read as a
description, and the two say the same. -/
theorem description_read_iff (filled : Filled entries) {description : Description} :
    Description.read settings (.object entries) = .ok description ↔
      ∃ config, ofEntries settings entries = .ok config ∧ description = config.description := by
  rw [Description.read, Description.ofEntries_eq_ok_iff]
  constructor
  · intro reads
    refine ⟨⟨description.filters, description.fields, description.order⟩, ?_,
      filled.description_eq reads⟩
    exact ofEntries_eq_ok_iff.mpr ⟨(filled.filters_iff _).mp reads.filters,
      (filled.columns_iff _).mp reads.fields, (filled.order_iff _).mp reads.order⟩
  · rintro ⟨config, read, same⟩
    obtain ⟨filtered, selected, ordered⟩ := ofEntries_eq_ok_iff.mp read
    subst same
    constructor
    case filters => exact (filled.filters_iff _).mpr filtered
    case fields => exact (filled.columns_iff _).mpr selected
    case order => exact (filled.order_iff _).mpr ordered
    all_goals exact filled.directive_foreign (by decide) _ _

end RelationConfig

namespace Inclusion

variable {settings : Settings} {relation : String} {entries : List (String × Json)}

/-- A mapping under a relation is a load with the configuration that the mapping is read as. Where
no entry says anything the load is plain, which comes to the same. -/
theorem readRelation_object (settings : Settings) (relation : String)
    (entries : List (String × Json)) :
    (∃ load, readRelation settings relation (.object entries) = .ok (some load) ∧
      load.relation = relation ∧
      RelationConfig.ofEntries settings entries = .ok load.configuration) ∨
    ∃ error, readRelation settings relation (.object entries) = .error error ∧
      RelationConfig.ofEntries settings entries = .error error := by
  rw [readRelation]
  split
  · cases read : RelationConfig.ofEntries settings entries with
    | error error => exact .inr ⟨error, rfl, rfl⟩
    | ok config => exact .inl ⟨⟨relation, some config⟩, rfl, rfl, rfl⟩
  next unsaid =>
    have void : ∀ key ∈ RelationConfig.keys, Payload.filled? key entries = none := by
      simpa using unsaid
    simp only [RelationConfig.keys, List.forall_mem_cons] at void
    refine .inl ⟨{ relation }, rfl, rfl, ?_⟩
    rw [RelationConfig.ofEntries_eq_ok_iff, void.1, void.2.1, void.2.2.1]
    exact ⟨rfl, rfl, rfl⟩

def loading (relation : String) (config : Json) : Json :=
  .object [(Directive.inclusion, .object [(relation, config)])]

theorem read_loading_iff {config : Json} {description : Description} :
    Description.read settings (loading relation config) = .ok description ↔
      ∃ load, readRelation settings relation config = .ok load ∧
        description = { inclusion := some load.toList } := by
  rw [loading, Description.read_inclusion_only Json.noConfusion, map_eq_ok_iff]
  constructor
  · rintro ⟨loads, listed, same⟩
    obtain ⟨load, read, listed⟩ := bind_eq_ok_iff.mp listed
    cases listed
    exact ⟨load, read, by rw [← same, List.append_nil]⟩
  · rintro ⟨load, read, same⟩
    refine ⟨load.toList, ?_, same.symm⟩
    simp only [Inclusion.read, readRelations, read, List.append_nil, bind, Except.bind, pure,
      Except.pure]

end Inclusion

namespace Query

open Outcome

variable {invoke : Invoker} {query : Query}

/-- The calls of a configuration do what the description does. -/
theorem config_calls_reaches (config : RelationConfig) :
    (performAll invoke query config.calls).Reaches
      (query.withDescription config.description) := by
  have columns (query : Query) :
      (performAll invoke query (config.columns.toList.map .columns)).Reaches
        { query with columns := config.columns.getD query.columns } := by
    cases config.columns with
    | none => exact performAll_nil_reaches
    | some names => exact performAll_cons_reaches (done_reaches _) performAll_nil_reaches
  have reached : (performAll invoke query config.calls).Reaches _ :=
    performAll_append_reaches (filter_listCalls_reaches query .and config.filters)
      (performAll_append_reaches (columns _) (orderCalls_reaches config.order))
  refine reached.to ?_
  simp [withDescription, RelationConfig.description, addWheres, addLoads, Connective.clauses,
    boundedPaging]

/-- The query over the records of a loaded relation is always there. -/
theorem relationQuery_of_loaded {relation : String} {load : EagerLoad}
    (loaded : query.loads.find? (fun load => load.relation == relation) = some load) :
    query.relationQuery relation =
      .ok (some ((query.relatedStart relation).withDescription load.configuration.description)) := by
  have materialized : ∃ outcome, query.materialize relation = some outcome ∧ outcome.Reaches
      ((query.relatedStart relation).withDescription load.configuration.description) := by
    unfold materialize EagerLoad.configuration
    rw [loaded, Option.map_some]
    cases load.config with
    | none =>
        have nothing : Description.isEmpty (RelationConfig.description {}) = true := rfl
        exact ⟨_, rfl, (done_reaches _).to (withDescription_isEmpty nothing).symm⟩
    | some config => exact ⟨_, rfl, config_calls_reaches config⟩
  obtain ⟨outcome, built, reached⟩ := materialized
  simp only [relationQuery, built, reached.unfailing, reached.query_eq]

/-- A description that loads a relation with a mapping takes effect where the mapping is read. -/
theorem loading_reaches {settings : Settings} {relation : String}
    {entries : List (String × Json)} {config : RelationConfig}
    (aware : query.relationAware = true)
    (read : RelationConfig.ofEntries settings entries = .ok config) :
    ∃ load : EagerLoad, load.relation = relation ∧ load.configuration = config ∧
      (query.apply settings (Inclusion.loading relation (.object entries))).Reaches
        (query.withDescription { inclusion := some [load] }) := by
  rcases Inclusion.readRelation_object settings relation entries with
    ⟨load, entry, named, same⟩ | ⟨error, _, refused⟩
  · have described := Inclusion.read_loading_iff.mpr ⟨some load, entry, rfl⟩
    rw [read] at same
    exact ⟨load, named, (Except.ok.inj same).symm, apply_of_read described rfl aware⟩
  · rw [read] at refused
    contradiction

theorem loading_accepted {settings : Settings} {relation : String}
    {entries : List (String × Json)}
    (accepted :
      (query.apply settings (Inclusion.loading relation (.object entries))).failure = none) :
    ∃ config, RelationConfig.ofEntries settings entries = .ok config := by
  obtain ⟨description, described, _⟩ := apply_reaches accepted
  obtain ⟨_, entry, _⟩ := Inclusion.read_loading_iff.mp described
  rcases Inclusion.readRelation_object settings relation entries with
    ⟨load, _, _, read⟩ | ⟨error, refused, _⟩
  · exact ⟨_, read⟩
  · rw [entry] at refused
    contradiction

/-- Loading a relation with a mapping succeeds if and only if the mapping is read as a description,
provided its entries are those of a configuration and none of them is void. The query over the
relation's records is then the one that this description makes of a query over the relation's table,
or over the table of the relation's name if the relation is unknown. -/
theorem loaded_relation_is_its_description (query : Query) (settings : Settings)
    (relation : String) (entries : List (String × Json)) (aware : query.relationAware = true)
    (filled : RelationConfig.Filled entries) :
    let table := ((query.relations.lookup relation).map Relation.table).getD relation
    let start := { entity table with dialect := query.dialect, relations := query.relations }
    let loaded := query.apply settings (Inclusion.loading relation (.object entries))
    let direct := start.apply settings (.object entries)
    (loaded.failure = none ↔
      ∃ description, Description.read settings (.object entries) = .ok description) ∧
    (loaded.failure = none → direct.failure = none ∧
      loaded.query.relationQuery relation = .ok (some direct.query)) := by
  intro table start loaded direct
  have begins : start = query.relatedStart relation := by
    simp only [start, table, relatedStart, relationTarget]
    cases query.relations.lookup relation <;> rfl
  refine ⟨⟨?_, ?_⟩, ?_⟩
  · intro accepted
    obtain ⟨config, read⟩ := loading_accepted accepted
    exact ⟨_, (RelationConfig.description_read_iff filled).mpr ⟨config, read, rfl⟩⟩
  · rintro ⟨description, described⟩
    obtain ⟨config, read, _⟩ := (RelationConfig.description_read_iff filled).mp described
    obtain ⟨load, _, _, reached⟩ := loading_reaches aware read
    exact reached.unfailing
  · intro accepted
    obtain ⟨config, read⟩ := loading_accepted accepted
    obtain ⟨load, named, configured, reached⟩ := loading_reaches aware read
    have alike : direct.Reaches (start.withDescription config.description) :=
      apply_of_read ((RelationConfig.description_read_iff filled).mpr ⟨config, read, rfl⟩) rfl rfl
    have found : loaded.query.loads.find? (fun load => load.relation == relation) = some load := by
      rw [reached.query_eq]
      exact (find?_putLoad load relation query.loads).trans (if_pos named.symm)
    -- the load leaves the relations and the dialect alone, so the query begins where it did before
    have start_kept : loaded.query.relatedStart relation = start := by
      rw [begins, reached.query_eq]
      rfl
    refine ⟨alike.unfailing, ?_⟩
    rw [relationQuery_of_loaded found, start_kept, configured, alike.query_eq]

def writers : Query := { entity "users" with
  dialect := .mysql
  loads := [{ relation := "Posts" }, { relation := "roles" }]
  relations := [
    ("Posts", ⟨"posts", some "posts.user_id = users.id"⟩),
    ("author", ⟨"people", some "people.id = posts.author_id"⟩)] }

def postEntries : List (String × Json) := [
  ("order", .string "title desc"),
  ("where", .object [("or", .object [
    ("Title", .object [("search", .string " a b ")]), ("author.Name", .string "ada")])]),
  ("fields", .array [.string "id"])]

theorem posts_are_their_description :
    let loaded := writers.apply {} (Inclusion.loading "Posts" (.object postEntries))
    writers.relationAware = true ∧ RelationConfig.Filled postEntries ∧ loaded.failure = none ∧
    ∃ posts, loaded.query.relationQuery "Posts" = .ok (some posts) ∧ posts.sql =
      "SELECT id FROM posts WHERE (title COLLATE utf8_general_ci LIKE '%a%b%' OR " ++
      "EXISTS (SELECT 1 FROM people WHERE people.id = posts.author_id AND Name = 'ada')) " ++
      "ORDER BY title DESC" := by
  intro loaded
  have filled : RelationConfig.Filled postEntries := by
    intro key value member
    simp only [postEntries, List.mem_cons, Prod.mk.injEq, List.not_mem_nil, or_false] at member
    rcases member with ⟨rfl, rfl⟩ | ⟨rfl, rfl⟩ | ⟨rfl, rfl⟩ <;> simp
  have accepted : loaded.failure = none := Option.isNone_iff_eq_none.mp (by decide +kernel)
  have law := loaded_relation_is_its_description writers {} "Posts" postEntries rfl filled
  exact ⟨rfl, filled, accepted, _, (law.2 accepted).2, by decide +kernel⟩

end Query

end DeclarativeQuery
