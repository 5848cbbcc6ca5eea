import DeclarativeQuery.Proofs.AppliedDescription
import DeclarativeQuery.Proofs.DescriptionReading
import DeclarativeQuery.Proofs.MergedLoads

/-!
A description has one effect, whatever the query holds that it is applied to. Applied to a query
that holds nothing and knows the same relations it says what it adds; any other query gains just
that, and fails where the one that holds nothing does.
-/

namespace DeclarativeQuery

def Json.Gives (payload : Json) (key : String) : Prop :=
  ∃ value, payload.field? key = some value ∧ value ≠ .null

theorem Json.gives_iff_present {key : String} {entries : List (String × Json)} :
    (Json.object entries).Gives key ↔ (Json.present? key entries).isSome = true := by
  simp only [Gives, field?, present?, Option.isSome_filter]
  cases entries.lookup key with
  | none => simp
  | some value => cases value <;> simp [isNull]

theorem Description.Reads.fields_isSome {settings : Settings} {entries : List (String × Json)}
    {description : Description} (reads : Reads settings entries description) :
    description.fields.isSome = true ↔ (Json.object entries).Gives Directive.fields := by
  have fields := reads.fields
  rw [directive_single] at fields
  rw [Json.gives_iff_present]
  cases present : Json.present? Directive.fields entries with
  | none =>
      rw [present] at fields
      simp [← Except.ok.inj fields]
  | some payload =>
      rw [present] at fields
      obtain ⟨names, _, same⟩ := map_eq_ok_iff.mp fields
      simp [← same]

namespace Query

def renewed (query : Query) : Query := query.subquery query.table

def limit? (query : Query) : Option Int := query.paging.bind Paging.limit

def offset? (query : Query) : Option Int := query.paging.bind Paging.offset

/-- The query after is the query before with what the gain holds. Clauses and names are appended, a
bound that the gain has replaces the old one, loads are merged; `selects` tells whether the columns
are those of the gain. -/
structure Gains (before gain after : Query) (selects : Prop) : Prop where
  wheres : after.wheres = before.wheres ++ gain.wheres
  groups : after.groups = before.groups ++ gain.groups
  havings : after.havings = before.havings ++ gain.havings
  orders : after.orders = before.orders ++ gain.orders
  selected : selects → after.columns = gain.columns
  unselected : ¬ selects → after.columns = before.columns
  limit : after.limit? = gain.limit?.or before.limit?
  offset : after.offset? = gain.offset?.or before.offset?
  loads : after.loads = mergedLoads before.loads gain.loads
  table : after.table = before.table
  dialect : after.dialect = before.dialect
  relationAware : after.relationAware = before.relationAware
  relations : after.relations = before.relations
  scopes : after.scopes = before.scopes

theorem boundedPaging_limit (paging : Option Paging) (limit offset : Option Int) :
    (boundedPaging paging limit offset).bind Paging.limit =
      limit.or (paging.bind Paging.limit) := by
  cases limit <;> cases offset <;> cases paging <;> rfl

theorem boundedPaging_offset (paging : Option Paging) (limit offset : Option Int) :
    (boundedPaging paging limit offset).bind Paging.offset =
      offset.or (paging.bind Paging.offset) := by
  cases limit <;> cases offset <;> cases paging <;> rfl

/-- Only the columns replace what was there, so only for them it matters whether any are named. -/
theorem withDescription_gains (query : Query) (description : Description) :
    Gains query (query.renewed.withDescription description) (query.withDescription description)
      (description.fields.isSome = true) where
  wheres := List.append_assoc _ _ _
  groups := rfl
  havings := rfl
  orders := rfl
  selected given := by
    obtain ⟨names, named⟩ := Option.isSome_iff_exists.mp given
    simp [withDescription, named]
  unselected omitted := by
    have none : description.fields = none := by simpa using omitted
    simp [withDescription, none]
  limit := by
    simp [limit?, withDescription, boundedPaging_limit, renewed, subquery]
  offset := by
    simp [offset?, withDescription, boundedPaging_offset, renewed, subquery]
  loads := addLoads_eq_mergedLoads query query.renewed rfl (description.inclusion.getD [])
  table := rfl
  dialect := rfl
  relationAware := rfl
  relations := rfl
  scopes := rfl

/-- Scopes are all that a description asks of a query, apart from whether it knows relations. -/
theorem planDescription_congr {target other : Capabilities} {settings : Settings} {payload : Json}
    (inclusion : target.inclusion = other.inclusion)
    (scopeless : ∀ description, Description.read settings payload = .ok description →
      description.scopes = []) :
    Request.planDescription target settings payload =
      Request.planDescription other settings payload := by
  unfold Request.planDescription
  rw [inclusion]
  cases read : Description.read settings payload with
  | error error => rfl
  | ok description =>
      simp only [Description.plan, inclusion, scopeless description read, List.find?_nil]

/-- A description without scopes succeeds on a query if and only if it succeeds on one that holds
nothing, and otherwise fails there with the same error. What it does to the query is to add what it
makes of the other one. -/
theorem description_adds_what_it_makes (query : Query) (settings : Settings) (payload : Json)
    (scopeless : ∀ description, Description.read settings payload = .ok description →
      description.scopes = []) :
    let gain := query.renewed.apply settings payload
    let after := query.apply settings payload
    after.failure = gain.failure ∧
    (gain.failure = none →
      Gains query gain.query after.query (payload.Gives Directive.fields)) := by
  intro gain after
  have same : Request.planDescription query.capabilities settings payload =
      Request.planDescription query.renewed.capabilities settings payload :=
    planDescription_congr rfl scopeless
  cases planned : Request.planDescription query.capabilities settings payload with
  | error rejection =>
      have refused : after.failure = some rejection.error := by
        simp only [after, apply_of_refused planned]
      have alike : gain.failure = some rejection.error := by
        simp only [gain, apply_of_refused (same ▸ planned)]
      refine ⟨by rw [refused, alike], ?_⟩
      intro accepted
      rw [alike] at accepted
      contradiction
  | ok calls =>
      obtain ⟨description, read, made, aware⟩ := planDescription_ok planned
      have reached : after.Reaches (query.withDescription description) := by
        simp only [after, apply_of_planned planned, made]
        exact description_calls_reaches (scopeless description read) aware
      have alike : gain.Reaches (query.renewed.withDescription description) := by
        simp only [gain, apply_of_planned (same ▸ planned), made]
        exact description_calls_reaches (scopeless description read) aware
      refine ⟨by rw [reached.unfailing, alike.unfailing], ?_⟩
      intro _
      obtain ⟨entries, object, reads⟩ := Description.read_ok read
      rw [reached.query_eq, alike.query_eq, object, ← propext reads.fields_isSome]
      exact withDescription_gains query description

def furnished : Query := { entity "users" with
  columns := ["id"]
  wheres := [⟨.compare "a" "=" (.whole 1), .and⟩, ⟨.compare "b" "=" (.whole 2), .or⟩]
  orders := [⟨"age", .desc⟩]
  paging := some { limit := some 5, offset := some 2 }
  loads := [{ relation := "posts" }, { relation := "roles" }] }

def furtherRequest : Json := .object [
  ("limit", .whole 3),
  ("order", .string "name"),
  ("where", .object [("or", .object [("Name", .string "ada"), ("age", .whole 3)])]),
  ("include", .object [("tags", .bool true), ("roles", .object [("fields", .string "id")])])]

theorem furnished_query_gains_request :
    let after := furnished.apply {} furtherRequest
    (∀ description, Description.read {} furtherRequest = .ok description →
      description.scopes = []) ∧
    (furnished.renewed.apply {} furtherRequest).failure = none ∧ after.failure = none ∧
    Clause.listSql after.query.wheres = "a = 1 OR b = 2 AND (name = 'ada' OR age = 3)" ∧
    after.query.columns = ["id"] ∧
    after.query.orders = [⟨"age", .desc⟩, ⟨"name", .asc⟩] ∧
    after.query.limit? = some 3 ∧ after.query.offset? = some 2 ∧
    after.query.loads.map (fun load => (load.relation, load.isPlain)) =
      [("posts", true), ("roles", false), ("tags", true)] := by
  intro after
  have scopeless : ∀ description, Description.read {} furtherRequest = .ok description →
      description.scopes = [] := by
    intro description read
    cases read
    rfl
  have law := description_adds_what_it_makes furnished {} furtherRequest scopeless
  have accepted : (furnished.renewed.apply {} furtherRequest).failure = none := rfl
  have gains := law.2 accepted
  have columnless : ¬ furtherRequest.Gives Directive.fields := by
    rintro ⟨value, given, _⟩
    cases given
  refine ⟨scopeless, accepted, law.1.trans accepted, ?_, gains.unselected columnless,
    ?_, ?_, ?_, ?_⟩
  · rw [gains.wheres]
    decide +kernel
  · exact gains.orders.trans rfl
  · exact gains.limit.trans rfl
  · exact gains.offset.trans rfl
  · rw [gains.loads]
    rfl

end Query

end DeclarativeQuery
