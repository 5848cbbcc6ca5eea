import DeclarativeQuery.Proofs.IndependentDescriptions
import DeclarativeQuery.Proofs.LoadSequences

/-!
What stands between SELECT and FROM. A description that gives no columns leaves those of the query
alone. One that gives a list takes it as it is, so that an empty one leaves the query none. For a
relation to load an empty list says nothing, and its query always has columns.
-/

namespace DeclarativeQuery

/-! Lists of names -/

namespace Payload

variable {directive : String}

theorem readName_eq_ok_iff {payload : Json} {name : String} :
    readName directive payload = .ok name ↔ payload = .string name := by
  cases payload <;> simp [readName, invalid]

theorem readName_list_iff {items : List Json} {names : List String} :
    items.mapM (readName directive) = .ok names ↔ items = names.map .string := by
  induction items generalizing names with
  | nil => cases names <;> simp [pure, Except.pure]
  | cons item rest ih =>
      simp only [mapM_cons_ok_iff, readName_eq_ok_iff, ih]
      cases names <;> simp

/-- Names are one text or a list of texts. -/
theorem readNames_eq_ok_iff {payload : Json} {names : List String} :
    readNames directive payload = .ok names ↔
      (∃ name, payload = .string name ∧ names = [name]) ∨ payload = .array (names.map .string) := by
  cases payload with
  | string name => simp [readNames, eq_comm]
  | array items => simp [readNames, readName_list_iff]
  | _ => simp [readNames, invalid]

theorem readNames_eq_nil_iff {payload : Json} :
    readNames directive payload = .ok [] ↔ payload = .array [] := by
  simp [readNames_eq_ok_iff]

end Payload

/-! Columns of a description -/

namespace Description

variable {settings : Settings} {entries : List (String × Json)} {description : Description}

theorem Reads.fields_eq_none_iff (reads : Reads settings entries description) :
    description.fields = none ↔ ¬ (Json.object entries).Gives Directive.fields := by
  rw [← reads.fields_isSome, Bool.not_eq_true, Option.isSome_eq_false_iff,
    Option.isNone_iff_eq_none]

/-- The columns are one text or a list of texts. -/
theorem Reads.fields_eq_some_iff (reads : Reads settings entries description)
    {names : List String} :
    description.fields = some names ↔
      (∃ name, (Json.object entries).field? Directive.fields = some (.string name) ∧
        names = [name]) ∨
      (Json.object entries).field? Directive.fields = some (.array (names.map .string)) := by
  have fields := reads.fields
  rw [directive_single] at fields
  cases present : Json.present? Directive.fields entries with
  | none =>
      rw [present] at fields
      rw [Json.present?, Option.filter_eq_none_iff] at present
      -- what is there can only be null, which is no list of names
      have unread (payload : Json) (found : entries.lookup Directive.fields = some payload) :
          payload = .null := by
        have null := present payload found
        cases payload <;> simp_all [Json.isNull]
      rw [← Except.ok.inj fields]
      constructor
      · intro given
        contradiction
      · rintro (⟨name, found, _⟩ | found) <;> cases unread _ found
  | some payload =>
      rw [present] at fields
      obtain ⟨given, read, same⟩ := map_eq_ok_iff.mp fields
      have found := (Option.filter_eq_some_iff.mp present).1
      rw [← same, Json.field?, found]
      simp only [Option.some_inj]
      have readable := @Payload.readNames_eq_ok_iff Directive.fields payload names
      rw [← readable, read, Except.ok.injEq]

theorem Reads.fields_eq_nil_iff (reads : Reads settings entries description) :
    description.fields = some [] ↔
      (Json.object entries).field? Directive.fields = some (.array []) := by
  simp [reads.fields_eq_some_iff]

theorem Reads.fields_eq_blank_iff (reads : Reads settings entries description) :
    description.fields = some [""] ↔
      (Json.object entries).field? Directive.fields = some (.string "") ∨
      (Json.object entries).field? Directive.fields = some (.array [.string ""]) := by
  simp [reads.fields_eq_some_iff]

end Description

/-! Columns of a relation to load -/

def EagerLoad.Selects (load : EagerLoad) : Prop := load.configuration.columns ≠ some []

theorem RelationConfig.columns_ne_nil {settings : Settings} {entries : List (String × Json)}
    {config : RelationConfig} (read : ofEntries settings entries = .ok config) :
    config.columns ≠ some [] := by
  obtain ⟨_, columns, _⟩ := ofEntries_eq_ok_iff.mp read
  intro emptied
  rw [emptied] at columns
  cases filled : Payload.filled? "fields" entries with
  | none => simp [filled, Payload.reading] at columns
  | some payload =>
      rw [filled] at columns
      obtain ⟨names, named, same⟩ := map_eq_ok_iff.mp columns
      rw [Option.some.inj same, Payload.readNames_eq_nil_iff] at named
      -- an empty list is void, so it was not there to be read
      have solid := (Option.filter_eq_some_iff.mp filled).2
      rw [named] at solid
      contradiction

namespace Inclusion

variable {settings : Settings}

theorem readRelation_selects {relation : String} {payload : Json} {load : EagerLoad}
    (read : readRelation settings relation payload = .ok (some load)) : load.Selects := by
  have plain (relation : String) : EagerLoad.Selects { relation } := fun emptied => nomatch emptied
  cases payload with
  | object entries =>
      rcases readRelation_object settings relation entries with
        ⟨found, entry, _, config⟩ | ⟨error, refused, _⟩
      · rw [entry] at read
        rw [← Option.some.inj (Except.ok.inj read)]
        exact RelationConfig.columns_ne_nil config
      · rw [refused] at read
        contradiction
  | string name =>
      rw [readRelation] at read
      split at read
      · rw [← Option.some.inj (Except.ok.inj read)]
        exact plain name
      · contradiction
  | bool value =>
      cases value with
      | true =>
          rw [← Option.some.inj (Except.ok.inj read)]
          exact plain relation
      | false => simp [readRelation] at read
  | null => simp [readRelation] at read
  | _ => contradiction

theorem readRelations_selects {entries : List (String × Json)} {loads : List EagerLoad}
    (accepted : readRelations settings entries = .ok loads) : ∀ load ∈ loads, load.Selects := by
  induction entries generalizing loads with
  | nil =>
      cases accepted
      exact List.forall_mem_nil _
  | cons entry rest ih =>
      obtain ⟨first, here, accepted⟩ := bind_eq_ok_iff.mp accepted
      obtain ⟨others, later, same⟩ := bind_eq_ok_iff.mp accepted
      rw [← Except.ok.inj same, List.forall_mem_append]
      refine ⟨?_, ih later⟩
      intro load member
      rw [Option.mem_toList.mp member] at here
      exact readRelation_selects here

theorem read_selects {payload : Json} {loads : List EagerLoad}
    (accepted : read settings payload = .ok loads) : ∀ load ∈ loads, load.Selects := by
  intro load member
  cases payload with
  | string name =>
      cases accepted
      rw [List.mem_singleton.mp member]
      exact fun emptied => nomatch emptied
  | array items =>
      obtain ⟨item, _, here⟩ := mapM_ok_mem accepted member
      cases item with
      | string name =>
          cases here
          exact fun emptied => nomatch emptied
      | _ => contradiction
  | object entries => exact readRelations_selects accepted load member
  | _ => contradiction

end Inclusion

theorem Description.Reads.inclusion_selects {settings : Settings}
    {entries : List (String × Json)} {description : Description}
    (reads : Reads settings entries description) :
    ∀ load ∈ description.inclusion.getD [], load.Selects := by
  rcases directive_ok reads.inclusion with absent | ⟨_, _, payload, _, read⟩
  · rw [absent]
    exact List.forall_mem_nil _
  · obtain ⟨loads, read, same⟩ := map_eq_ok_iff.mp read
    rw [← same]
    exact Inclusion.read_selects read

theorem EagerLoad.mem_of_last? {wanted : String} {loads : List EagerLoad} {load : EagerLoad}
    (last : last? wanted loads = some load) : load ∈ loads :=
  List.mem_reverse.mp (List.mem_of_find?_eq_some last)

namespace Query

open Outcome

variable {query : Query}

/-- A relation is loaded as it was asked for last. -/
theorem find?_addLoads (query : Query) (loads : List EagerLoad) (wanted : String) :
    (query.addLoads loads).loads.find? (fun load => load.relation == wanted) =
      (EagerLoad.last? wanted loads).or
        (query.loads.find? fun load => load.relation == wanted) := by
  induction loads generalizing query with
  | nil => rfl
  | cons load rest ih =>
      have onward := ih (query.addLoads [load])
      have split : EagerLoad.last? wanted (load :: rest) =
          (EagerLoad.last? wanted rest).or (EagerLoad.last? wanted [load]) :=
        EagerLoad.last?_append wanted [load] rest
      rw [split, Option.or_assoc, EagerLoad.last?_singleton]
      refine onward.trans (congrArg _ ?_)
      refine (find?_putLoad load wanted query.loads).trans ?_
      split <;> rfl

def selectList (query : Query) : String := ", ".intercalate query.columns

theorem selectList_eq_empty_iff :
    query.selectList = "" ↔ query.columns = [] ∨ query.columns = [""] := by
  unfold selectList
  match query.columns with
  | [] => simp
  | [only] => simp
  | first :: second :: rest => simp

theorem sql_begins (query : Query) :
    ∃ rest, query.sql = "SELECT " ++ query.selectList ++ " FROM " ++ query.table ++ rest := by
  have parts (start wheres groups havings orders paging : String) :
      start ++ wheres ++ groups ++ havings ++ orders ++ paging =
        start ++ (wheres ++ groups ++ havings ++ orders ++ paging) := by
    simp only [String.append_assoc]
  exact ⟨_, parts _ _ _ _ _ _⟩

theorem withDescription_columns_iff {description : Description} {names : List String} :
    (query.withDescription description).columns = names ↔
      description.fields = some names ∨ (description.fields = none ∧ query.columns = names) :=
  Option.getD_eq_iff

/-- A relation that the loads do not name has the query over its records that it had. -/
theorem relationQuery_of_unnamed {description : Description} {relation : String}
    (unnamed : relation ∉ (description.inclusion.getD []).map EagerLoad.relation) :
    (query.withDescription description).relationQuery relation = query.relationQuery relation := by
  have found := find?_addLoads query (description.inclusion.getD []) relation
  rw [EagerLoad.last?_eq_none_iff.mpr unnamed, Option.none_or] at found
  have same : (query.withDescription description).materialize relation =
      query.materialize relation := by
    unfold materialize
    exact congrArg _ found
  rw [relationQuery, same, relationQuery]

theorem relationQuery_of_named (query : Query) {description : Description} {relation : String}
    (named : relation ∈ (description.inclusion.getD []).map EagerLoad.relation) :
    ∃ load built, EagerLoad.last? relation (description.inclusion.getD []) = some load ∧
      (query.withDescription description).relationQuery relation = .ok (some built) ∧
      built.columns = load.configuration.columns.getD ["*"] := by
  have loaded : EagerLoad.last? relation (description.inclusion.getD []) ≠ none := fun absent =>
    EagerLoad.last?_eq_none_iff.mp absent named
  obtain ⟨load, last⟩ := Option.ne_none_iff_exists'.mp loaded
  have found := find?_addLoads query (description.inclusion.getD []) relation
  rw [last, Option.some_or] at found
  exact ⟨load, _, last, relationQuery_of_loaded found, rfl⟩

/-- A description without scopes, taken by a query that has columns, leaves it none if and only if
it gives them as an empty list. The text between SELECT and FROM is empty then, and where the only
column that is given or kept has an empty name. The query over the records of a relation that the
description loads always has columns, and that of any other relation is the one that it was. -/
theorem columns_remain_unless_given_empty (query : Query) (settings : Settings) (payload : Json)
    (description : Description) (accepted : (query.apply settings payload).failure = none)
    (read : Description.read settings payload = .ok description)
    (scopeless : description.scopes = []) (listed : query.columns ≠ []) :
    let after := (query.apply settings payload).query
    let loads := description.inclusion.getD []
    let fields := payload.field? Directive.fields
    (after.columns = [] ↔ fields = some (.array [])) ∧
    (∃ rest, after.sql = "SELECT " ++ after.selectList ++ " FROM " ++ after.table ++ rest) ∧
    (after.selectList = "" ↔
      fields = some (.array []) ∨
      (fields = some (.string "") ∨ fields = some (.array [.string ""])) ∨
      (¬ payload.Gives Directive.fields ∧ query.columns = [""])) ∧
    ∀ relation,
      (relation ∉ loads.map EagerLoad.relation →
        after.relationQuery relation = query.relationQuery relation) ∧
      (relation ∈ loads.map EagerLoad.relation → ∃ load built,
        EagerLoad.last? relation loads = some load ∧
        after.relationQuery relation = .ok (some built) ∧ built.columns ≠ [] ∧
        (built.selectList = "" ↔ load.configuration.columns = some [""])) := by
  intro after loads fields
  obtain ⟨described, again, reaches⟩ := apply_reaches accepted
  cases again.symm.trans read
  have reached : after = query.withDescription description := (reaches scopeless).query_eq
  obtain ⟨entries, rfl, reads⟩ := Description.read_ok read
  refine ⟨?_, sql_begins after, ?_, fun relation => ⟨?_, ?_⟩⟩
  · simp only [reached, withDescription_columns_iff, reads.fields_eq_nil_iff, listed, and_false,
      or_false, fields]
  · simp only [selectList_eq_empty_iff, reached, withDescription_columns_iff,
      reads.fields_eq_nil_iff, reads.fields_eq_blank_iff, reads.fields_eq_none_iff, listed,
      and_false, or_false, fields]
  · intro unnamed
    rw [reached]
    exact relationQuery_of_unnamed unnamed
  · intro named
    obtain ⟨load, built, last, materialized, columns⟩ := relationQuery_of_named query named
    have selects : load.configuration.columns ≠ some [] :=
      reads.inclusion_selects load (EagerLoad.mem_of_last? last)
    refine ⟨load, built, last, reached ▸ materialized, ?_, ?_⟩
    · simp [columns, Option.getD_eq_iff, selects]
    · simp [selectList_eq_empty_iff, columns, Option.getD_eq_iff, selects]

/-- An empty list of columns is taken. -/
theorem empty_fields_leave_no_columns :
    let payload : Json := .object [(Directive.fields, .array [])]
    let after := (plain "users").apply {} payload
    Description.read {} payload = .ok { fields := some [] } ∧ (plain "users").columns = ["*"] ∧
    after.failure = none ∧ after.query.columns = [] ∧ after.query.sql = "SELECT  FROM users" :=
  ⟨rfl, rfl, rfl, rfl, by decide⟩

def emptied : Query := { entity "users" with
  columns := ["id"]
  loads := [⟨"posts", some { columns := some [] }⟩, ⟨"roles", some { columns := some [] }⟩] }

def sparsePayload : Json := .object [
  (Directive.inclusion, .object [
    ("roles", .object [("fields", .array []), ("order", .string "name")]),
    ("tags", .object [("fields", .array [.string ""])])]),
  (Directive.fields, .array [.string "", .string "name"])]

def sparse : Description where
  inclusion := some [
    ⟨"roles", some { order := [⟨"name", .asc⟩] }⟩, ⟨"tags", some { columns := some [""] }⟩]
  fields := some ["", "name"]

theorem sparse_description_leaves_columns :
    let after := (emptied.apply {} sparsePayload).query
    (emptied.apply {} sparsePayload).failure = none ∧
    Description.read {} sparsePayload = .ok sparse ∧ sparse.scopes = [] ∧ emptied.columns ≠ [] ∧
    after.columns ≠ [] ∧ after.selectList ≠ "" ∧ after.sql = "SELECT , name FROM users" ∧
    after.relationQuery "posts" = emptied.relationQuery "posts" ∧
    (∃ roles, after.relationQuery "roles" = .ok (some roles) ∧ roles.columns ≠ [] ∧
      roles.selectList ≠ "") ∧
    ∃ tags, after.relationQuery "tags" = .ok (some tags) ∧ tags.columns ≠ [] ∧
      tags.selectList = "" := by
  intro after
  have accepted : (emptied.apply {} sparsePayload).failure = none :=
    Option.isNone_iff_eq_none.mp (by decide +kernel)
  have read : Description.read {} sparsePayload = .ok sparse := rfl
  have listed : emptied.columns ≠ [] := List.cons_ne_nil _ _
  have given : sparsePayload.field? Directive.fields =
      some (.array [.string "", .string "name"]) := rfl
  obtain ⟨columns, _, text, related⟩ :=
    columns_remain_unless_given_empty emptied {} sparsePayload sparse accepted read rfl listed
  have gives : sparsePayload.Gives Directive.fields := ⟨_, given, Json.noConfusion⟩
  have kept : after.columns ≠ [] := mt columns.mp (by simp [given])
  have written : after.selectList ≠ "" := mt text.mp (by simp [given, gives])
  obtain ⟨_, roles, rolesLast, rolesBuilt, rolesColumns, rolesText⟩ :=
    (related "roles").2 (by decide)
  obtain ⟨_, tags, tagsLast, tagsBuilt, tagsColumns, tagsText⟩ := (related "tags").2 (by decide)
  cases rolesLast
  cases tagsLast
  exact ⟨accepted, read, rfl, listed, kept, written, by decide +kernel,
    (related "posts").1 (by decide), ⟨roles, rolesBuilt, rolesColumns, mt rolesText.mp (by decide)⟩,
    tags, tagsBuilt, tagsColumns, tagsText.mpr rfl⟩

end Query

end DeclarativeQuery
