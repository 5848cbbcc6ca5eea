import Mathlib.Logic.Relation
import DeclarativeQuery.Query.Run

/-!
Ways to write down one description. Its entries may come in any order, among entries that no
directive is read from: with unknown keys, with null, or under the second name of a directive that
has one, next to a value under the first. A description is applied alike however it is written down.
-/

namespace DeclarativeQuery

namespace Entries

variable {Value : Type} {entries others : List (String × Value)} {key wanted : String}
  {value : Value}

theorem lookup_eq_some_iff_mem (distinct : (entries.map Prod.fst).Nodup) :
    entries.lookup key = some value ↔ (key, value) ∈ entries := by
  induction entries with
  | nil => simp
  | cons entry rest ih =>
      obtain ⟨first, present⟩ := entry
      rw [List.map_cons, List.nodup_cons] at distinct
      by_cases here : key = first
      · subst here
        have once : (key, value) ∉ rest :=
          fun member => distinct.1 (List.mem_map.mpr ⟨_, member, rfl⟩)
        simp [once, eq_comm]
      · have other : (key == first) = false := by simpa using here
        simp [List.lookup_cons, other, here, ih distinct.2]

theorem lookup_perm (order : entries.Perm others) (distinct : (entries.map Prod.fst).Nodup)
    (key : String) : entries.lookup key = others.lookup key := by
  have distinctOthers := (order.map Prod.fst).nodup_iff.mp distinct
  apply Option.ext
  intro value
  rw [lookup_eq_some_iff_mem distinct, lookup_eq_some_iff_mem distinctOthers, order.mem_iff]

theorem lookup_fresh (fresh : key ∉ entries.map Prod.fst) : entries.lookup key = none := by
  rw [List.lookup_eq_none_iff]
  intro entry member
  exact bne_iff_ne.mpr fun same => fresh (same ▸ List.mem_map_of_mem member)

theorem lookup_cons_of_ne (apart : wanted ≠ key) :
    ((key, value) :: entries).lookup wanted = entries.lookup wanted := by
  have other : (wanted == key) = false := by simpa using apart
  rw [List.lookup_cons, other]

end Entries

namespace Directive

def names : List (List String) := [
  [inclusion], [filter], [has], [scopes], [fields], [order], [limit], [offset, skip],
  [groupBy, groupBySnake], [having]]

end Directive

namespace Description

/-- One way of writing a description turned into another one, which has an entry more or the
same entries in another order. -/
inductive Restates : List (String × Json) → List (String × Json) → Prop
  | reordered {entries others : List (String × Json)} (order : entries.Perm others) :
      Restates entries others
  | unrecognised {key : String} {entries : List (String × Json)} (value : Json)
      (unknown : ∀ keys ∈ Directive.names, key ∉ keys) (fresh : key ∉ entries.map Prod.fst) :
      Restates entries ((key, value) :: entries)
  | null {key : String} {entries : List (String × Json)} (fresh : key ∉ entries.map Prod.fst) :
      Restates entries ((key, .null) :: entries)
  | second {first key : String} {given : Json} {entries : List (String × Json)} (value : Json)
      (names : [first, key] ∈ Directive.names) (fresh : key ∉ entries.map Prod.fst)
      (member : (first, given) ∈ entries) (present : given ≠ .null) :
      Restates entries ((key, value) :: entries)

variable {settings : Settings} {entries others : List (String × Json)}

def SameDirectives (entries others : List (String × Json)) : Prop :=
  ∀ keys ∈ Directive.names, firstPresent? entries keys = firstPresent? others keys

/-! One step. -/

theorem Restates.nodup_iff (restates : Restates entries others) :
    (entries.map Prod.fst).Nodup ↔ (others.map Prod.fst).Nodup := by
  cases restates with
  | reordered order => exact (order.map Prod.fst).nodup_iff
  | unrecognised _ _ fresh | null fresh | second _ _ fresh _ _ =>
      rw [List.map_cons, List.nodup_cons]
      exact (and_iff_right fresh).symm

theorem firstPresent?_congr {keys : List String}
    (same : ∀ key ∈ keys, Json.present? key entries = Json.present? key others) :
    firstPresent? entries keys = firstPresent? others keys := by
  induction keys with
  | nil => rfl
  | cons key rest ih =>
      obtain ⟨here, later⟩ := List.forall_mem_cons.mp same
      rw [firstPresent?, firstPresent?, here, ih later]

theorem present?_cons_of_ne {key wanted : String} (value : Json) (apart : wanted ≠ key) :
    Json.present? wanted entries = Json.present? wanted ((key, value) :: entries) := by
  rw [Json.present?, Json.present?, Entries.lookup_cons_of_ne apart]

theorem present?_cons_null {key : String} (fresh : key ∉ entries.map Prod.fst) (wanted : String) :
    Json.present? wanted entries = Json.present? wanted ((key, .null) :: entries) := by
  by_cases here : wanted = key
  · subst here
    rw [Json.present?, Json.present?, Entries.lookup_fresh fresh, List.lookup_cons_self]
    rfl
  · exact present?_cons_of_ne .null here

theorem present?_of_mem {key : String} {value : Json} (distinct : (entries.map Prod.fst).Nodup)
    (member : (key, value) ∈ entries) (present : value ≠ .null) :
    Json.present? key entries = some value := by
  rw [Json.present?, (Entries.lookup_eq_some_iff_mem distinct).mpr member]
  cases value <;> first | rfl | contradiction

theorem names_second {first key : String} (names : [first, key] ∈ Directive.names) :
    first ≠ key ∧ ∀ keys ∈ Directive.names, key ∈ keys → keys = [first, key] := by
  have pairs : (first = Directive.offset ∧ key = Directive.skip) ∨
      (first = Directive.groupBy ∧ key = Directive.groupBySnake) := by
    simpa [Directive.names] using names
  rcases pairs with ⟨rfl, rfl⟩ | ⟨rfl, rfl⟩ <;> exact ⟨by decide, by decide⟩

theorem Restates.sameDirectives (restates : Restates entries others)
    (distinct : (entries.map Prod.fst).Nodup) : SameDirectives entries others := by
  intro keys directive
  cases restates with
  | reordered order =>
      refine firstPresent?_congr fun key _ => ?_
      rw [Json.present?, Json.present?, Entries.lookup_perm order distinct]
  | unrecognised value unknown fresh =>
      refine firstPresent?_congr fun wanted among => present?_cons_of_ne value ?_
      exact ne_of_mem_of_not_mem among (unknown keys directive)
  | null fresh => exact firstPresent?_congr fun wanted _ => present?_cons_null fresh wanted
  | @second first key given _ value names fresh member present =>
      obtain ⟨apart, only⟩ := names_second names
      by_cases among : key ∈ keys
      · -- the value under the first name is found before the new one
        have found := present?_of_mem distinct member present
        have still := (present?_cons_of_ne value apart).symm.trans found
        rw [only keys directive among]
        simp only [firstPresent?, found, still]
      · refine firstPresent?_congr fun wanted member => present?_cons_of_ne value ?_
        exact ne_of_mem_of_not_mem member among

/-! Any number of steps, in either direction. -/

theorem sameDirectives_of_restated (restated : Relation.EqvGen Restates entries others) :
    ((entries.map Prod.fst).Nodup ↔ (others.map Prod.fst).Nodup) ∧
      ((entries.map Prod.fst).Nodup → SameDirectives entries others) := by
  induction restated with
  | rel entries others restates => exact ⟨restates.nodup_iff, restates.sameDirectives⟩
  | refl entries => exact ⟨Iff.rfl, fun _ _ _ => rfl⟩
  | symm entries others _ ih =>
      refine ⟨ih.1.symm, ?_⟩
      intro distinct keys directive
      exact (ih.2 (ih.1.mpr distinct) keys directive).symm
  | trans entries between others _ _ first second =>
      refine ⟨first.1.trans second.1, ?_⟩
      intro distinct keys directive
      exact (first.2 distinct keys directive).trans (second.2 (first.1.mp distinct) keys directive)

theorem SameDirectives.ofEntries_eq (same : SameDirectives entries others) :
    ofEntries settings entries = ofEntries settings others := by
  simp only [SameDirectives, Directive.names, List.forall_mem_cons] at same
  obtain ⟨inclusion, filters, has, scopes, fields, order, limit, offset, groupBy, having, _⟩ := same
  simp only [ofEntries, directive, inclusion, filters, has, scopes, fields, order, limit, offset,
    groupBy, having]

theorem wantsInclusion_eq (entries : List (String × Json)) :
    Request.wantsInclusion (.object entries) =
      (firstPresent? entries [Directive.inclusion]).isSome := by
  simp only [Request.wantsInclusion, firstPresent?]
  cases Json.present? Directive.inclusion entries <;> rfl

theorem SameDirectives.plan_eq (same : SameDirectives entries others) (target : Capabilities) :
    (Request.description settings (.object entries)).plan target =
      (Request.description settings (.object others)).plan target := by
  have wanted : Request.wantsInclusion (.object entries) =
      Request.wantsInclusion (.object others) := by
    rw [wantsInclusion_eq, wantsInclusion_eq, same _ List.mem_cons_self]
  simp only [Request.plan, Request.planDescription, wanted, read, same.ofEntries_eq]

end Description

/-- A description with distinct keys may be restated: its entries reordered, entries that are not
read added or removed. Whatever the target, the same calls are made of it or it is rejected for the
same reason; a query that it is applied to is the same afterwards, and fails with the same error. -/
theorem Query.restated_description_is_applied_alike (query : Query) (settings : Settings)
    {entries others : List (String × Json)} (distinct : (entries.map Prod.fst).Nodup)
    (restated : Relation.EqvGen Description.Restates entries others) :
    (∀ target, (Request.description settings (.object others)).plan target =
      (Request.description settings (.object entries)).plan target) ∧
    query.apply settings (.object others) = query.apply settings (.object entries) := by
  have same := (Description.sameDirectives_of_restated restated).2 distinct
  have plans : ∀ target, (Request.description settings (.object others)).plan target =
      (Request.description settings (.object entries)).plan target :=
    fun target => (same.plan_eq target).symm
  refine ⟨plans, ?_⟩
  rw [apply, apply, ask, ask, plans]

def briefDescription : List (String × Json) := [
  ("where", .object [("name", .string "a")]), ("offset", .whole 2), ("limit", .whole 5)]

def wordyDescription : List (String × Json) := [
  ("limit", .whole 5), ("offset", .whole 2), ("where", .object [("name", .string "a")]),
  ("having", .null), ("debug", .bool true), ("skip", .string "far")]

theorem Query.wordy_description_is_applied_alike :
    (briefDescription.map Prod.fst).Nodup ∧
    Relation.EqvGen Description.Restates briefDescription wordyDescription ∧
    (plain "users").apply {} (.object wordyDescription) =
      (plain "users").apply {} (.object briefDescription) ∧
    ((plain "users").apply {} (.object wordyDescription)).query.sql =
      "SELECT * FROM users WHERE name = 'a' LIMIT 5 OFFSET 2" := by
  have distinct : (briefDescription.map Prod.fst).Nodup := by decide
  have having : Description.Restates briefDescription (("having", .null) :: briefDescription) :=
    .null (by decide)
  have debug : Description.Restates (("having", .null) :: briefDescription)
      (("debug", .bool true) :: ("having", .null) :: briefDescription) :=
    .unrecognised _ (by decide) (by decide)
  have offset : (Directive.offset, Json.whole 2) ∈
      ("debug", .bool true) :: ("having", .null) :: briefDescription :=
    .tail _ (.tail _ (.tail _ (.head _)))
  have skip : Description.Restates (("debug", .bool true) :: ("having", .null) :: briefDescription)
      wordyDescription.reverse :=
    .second _ (by decide) (by decide) offset nofun
  have order : Description.Restates wordyDescription.reverse wordyDescription :=
    .reordered (List.reverse_perm _)
  have restated : Relation.EqvGen Description.Restates briefDescription wordyDescription :=
    ((Relation.EqvGen.rel _ _ having).trans _ _ _ (.rel _ _ debug)).trans _ _ _
      (.trans _ _ _ (.rel _ _ skip) (.rel _ _ order))
  have law := restated_description_is_applied_alike (plain "users") {} distinct restated
  refine ⟨distinct, restated, law.2, ?_⟩
  rw [law.2]
  decide +kernel

end DeclarativeQuery
