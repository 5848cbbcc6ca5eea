import DeclarativeQuery.Description.Basic
import DeclarativeQuery.Proofs.DecimalNumerals

/-!
Three ways to write down relations that are loaded as they are: as a list, as the mapping that a
list becomes when its positions are its keys, and as a mapping from each relation to true. All three
are read as the same loads, and what a mapping leaves out by null or false makes no difference to
it.
-/

namespace DeclarativeQuery

def EagerLoad.plain (relation : String) : EagerLoad := { relation }

def Json.isOmission : Json → Bool
  | .null => true
  | .bool value => !value
  | _ => false

namespace Inclusion

variable {settings : Settings} {entries others : List (String × Json)}

def indexed (start : Nat) (names : List String) : List (String × Json) :=
  (names.zipIdx start).map fun (name, index) => (Text.natText index, .string name)

/-- The second mapping has the entries of the first one, and others anywhere among them that leave
relations out. -/
inductive Pads : List (String × Json) → List (String × Json) → Prop
  | nil : Pads [] []
  | entry (entry : String × Json) {entries others : List (String × Json)}
      (pads : Pads entries others) : Pads (entry :: entries) (entry :: others)
  | omission (relation : String) {value : Json} {entries others : List (String × Json)}
      (omits : value.isOmission = true) (pads : Pads entries others) :
      Pads entries ((relation, value) :: others)

theorem readRelation_omission {value : Json} (omits : value.isOmission = true)
    (settings : Settings) (relation : String) :
    readRelation settings relation value = .ok none := by
  cases value with
  | null => rfl
  | bool value =>
      cases value with
      | false => rfl
      | true => contradiction
  | _ => contradiction

theorem readRelations_pads (pads : Pads entries others) :
    readRelations settings others = readRelations settings entries := by
  induction pads with
  | nil => rfl
  | entry entry _ ih => rw [readRelations, readRelations, ih]
  | @omission relation value entries others omits _ ih =>
      rw [readRelations, readRelation_omission omits, ih]
      cases readRelations settings entries <;> rfl

/-- An entry with a plain load goes before what the others are read as. -/
theorem readRelations_cons_plain {key relation : String} {payload : Json} {loads : List EagerLoad}
    (first : readRelation settings key payload = .ok (some (.plain relation)))
    (rest : readRelations settings entries = .ok loads) :
    readRelations settings ((key, payload) :: entries) = .ok (.plain relation :: loads) := by
  rw [readRelations, first, rest]
  rfl

theorem readRelation_indexed {index : Nat} (within : index ≤ Text.maxNat64) (name : String) :
    readRelation settings (Text.natText index) (.string name) = .ok (some (.plain name)) := by
  have known : isIndex (Text.natText index) = true := by
    rw [isIndex, Text.natText, String.toList_ofList, Text.readNat64_natDigits within]
    rfl
  rw [readRelation, if_pos known]
  rfl

theorem readRelations_indexed {start : Nat} {names : List String}
    (within : start + names.length ≤ Text.maxNat64 + 1) :
    readRelations settings (indexed start names) = .ok (names.map .plain) := by
  induction names generalizing start with
  | nil => rfl
  | cons name rest ih =>
      rw [List.length_cons] at within
      exact readRelations_cons_plain (readRelation_indexed (by omega) name) (ih (by omega))

theorem readRelations_named (names : List String) :
    readRelations settings (names.map fun name => (name, .bool true)) =
      .ok (names.map .plain) := by
  induction names with
  | nil => rfl
  | cons name rest ih => exact readRelations_cons_plain rfl ih

theorem readItems_named (names : List String) :
    (names.map Json.string).mapM readItem = .ok (names.map .plain) := by
  induction names with
  | nil => rfl
  | cons name rest ih =>
      rw [List.map_cons, List.mapM_cons, ih]
      rfl

/-- A list of names, the mapping of their positions to them and the mapping of each of them to true
are read as plain loads in the order of the list. Entries that leave relations out may come anywhere
into a mapping, and it is read as before or refused for the same reason. -/
theorem plain_forms_are_read_alike (settings : Settings) (names : List String)
    (short : names.length ≤ Text.maxNat64) :
    read settings (.array (names.map .string)) = .ok (names.map .plain) ∧
    read settings (.object (indexed 0 names)) = .ok (names.map .plain) ∧
    (∀ entries, Pads (names.map fun name => (name, .bool true)) entries →
      read settings (.object entries) = .ok (names.map .plain)) ∧
    ∀ entries others, Pads entries others →
      read settings (.object others) = read settings (.object entries) := by
  refine ⟨readItems_named names, readRelations_indexed (by omega), ?_, ?_⟩
  · intro entries pads
    exact (readRelations_pads pads).trans (readRelations_named names)
  · intro entries others pads
    exact readRelations_pads pads

/-- One of the relations has a numeral for its name, and a refused mapping stays refused. -/
theorem numeral_relation_is_read_alike :
    let names := ["roles", "0", "a b"]
    let padded : List (String × Json) := [("x", .null), ("roles", .bool true), ("1", .bool false),
      ("0", .bool true), ("a b", .bool true)]
    let refused : List (String × Json) := [("tags", .whole 5), ("2", .null)]
    names.length ≤ Text.maxNat64 ∧
    indexed 0 names = [("0", .string "roles"), ("1", .string "0"), ("2", .string "a b")] ∧
    Pads (names.map fun name => (name, .bool true)) padded ∧
    Pads [("tags", .whole 5)] refused ∧
    read {} (.array (names.map .string)) = .ok (names.map .plain) ∧
    read {} (.object (indexed 0 names)) = .ok (names.map .plain) ∧
    read {} (.object padded) = .ok (names.map .plain) ∧
    read {} (.object refused) = invalid (.relationPayload "tags" (.whole 5)) := by
  intro names padded refused
  have short : names.length ≤ Text.maxNat64 := by decide
  have pads : Pads (names.map fun name => (name, .bool true)) padded :=
    .omission "x" rfl (.entry _ (.omission "1" rfl (.entry _ (.entry _ .nil))))
  have stays : Pads [("tags", .whole 5)] refused := .entry _ (.omission "2" rfl .nil)
  obtain ⟨listed, positions, named, padding⟩ := plain_forms_are_read_alike {} names short
  exact ⟨short, rfl, pads, stays, listed, positions, named padded pads, padding _ refused stays⟩

end Inclusion

end DeclarativeQuery
