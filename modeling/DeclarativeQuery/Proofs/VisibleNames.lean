import DeclarativeQuery.Proofs.FilterGrammar
import DeclarativeQuery.Proofs.HavingFilters
import DeclarativeQuery.Proofs.TrimmedText

/-!
The fields and the relations that an accepted filter names, and whether they can be seen. The key of
a field is looked at for a character that is not blank, and lowering it leaves one. The two halves
of a key with a dot are looked at for any character at all, so a filter that is accepted may ask for
a relation or a field of nothing but blanks.
-/

namespace DeclarativeQuery

namespace Text

def Visible (text : String) : Prop := ∃ c ∈ text.toList, isBlank c = false

instance (text : String) : Decidable (Visible text) :=
  decidable_of_iff (text.toList.any fun c => !isBlank c) (by simp [Visible])

theorem visible_iff {text : String} : Visible text ↔ text.toList.all isBlank = false := by
  simp [Visible]

theorem Visible.ne_empty {text : String} (visible : Visible text) : text ≠ "" := by
  rintro rfl
  obtain ⟨c, member, _⟩ := visible
  contradiction

/-- No blank is lowered to anything else. -/
theorem sources_solid :
    runBits CaseRun.codes (dottedRun :: caseRuns) &&& codeBits blankCodes = 0 := by
  decide +kernel

theorem lowerChar_of_blank {c : Char} (blank : isBlank c = true) : lowerChar c = [c] := by
  have uncovered : ∀ run ∈ dottedRun :: caseRuns, run.covers c.toNat = false := by
    intro run listed
    rw [← Bool.not_eq_true]
    intro covered
    have source : (runBits CaseRun.codes (dottedRun :: caseRuns)).testBit c.toNat = true :=
      testBit_runBits listed (CaseRun.mem_codes covered)
    have nowhere := congrArg (Nat.testBit · c.toNat) sources_solid
    simp only [Nat.testBit_and, source, testBit_codeBits (mem_blankCodes blank), Bool.and_self,
      Nat.zero_testBit, Bool.true_eq_false] at nowhere
  exact (lowered_of_uncovered uncovered).2

/-- A blank stays what it is, and what is not blank becomes something that is not. -/
theorem lowerAfter_all_blank (before text : List Char) :
    (lowerAfter before text).all isBlank = text.all isBlank := by
  induction text generalizing before with
  | nil => rfl
  | cons c rest ih =>
      cases blank : isBlank c with
      | true =>
          have plain : c ≠ '\u03a3' := by
            rintro rfl
            contradiction
          rw [lowerAfter, if_neg plain, lowerChar_of_blank blank, List.all_append, ih,
            List.all_cons, blank]
          simp [blank]
      | false =>
          obtain ⟨lowered, filled, solid, same⟩ := lowerAfter_cons before c rest
          obtain ⟨d, others, rfl⟩ := List.exists_cons_of_ne_nil filled
          have first : isBlank d = false := solid blank d List.mem_cons_self
          simp [same, first, blank]

theorem visible_lower_iff {text : String} : Visible (lower text) ↔ Visible text := by
  rw [visible_iff, visible_iff, lower, String.toList_ofList, lowerAfter_all_blank]

end Text

/-! What a filter names. -/

structure FieldName where
  relation : Option String := none
  field : String

structure FieldName.Visible (name : FieldName) : Prop where
  field : Text.Visible name.field
  relation : ∀ relation, name.relation = some relation → Text.Visible relation

namespace Filter

mutual

def names : Filter → List FieldName
  | .group _ filters => listNames filters
  | .leaf field _ => [{ field }]
  | .related relation field _ => [{ relation, field }]
termination_by structural filter => filter

def listNames : List Filter → List FieldName
  | [] => []
  | filter :: rest => filter.names ++ listNames rest
termination_by structural filters => filters

end

theorem listNames_append (first second : List Filter) :
    listNames (first ++ second) = listNames first ++ listNames second := by
  induction first with
  | nil => rfl
  | cons filter rest ih => simp [listNames, ih]

/-- Predicates of one field share its name. -/
theorem listNames_map {build : Predicate → Filter} {name : FieldName}
    (built : ∀ predicate, (build predicate).names = [name]) (predicates : List Predicate) :
    listNames (predicates.map build) = predicates.map fun _ => name := by
  induction predicates with
  | nil => rfl
  | cons predicate rest ih => simp [listNames, built, ih]

end Filter

namespace FilterEntry

/-- What the key of an entry names: a key with a dot a field of a related record. -/
def fieldName (entry : FilterEntry) : FieldName :=
  match Filter.relationPath? entry.key with
  | some (relation, field) => { relation := some (Text.lower relation), field }
  | none => { field := Text.lower entry.key }

def HasBlankHalf (entry : FilterEntry) : Prop :=
  ∃ relation field, entry.key = relation ++ "." ++ field ∧ '.' ∉ field.toList ∧
    ¬ (Text.Visible relation ∧ Text.Visible field)

/-- What is read from entries: a name for each, and the one that its key stands for. -/
structure Naming (entries : List FilterEntry) (names : List FieldName) : Prop where
  names_eq : names = entries.map fieldName
  named : ∀ entry ∈ entries, NamesField entry.key entry.fieldName.field

theorem Naming.append {first second : List FilterEntry} {names others : List FieldName}
    (head : Naming first names) (tail : Naming second others) :
    Naming (first ++ second) (names ++ others) where
  names_eq := by rw [head.names_eq, tail.names_eq, List.map_append]
  named := List.forall_mem_append.mpr ⟨head.named, tail.named⟩

section Reading
variable {settings : Settings} {directive : String}

/-- There are as many predicates as entries, all under the name that the key stands for. -/
theorem readField_naming {key : String} {value : Json} {filters : List Filter}
    (accepted : Filter.readField directive key value = .ok filters) :
    Naming (ofField key value) (Filter.listNames filters) := by
  have counted {field : String} {predicates : List Predicate}
      (read : Filter.readPredicates directive field value = .ok predicates) (name : FieldName) :
      (predicates.map fun _ => name) = (ofField key value).map fun _ => name := by
    have reads : List.Forall₂ (Reads .other field) (ofField key value) predicates :=
      readPredicates_reads read
    rw [List.map_const', List.map_const', reads.length_eq]
  have keyed {entry : FilterEntry} (member : entry ∈ ofField key value) :
      entry.fieldName = fieldName ⟨key, none, .null⟩ := by
    rw [fieldName, ofField_key member]
    rfl
  rcases Filter.readField_ok accepted with
    ⟨path, visible, predicates, read, rfl⟩ |
      ⟨relation, field, path, present, named, predicates, read, rfl⟩
  · have name : fieldName ⟨key, none, .null⟩ = { field := Text.lower key } := by
      simp only [fieldName, path]
    refine ⟨?_, fun entry member => ?_⟩
    · rw [Filter.listNames_map (fun _ => rfl), counted read]
      exact List.map_congr_left fun entry member => (name ▸ keyed member).symm
    · rw [keyed member, name, ofField_key member]
      exact .own (Filter.relationPath?_eq_none path) (Filter.allBlank_eq_false_iff.mp visible)
  · have name : fieldName ⟨key, none, .null⟩ =
        { relation := some (Text.lower relation), field } := by
      simp only [fieldName, path]
    obtain ⟨cut, last⟩ := Filter.relationPath?_eq_some path
    simp only [String.isEmpty_eq_false_iff] at present named
    refine ⟨?_, fun entry member => ?_⟩
    · rw [Filter.listNames_map (fun _ => rfl), counted read]
      exact List.map_congr_left fun entry member => (name ▸ keyed member).symm
    · rw [keyed member, name, ofField_key member]
      exact .related cut last present named

mutual

theorem readLevel_naming : ∀ (payload : Json) {room : Nat} {filters : List Filter},
    Filter.readLevel settings directive room payload = .ok filters →
    Naming (ofFilter settings payload) (Filter.listNames filters)
  | .object entries, _, _, accepted => by
      obtain ⟨read, below, same, _, inside⟩ := Filter.readLevel_ok accepted
      cases same
      exact readEntries_naming entries inside
  | .null, _, _, accepted | .bool _, _, _, accepted | .number _, _, _, accepted
  | .string _, _, _, accepted | .array _, _, _, accepted => by
      obtain ⟨_, _, same, _⟩ := Filter.readLevel_ok accepted
      cases same
termination_by structural payload => payload

theorem readEntries_naming : ∀ (entries : List (String × Json)) {room : Nat}
    {filters : List Filter}, Filter.readEntries settings directive room entries = .ok filters →
    Naming (ofEntries settings entries) (Filter.listNames filters)
  | [], _, _, accepted => by
      cases accepted
      exact ⟨rfl, List.forall_mem_nil _⟩
  | (key, value) :: rest, room, filters, accepted => by
      obtain ⟨first, others, head, tail, same⟩ := Filter.readEntries_cons_ok accepted
      rw [same, Filter.listNames_append]
      refine Naming.append ?_ (readEntries_naming rest tail)
      -- a null entry names nothing, a group what is inside it, a field itself
      rcases Filter.readEntry_ok head with
        ⟨null, none⟩ | ⟨connective, members, group, object, inside, one⟩ | ⟨field, some, read⟩
      · subst null
        subst none
        exact ⟨rfl, List.forall_mem_nil _⟩
      · have notNull := Json.isNull_of_isObject object
        simp only [notNull, group, Bool.false_eq_true, ↓reduceIte]
        have only : Filter.listNames first = Filter.listNames members := by
          rw [one]
          exact List.append_nil _
        rw [only]
        exact readLevel_naming value inside
      · simp only [some, field, Bool.false_eq_true, ↓reduceIte]
        exact readField_naming read
termination_by structural entries => entries

end

end Reading

/-! Which names are blank. -/

variable {entry : FilterEntry}

/-- A key without a dot gives a field that can be seen, one with a dot two halves that are there. -/
theorem fieldName_present (named : NamesField entry.key entry.fieldName.field) :
    entry.fieldName.field ≠ "" ∧ entry.fieldName.relation ≠ some "" ∧
      (entry.fieldName.relation = none → Text.Visible entry.fieldName.field) := by
  generalize same : entry.fieldName.field = field at named
  cases named with
  | own dotless visible =>
      have path := Filter.relationPath?_eq_none_iff.mpr dotless
      have seen : Text.Visible (Text.lower entry.key) := Text.visible_lower_iff.mpr visible
      simp only [fieldName, path]
      exact ⟨seen.ne_empty, by simp, fun _ => seen⟩
  | @related relation _ cut last present stated =>
      have path := Filter.relationPath?_eq_some_iff.mpr ⟨cut, last⟩
      simp only [fieldName, path]
      refine ⟨stated, ?_, nofun⟩
      intro nothing
      have filled : relation.toList ≠ [] := by simpa using present
      apply Text.lowerAfter_ne_nil [] filled
      simpa [Text.lower] using nothing

theorem fieldName_visible_iff (named : NamesField entry.key entry.fieldName.field) :
    entry.fieldName.Visible ↔ ¬ entry.HasBlankHalf := by
  have seen := (fieldName_present named).2.2
  generalize same : entry.fieldName.field = field at named
  cases named with
  | own dotless _ =>
      have path := Filter.relationPath?_eq_none_iff.mpr dotless
      have whole : entry.fieldName.relation = none := by simp only [fieldName, path]
      constructor
      · rintro _ ⟨relation, field, cut, _⟩
        rw [cut] at dotless
        simp at dotless
      · intro _
        exact ⟨seen whole, by simp [whole]⟩
  | @related relation _ cut last present stated =>
      have path := Filter.relationPath?_eq_some_iff.mpr ⟨cut, last⟩
      have name : entry.fieldName = { relation := some (Text.lower relation), field } := by
        simp only [fieldName, path]
      rw [name]
      constructor
      · rintro visible ⟨other, rest, again, clear, blank⟩
        have unique := Filter.relationPath?_eq_some_iff.mpr ⟨again, clear⟩
        rw [path] at unique
        cases unique
        exact blank ⟨Text.visible_lower_iff.mp (visible.relation _ rfl), visible.field⟩
      · intro solid
        have both : Text.Visible relation ∧ Text.Visible field := by
          by_contra blank
          exact solid ⟨relation, field, cut, last, blank⟩
        refine ⟨both.2, ?_⟩
        intro lowered stands
        cases stands
        exact Text.visible_lower_iff.mpr both.1

end FilterEntry

theorem HavingTerm.readEntries_visible {settings : Settings} {directive : String}
    {entries : List (String × Json)} {terms : List HavingTerm}
    (accepted : HavingTerm.readEntries settings directive entries = .ok terms) :
    ∀ term ∈ terms, Text.Visible term.field := by
  induction entries generalizing terms with
  | nil =>
      cases accepted
      exact List.forall_mem_nil _
  | cons entry rest ih =>
      rcases entry with ⟨key, value⟩
      rw [readEntries] at accepted
      split at accepted
      · exact ih accepted
      split at accepted
      · contradiction
      · obtain ⟨field, column, accepted⟩ := bind_eq_ok_iff.mp accepted
        obtain ⟨predicates, _, accepted⟩ := bind_eq_ok_iff.mp accepted
        obtain ⟨others, tail, same⟩ := bind_eq_ok_iff.mp accepted
        obtain ⟨lowered, visible⟩ := Filter.columnName_ok column
        cases same
        refine List.forall_mem_append.mpr ⟨?_, ih tail⟩
        rw [List.forall_mem_map]
        intro predicate _
        rw [lowered]
        exact Text.visible_lower_iff.mpr (Filter.allBlank_eq_false_iff.mp visible)

/-- An accepted filter names what the keys of its entries stand for, one name for each entry. No
name is empty, and the fields of the records themselves can be seen, as can those of grouped
records; but a relation or the field of one is blank if and only if it is so in a key with a dot. -/
theorem Filter.names_visible_unless_half_blank (settings : Settings) (directive : String) :
    (∀ payload filters, Filter.read settings directive payload = .ok filters →
      let entries := FilterEntry.ofFilter settings payload
      Filter.listNames filters = entries.map FilterEntry.fieldName ∧
      (∀ name ∈ Filter.listNames filters, name.field ≠ "" ∧ name.relation ≠ some "" ∧
        (name.relation = none → Text.Visible name.field)) ∧
      ((∀ name ∈ Filter.listNames filters, name.Visible) ↔
        ∀ entry ∈ entries, ¬ entry.HasBlankHalf)) ∧
    ∀ payload terms, HavingTerm.read settings directive payload = .ok terms →
      ∀ term ∈ terms, Text.Visible term.field := by
  constructor
  · intro payload filters accepted entries
    have naming : FilterEntry.Naming entries (Filter.listNames filters) :=
      FilterEntry.readLevel_naming payload accepted
    refine ⟨naming.names_eq, ?_, ?_⟩
    · rw [naming.names_eq, List.forall_mem_map]
      intro entry member
      exact FilterEntry.fieldName_present (naming.named entry member)
    · rw [naming.names_eq, List.forall_mem_map]
      exact forall₂_congr fun entry member =>
        FilterEntry.fieldName_visible_iff (naming.named entry member)
  · intro payload terms accepted
    obtain ⟨entries, _, read⟩ := HavingTerm.read_ok accepted
    exact HavingTerm.readEntries_visible read

namespace Filter

def namedFilter : Json := .object [
  (" Age", .object [("gte", .whole 18), ("lt", .null)]),
  ("OR", .object [("posts.Author.Name", .string "ada"), ("Gone", .null), ("Mail", .bool true)])]

def namedFilters : List Filter := [
  .leaf " age" (.compare ">=" (.whole 18)),
  .group .or [
    .related "posts.author" "Name" (.compare "=" (.string "ada")),
    .leaf "mail" (.compare "=" (.bool true))]]

theorem named_filter_names_what_can_be_seen :
    Filter.read {} "where" namedFilter = .ok namedFilters ∧
    (∀ name ∈ Filter.listNames namedFilters, name.Visible) ∧
    (∀ entry ∈ FilterEntry.ofFilter {} namedFilter, ¬ entry.HasBlankHalf) ∧
    ∀ term ∈ [HavingTerm.mk "sum. " (.compare ">" (.whole 3))], Text.Visible term.field := by
  have accepted : Filter.read {} "where" namedFilter = .ok namedFilters := rfl
  have grouped : HavingTerm.read {} "having" (.object [("SUM. ", .object [("gt", .whole 3)])]) =
      .ok [⟨"sum. ", .compare ">" (.whole 3)⟩] := rfl
  have visible : ∀ name ∈ Filter.listNames namedFilters, name.Visible := by
    simp only [namedFilters, listNames, names, List.append_nil, List.cons_append, List.nil_append,
      List.forall_mem_cons, List.not_mem_nil, false_implies, implies_true, and_true]
    exact ⟨⟨by decide +kernel, nofun⟩, ⟨by decide +kernel, by rintro _ ⟨⟩; decide +kernel⟩,
      ⟨by decide +kernel, nofun⟩⟩
  obtain ⟨_, _, seen⟩ := (names_visible_unless_half_blank {} "where").1 _ _ accepted
  exact ⟨accepted, visible, seen.mp visible,
    (names_visible_unless_half_blank {} "having").2 _ _ grouped⟩

/-- A key that is blank is refused, but one with a blank half is read, and the query asks for a
table without a name. -/
theorem blank_half_is_accepted :
    let payload : Json := .object [(" .name", .whole 1)]
    let asked := (Query.entity "users").apply {} (.object [(Directive.filter, payload)])
    Filter.read {} "where" (.object [(" ", .whole 1)]) =
      .error (.invalidArgument "where" .blankField) ∧
    Filter.read {} "where" payload = .ok [.related " " "name" (.compare "=" (.whole 1))] ∧
    ¬ Text.Visible " " ∧ asked.failure = none ∧
    asked.query.sql = "SELECT * FROM users WHERE EXISTS (SELECT 1 FROM   WHERE name = 1)" := by
  intro payload asked
  exact ⟨rfl, rfl, by decide +kernel, Option.isNone_iff_eq_none.mp (by decide +kernel),
    by decide +kernel⟩

end Filter

end DeclarativeQuery
