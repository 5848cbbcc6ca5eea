import DeclarativeQuery.Proofs.FilterReading

/-!
How deep a filter goes, and what its reading depends on. A filter takes one level for each group on
the longest way into it, and one for the mapping itself. Where there are that many, neither the
limit nor the directive has a say in what is read.
-/

namespace DeclarativeQuery

theorem Settings.groupKey?_congr {first second : Settings}
    (same : first.literalColumns = second.literalColumns) :
    first.groupKey? = second.groupKey? := by
  funext key
  unfold groupKey? isLiteralColumn
  rw [same]

namespace Filter

mutual

/-- The number of groups on the longest way into the filter. A group counts even if it is empty. -/
def groupDepth : Filter → Nat
  | .group _ filters => listGroupDepth filters + 1
  | .leaf _ _ => 0
  | .related _ _ _ => 0
termination_by structural filter => filter

def listGroupDepth : List Filter → Nat
  | [] => 0
  | filter :: rest => max filter.groupDepth (listGroupDepth rest)
termination_by structural filters => filters

end

theorem listGroupDepth_append (first second : List Filter) :
    listGroupDepth (first ++ second) = max (listGroupDepth first) (listGroupDepth second) := by
  induction first with
  | nil => simp [listGroupDepth]
  | cons filter rest ih => rw [List.cons_append, listGroupDepth, ih, listGroupDepth, Nat.max_assoc]

theorem listGroupDepth_map {build : Predicate → Filter}
    (flat : ∀ predicate, (build predicate).groupDepth = 0) (predicates : List Predicate) :
    listGroupDepth (predicates.map build) = 0 := by
  induction predicates with
  | nil => rfl
  | cons predicate rest ih => rw [List.map_cons, listGroupDepth, flat, ih, Nat.max_self]

variable {settings other : Settings} {directive : String}

theorem readField_depth {key : String} {value : Json} {filters : List Filter}
    (accepted : readField directive key value = .ok filters) : listGroupDepth filters = 0 := by
  rcases readField_ok accepted with
    ⟨_, _, predicates, _, same⟩ | ⟨relation, field, _, _, _, predicates, _, same⟩
  · rw [same]
    exact listGroupDepth_map (fun _ => rfl) predicates
  · rw [same]
    exact listGroupDepth_map (fun _ => rfl) predicates

mutual

/-- What was read took no more levels than there were. -/
theorem readLevel_depth : ∀ (payload : Json) {room : Nat} {filters : List Filter},
    readLevel settings directive room payload = .ok filters → listGroupDepth filters < room
  | .object entries, room, filters, accepted => by
      obtain ⟨read, below, same, deep, inside⟩ := readLevel_ok accepted
      cases same
      have fits := readEntries_depth entries inside
      omega
  | .null, _, _, accepted | .bool _, _, _, accepted | .number _, _, _, accepted
  | .string _, _, _, accepted | .array _, _, _, accepted => by
      obtain ⟨_, _, same, _⟩ := readLevel_ok accepted
      cases same
termination_by structural payload => payload

theorem readEntries_depth : ∀ (entries : List (String × Json)) {room : Nat}
    {filters : List Filter}, readEntries settings directive room entries = .ok filters →
    listGroupDepth filters ≤ room
  | [], _, _, accepted => by
      cases accepted
      exact Nat.zero_le _
  | (key, value) :: rest, room, filters, accepted => by
      obtain ⟨first, others, head, tail, same⟩ := readEntries_cons_ok accepted
      have onward := readEntries_depth rest tail
      have entry : listGroupDepth first ≤ room := by
        rcases readEntry_ok head with
          ⟨_, none⟩ | ⟨connective, members, _, _, inside, one⟩ | ⟨_, _, read⟩
        · rw [none]
          exact Nat.zero_le _
        · have deeper := readLevel_depth value inside
          rw [one, listGroupDepth, groupDepth, listGroupDepth]
          omega
        · rw [readField_depth read]
          exact Nat.zero_le _
      rw [same, listGroupDepth_append]
      omega
termination_by structural entries => entries

end

mutual

/-- What was read once is read again wherever there are enough levels for it. -/
theorem readLevel_elsewhere (columns : settings.literalColumns = other.literalColumns) :
    ∀ (payload : Json) {room : Nat} {filters : List Filter},
    readLevel settings directive room payload = .ok filters →
    ∀ (name : String) {more : Nat}, listGroupDepth filters < more →
    readLevel other name more payload = .ok filters
  | .object entries, room, filters, accepted, name, more, fits => by
      obtain ⟨read, below, same, _, inside⟩ := readLevel_ok accepted
      cases same
      cases more with
      | zero => contradiction
      | succ more =>
          exact readEntries_elsewhere columns entries inside name (Nat.le_of_lt_succ fits)
  | .null, _, _, accepted, _, _, _ | .bool _, _, _, accepted, _, _, _
  | .number _, _, _, accepted, _, _, _ | .string _, _, _, accepted, _, _, _
  | .array _, _, _, accepted, _, _, _ => by
      obtain ⟨_, _, same, _⟩ := readLevel_ok accepted
      cases same
termination_by structural payload => payload

theorem readEntries_elsewhere (columns : settings.literalColumns = other.literalColumns) :
    ∀ (entries : List (String × Json)) {room : Nat} {filters : List Filter},
    readEntries settings directive room entries = .ok filters →
    ∀ (name : String) {more : Nat}, listGroupDepth filters ≤ more →
    readEntries other name more entries = .ok filters
  | [], _, _, accepted, _, _, _ => accepted
  | (key, value) :: rest, room, filters, accepted, name, more, fits => by
      obtain ⟨first, others, head, tail, same⟩ := readEntries_cons_ok accepted
      rw [same, listGroupDepth_append] at fits
      obtain ⟨headFits, tailFits⟩ := Nat.max_le.mp fits
      have onward := readEntries_elsewhere columns rest tail name tailFits
      have entry : readEntry other name more key value = .ok first := by
        rcases readEntry_ok head with
          ⟨null, none⟩ | ⟨connective, members, group, object, inside, one⟩ | ⟨field, some, read⟩
        · rw [null, none]
          rfl
        · have room : listGroupDepth members < more := by
            rw [one, listGroupDepth, groupDepth] at headFits
            omega
          rw [Settings.groupKey?_congr columns] at group
          rw [one]
          exact readEntry_group group object (readLevel_elsewhere columns value inside name room)
        · rw [Settings.groupKey?_congr columns] at field
          rw [readEntry_field field some]
          exact readField_under read name
      rw [readEntries_cons, entry, onward, same]
      rfl
termination_by structural entries => entries

end

theorem read_elsewhere {payload : Json} {filters : List Filter}
    (accepted : read settings directive payload = .ok filters) (other : Settings)
    (columns : settings.literalColumns = other.literalColumns)
    (fits : listGroupDepth filters < other.maxNestingDepth) (name : String) :
    read other name payload = .ok filters :=
  readLevel_elsewhere columns payload accepted name fits

/-- What is accepted under one directive is accepted under any other, as the same filter. -/
theorem read_under {payload : Json} {filters : List Filter}
    (accepted : read settings directive payload = .ok filters) (name : String) :
    read settings name payload = .ok filters :=
  read_elsewhere accepted settings rfl (readLevel_depth payload accepted) name

end Filter

end DeclarativeQuery
