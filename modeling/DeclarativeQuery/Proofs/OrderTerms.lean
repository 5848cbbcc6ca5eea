import DeclarativeQuery.Description.Payload
import DeclarativeQuery.Proofs.Sequencing
import DeclarativeQuery.Proofs.TrimmedText

/-!
Sort keys, written down and read. A field and a direction are the same sort key in one text and in
an object. Whatever is read has a field without blanks at its ends and in lower case, so that it is
read again from the text of a query and from what is stored of it.
-/

namespace DeclarativeQuery

namespace Direction

variable {keyword : String} {direction : Direction}

theorem ofKeyword?_of_spelled
    (spelled : Text.equalIgnoringCase keyword direction.word = true) :
    ofKeyword? keyword = some direction := by
  rw [ofKeyword?, Text.equalIgnoringCase_left spelled, Text.equalIgnoringCase_left spelled]
  cases direction <;> rfl

theorem mem_of_spelled (spelled : Text.equalIgnoringCase keyword direction.word = true) {c : Char}
    (member : c ∈ keyword.toList) : c.toLower ∈ direction.word.toList.map Char.toLower := by
  rw [← Text.map_toLower_congr spelled]
  exact List.mem_map_of_mem member

theorem solid_of_spelled (spelled : Text.equalIgnoringCase keyword direction.word = true) :
    ∀ c ∈ keyword.toList, Text.isBlank c = false := by
  intro c member
  have letter := mem_of_spelled spelled member
  have letters : (direction.word.toList.map Char.toLower).all (!Text.isBlank ·) = true := by
    cases direction <;> rfl
  rw [← Text.isBlank_toLower]
  simpa using List.all_eq_true.mp letters _ letter

theorem trimmed_of_spelled (spelled : Text.equalIgnoringCase keyword direction.word = true) :
    Text.Trimmed keyword.toList :=
  Text.trimmed_of_solid (solid_of_spelled spelled)

theorem filled_of_spelled (spelled : Text.equalIgnoringCase keyword direction.word = true) :
    keyword.toList ≠ [] := by
  intro nothing
  have same := Text.map_toLower_congr spelled
  rw [nothing, List.map_nil, eq_comm, List.map_eq_nil_iff] at same
  have filled : direction.word.toList ≠ [] := by
    cases direction <;> decide
  exact filled same

end Direction

namespace OrderTerm

/-! A term written as text -/

section
variable {field gap keyword : String} {direction : Direction}

theorem cutDirection_spaced (spelled : Text.equalIgnoringCase keyword direction.word = true)
    (field : List Char) {gap : List Char} (apart : gap ≠ [])
    (blank : ∀ c ∈ gap, Text.isBlank c = true) :
    cutDirection (field ++ (gap ++ keyword.toList)) = (Text.trimEnd field, direction) := by
  obtain ⟨front, last, rfl⟩ := (List.eq_nil_or_concat' gap).resolve_left apart
  obtain ⟨before, final⟩ := List.forall_mem_append.mp blank
  -- the keyword has no blank, so the last one of the gap is where the term is cut
  have cut : Text.cutLast Text.isBlank (field ++ (front ++ [last] ++ keyword.toList)) =
      some (field ++ front, keyword.toList) := by
    have found := Text.cutLast_append (field ++ front) (final last List.mem_cons_self)
      (Direction.solid_of_spelled spelled)
    simpa using found
  rw [cutDirection, cut]
  simp only [String.ofList_toList, Direction.ofKeyword?_of_spelled spelled,
    Text.trimEnd_append_of_blank field before]

theorem trim_spaced (spelled : Text.equalIgnoringCase keyword direction.word = true)
    {field : List Char} (solid : field.all Text.isBlank = false) (gap : List Char) :
    Text.trim (field ++ (gap ++ keyword.toList)) =
      Text.trimStart field ++ (gap ++ keyword.toList) := by
  rw [Text.trim, Text.trimStart_append solid]
  apply Text.trimEnd_of_last
  intro c last
  have filled := Direction.filled_of_spelled spelled
  rw [← List.append_assoc, List.getLast?_append_of_ne_nil _ filled] at last
  exact Direction.solid_of_spelled spelled c (List.mem_of_mem_getLast? last)

theorem ofText_spaced (solid : Text.allBlank field = false) (apart : gap ≠ "")
    (blank : Text.allBlank gap = true)
    (spelled : Text.equalIgnoringCase keyword direction.word = true) :
    ofText (field ++ gap ++ keyword) = .ok ⟨Text.lower (Text.trimmed field), direction⟩ := by
  have characters : (field ++ gap ++ keyword).toList =
      field.toList ++ (gap.toList ++ keyword.toList) := by simp
  have filled : Text.trimStart field.toList ++ (gap.toList ++ keyword.toList) ≠ [] := by
    simp [Direction.filled_of_spelled spelled]
  have cut := @cutDirection_spaced keyword direction spelled (Text.trimStart field.toList)
    gap.toList (by simpa using apart) (List.all_eq_true.mp blank)
  simp only [ofText, characters, trim_spaced spelled solid, List.isEmpty_eq_false_iff.mpr filled,
    cut, Bool.false_eq_true, ↓reduceIte]
  rfl

/-- The same as an object. -/
theorem ofEntries_given {entries : List (String × Json)} (solid : Text.allBlank field = false)
    (spelled : Text.equalIgnoringCase keyword direction.word = true)
    (fieldGiven : entries.lookup "field" = some (.string field))
    (directionGiven : entries.lookup "direction" = some (.string keyword)) :
    ofEntries entries = .ok ⟨Text.lower (Text.trimmed field), direction⟩ := by
  have named : (Text.trimmed field).isEmpty = false := by
    rw [String.isEmpty_eq_false_iff, Ne, ← Text.allBlank_eq_true_iff, solid]
    exact Bool.false_ne_true
  have clear : Text.trimmed keyword = keyword := by
    rw [Text.trimmed, (Direction.trimmed_of_spelled spelled).trim_eq, String.ofList_toList]
  simp only [ofEntries, fieldGiven, directionGiven, named, readDirection, clear,
    Direction.ofKeyword?_of_spelled spelled, Bool.false_eq_true, ↓reduceIte]
  rfl

end

/-! What is read -/

structure Settled (term : OrderTerm) : Prop where
  filled : term.field ≠ ""
  trimmed : Text.trimmed term.field = term.field
  lowered : Text.lower term.field = term.field

theorem settled_lower {field : List Char} (filled : field ≠ []) (trimmed : Text.Trimmed field)
    (direction : Direction) : Settled ⟨Text.lower (String.ofList field), direction⟩ where
  filled := by
    have kept := Text.lowerAfter_ne_nil [] filled
    simpa [Text.lower] using kept
  trimmed := by
    have kept := (trimmed.lowerAfter []).trim_eq
    simp [Text.trimmed, Text.lower, kept]
  lowered := Text.lower_lower _

theorem cutDirection_settled {term : List Char} (filled : term ≠ []) (trimmed : Text.Trimmed term) :
    (cutDirection term).1 ≠ [] ∧ Text.Trimmed (cutDirection term).1 := by
  unfold cutDirection
  split
  next head tail cut =>
    split
    next direction keyword =>
      obtain ⟨c, blank, whole, _⟩ := Text.cutLast_eq_some cut
      cases head with
      | nil =>
          -- a trimmed term does not begin with the blank that it is cut at
          rw [trimmed.first c (by simp [whole])] at blank
          contradiction
      | cons d rest =>
          have first : Text.isBlank d = false := trimmed.first d (by simp [whole])
          have begins : Text.trimStart (d :: rest) = d :: rest :=
            Text.trimStart_of_first (by simpa using first)
          have same : Text.trimEnd (d :: rest) = Text.trim (d :: rest) := by
            rw [Text.trim, begins]
          rw [same]
          refine ⟨?_, Text.trimmed_trim _⟩
          intro nothing
          have blank := Text.trim_eq_nil_iff.mp nothing d List.mem_cons_self
          rw [first] at blank
          contradiction
    next => exact ⟨filled, trimmed⟩
  next => exact ⟨filled, trimmed⟩

theorem ofText_settled {text : String} {term : OrderTerm} (read : ofText text = .ok term) :
    Settled term := by
  simp only [ofText] at read
  split at read
  · contradiction
  next filled =>
    rw [← Except.ok.inj read]
    have solid : Text.trim text.toList ≠ [] := by simpa using filled
    obtain ⟨kept, trimmed⟩ := cutDirection_settled solid (Text.trimmed_trim _)
    exact settled_lower kept trimmed _

theorem ofEntries_settled {entries : List (String × Json)} {term : OrderTerm}
    (read : ofEntries entries = .ok term) : Settled term := by
  unfold ofEntries at read
  split at read
  next text found =>
    simp only at read
    split at read
    · simp [invalid] at read
    next filled =>
      obtain ⟨direction, _, same⟩ := bind_eq_ok_iff.mp read
      rw [← Except.ok.inj same]
      have solid : Text.trim text.toList ≠ [] := by simpa [Text.trimmed] using filled
      exact settled_lower solid (Text.trimmed_trim _) direction
  next => contradiction

theorem read_settled {payload : Json} {term : OrderTerm} (accepted : read payload = .ok term) :
    Settled term := by
  cases payload with
  | string text => exact ofText_settled accepted
  | object entries => exact ofEntries_settled accepted
  | _ => contradiction

theorem readList_settled {payload : Json} {terms : List OrderTerm}
    (accepted : readList payload = .ok terms) : ∀ term ∈ terms, Settled term := by
  intro term member
  unfold readList at accepted
  split at accepted
  next items =>
    obtain ⟨item, _, read⟩ := mapM_ok_mem accepted member
    exact read_settled read
  next =>
    obtain ⟨single, read, same⟩ := bind_eq_ok_iff.mp accepted
    cases same
    rw [List.mem_singleton.mp member]
    exact read_settled read

/-! Reading what was written -/

theorem Settled.solid {term : OrderTerm} (settled : Settled term) :
    Text.allBlank term.field = false := by
  rw [← Bool.not_eq_true, Text.allBlank_eq_true_iff, settled.trimmed]
  exact settled.filled

theorem Settled.field_eq {term : OrderTerm} (settled : Settled term) :
    Text.lower (Text.trimmed term.field) = term.field := by
  rw [settled.trimmed, settled.lowered]

theorem ofText_sql {term : OrderTerm} (settled : Settled term) : ofText term.sql = .ok term := by
  have spelled : Text.equalIgnoringCase term.direction.sql term.direction.word = true := by
    cases term.direction <;> decide
  have apart : (" " : String) ≠ "" := by decide
  have read := ofText_spaced settled.solid apart (by decide) spelled
  rwa [settled.field_eq] at read

theorem readList_toStored {term : OrderTerm} (settled : Settled term) :
    readList term.toStored = .ok [term] := by
  have spelled : Text.equalIgnoringCase term.direction.word term.direction.word = true := by
    cases term.direction <;> decide
  let entries : List (String × Json) :=
    [("field", .string term.field), ("direction", .string term.direction.word)]
  have stored : ofEntries entries = .ok ⟨Text.lower (Text.trimmed term.field), term.direction⟩ :=
    ofEntries_given settled.solid spelled rfl rfl
  rw [settled.field_eq] at stored
  rw [toStored, Direction.toStored, readList, read, stored]
  · rfl
  · simp

/-- A field with a direction behind it in one text is read as the object that gives the two. Every
term that is read, from whatever payload, is settled, and is read again from the text that a query
lists and from the value that is stored. -/
theorem order_terms_agree_and_round_trip :
    (∀ (field gap keyword : String) (direction : Direction) (entries : List (String × Json)),
      Text.allBlank field = false → gap ≠ "" → Text.allBlank gap = true →
      Text.equalIgnoringCase keyword direction.word = true →
      entries.lookup "field" = some (.string field) →
      entries.lookup "direction" = some (.string keyword) →
      let term : OrderTerm := ⟨Text.lower (Text.trimmed field), direction⟩
      ofText (field ++ gap ++ keyword) = .ok term ∧ read (.object entries) = .ok term) ∧
    ∀ payload terms, readList payload = .ok terms → ∀ term ∈ terms,
      Settled term ∧ ofText term.sql = .ok term ∧ readList term.toStored = .ok [term] := by
  constructor
  · intro field gap keyword direction entries solid apart blank spelled fieldGiven directionGiven
    exact ⟨ofText_spaced solid apart blank spelled,
      ofEntries_given solid spelled fieldGiven directionGiven⟩
  · intro payload terms accepted term member
    have settled := readList_settled accepted term member
    exact ⟨settled, ofText_sql settled, readList_toStored settled⟩

/-- The field ends in a word for the other direction, and the gap has no plain space. -/
theorem field_ending_in_direction_round_trips :
    let field := "\u2003 Due Asc"
    let gap := "\t\u3000"
    let entries : List (String × Json) :=
      [("field", .string field), ("direction", .string "DeSC")]
    let term : OrderTerm := ⟨"due asc", .desc⟩
    Text.allBlank field = false ∧ gap ≠ "" ∧ Text.allBlank gap = true ∧
    Text.equalIgnoringCase "DeSC" Direction.desc.word = true ∧
    ofText (field ++ gap ++ "DeSC") = .ok term ∧ read (.object entries) = .ok term ∧
    readList (.array [.object entries]) = .ok [term] ∧
    term.sql = "due asc DESC" ∧ ofText term.sql = .ok term ∧
    readList term.toStored = .ok [term] := by
  intro field gap entries term
  have solid : Text.allBlank field = false := by decide
  have apart : gap ≠ "" := by decide
  have blank : Text.allBlank gap = true := by decide
  have spelled : Text.equalIgnoringCase "DeSC" Direction.desc.word = true := by decide
  have settles : Text.lower (Text.trimmed field) = "due asc" := by decide +kernel
  obtain ⟨agree, returns⟩ := order_terms_agree_and_round_trip
  obtain ⟨text, object⟩ := agree field gap "DeSC" .desc entries solid apart blank spelled rfl rfl
  rw [settles] at text object
  have listed : readList (.array [.object entries]) = .ok [term] := by
    rw [readList, List.mapM_cons, object]
    rfl
  obtain ⟨_, again, stored⟩ := returns _ _ listed term List.mem_cons_self
  exact ⟨solid, apart, blank, spelled, text, object, listed, by decide, again, stored⟩

end OrderTerm

end DeclarativeQuery
