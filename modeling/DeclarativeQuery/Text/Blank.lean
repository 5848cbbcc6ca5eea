/-!
White space is the Unicode property White_Space: twenty-five characters. Trimming and the cut into
words go by it. Everything is defined on lists of characters and lifted to strings.
-/

namespace DeclarativeQuery.Text

def isBlank (c : Char) : Bool :=
  let code := c.toNat
  (0x9 ≤ code && code ≤ 0xd) || code == 0x20 || code == 0x85 || code == 0xa0 || code == 0x1680 ||
    (0x2000 ≤ code && code ≤ 0x200a) || code == 0x2028 || code == 0x2029 || code == 0x202f ||
    code == 0x205f || code == 0x3000

def trimStart (text : List Char) : List Char := text.dropWhile isBlank

def trimEnd (text : List Char) : List Char := (text.reverse.dropWhile isBlank).reverse

def trim (text : List Char) : List Char := trimEnd (trimStart text)

def trimmed (text : String) : String := String.ofList (trim text.toList)

def allBlank (text : String) : Bool := text.toList.all isBlank

def words (text : List Char) : List (List Char) :=
  (text.splitOnP isBlank).filter fun word => !word.isEmpty

def cutLast (p : Char → Bool) : List Char → Option (List Char × List Char)
  | [] => none
  | c :: rest =>
      match cutLast p rest with
      | some (before, after) => some (c :: before, after)
      | none => if p c then some ([], rest) else none

theorem cutLast_eq_none_iff (p : Char → Bool) (text : List Char) :
    cutLast p text = none ↔ ∀ c ∈ text, p c = false := by
  induction text with
  | nil => simp [cutLast]
  | cons c rest ih =>
      cases tail : cutLast p rest with
      | none =>
          have clear := ih.1 tail
          simp only [cutLast, tail, List.mem_cons, forall_eq_or_imp]
          by_cases hit : p c = true
          · simp [hit]
          · simpa [hit] using clear
      | some cut =>
          have hit : ¬ ∀ c ∈ rest, p c = false := fun clear => by simp [ih.2 clear] at tail
          simp [cutLast, tail]
          intro _
          simpa using hit

/-- The two parts and the separator between them make up the text, and the second part has no
separator of its own. -/
theorem cutLast_eq_some {p : Char → Bool} {text before after : List Char}
    (cut : cutLast p text = some (before, after)) :
    ∃ c, p c = true ∧ text = before ++ c :: after ∧ ∀ d ∈ after, p d = false := by
  induction text generalizing before with
  | nil => simp [cutLast] at cut
  | cons c rest ih =>
      cases tail : cutLast p rest with
      | none =>
          have clear := (cutLast_eq_none_iff p rest).1 tail
          by_cases hit : p c = true
          · simp [cutLast, tail, hit] at cut
            obtain ⟨rfl, rfl⟩ := cut
            exact ⟨c, hit, rfl, clear⟩
          · simp [cutLast, tail, hit] at cut
      | some parts =>
          obtain ⟨head, last⟩ := parts
          simp [cutLast, tail] at cut
          obtain ⟨rfl, rfl⟩ := cut
          obtain ⟨d, hit, whole, clear⟩ := ih tail
          exact ⟨d, hit, by simp [whole], clear⟩

theorem cutLast_append {p : Char → Bool} {c : Char} (before : List Char) {after : List Char}
    (hit : p c = true) (clear : ∀ d ∈ after, p d = false) :
    cutLast p (before ++ c :: after) = some (before, after) := by
  induction before with
  | nil =>
      have uncut := (cutLast_eq_none_iff p after).2 clear
      simp [cutLast, uncut, hit]
  | cons first rest ih => simp [cutLast, ih]

end DeclarativeQuery.Text
