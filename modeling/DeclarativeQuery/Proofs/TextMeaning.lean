import DeclarativeQuery.Proofs.OuterText

/-!
The meaning of a condition as a database reads its text. ORs cut it into terms and ANDs cut a term
into factors, except for the AND of a BETWEEN. Conditions without an OR of their own may be joined
by AND, and the whole then means that both hold.
-/

namespace DeclarativeQuery.Sql

def waits (waiting : Bool) (token : Token) : Bool :=
  if token.isWord "and" then false else waiting || token.isWord "between"

def factorsAfter (current : List Token) (waiting : Bool) : List Token → List (List Token)
  | [] => [current]
  | token :: rest =>
      if token.isWord "and" && !waiting then current :: factorsAfter [] false rest
      else factorsAfter (current ++ [token]) (waits waiting token) rest

def factors (term : List Token) : List (List Token) := factorsAfter [] false term

/-- AND binds tighter than OR; `truth` decides the rest. A text that leaves something open holds
never. -/
def holds (truth : List Token → Bool) (text : String) : Bool :=
  (tokens? text).any fun tokens =>
    (tokens.splitOnP fun token => token.isWord "or").any fun term => (factors term).all truth

def isSettled (text : String) : Bool :=
  (tokens? text).any fun tokens => !tokens.foldl waits false

theorem factorsAfter_append {waiting : Bool} {tokens : List Token}
    (settled : tokens.foldl waits waiting = false) {keyword : Token}
    (and : keyword.isWord "and" = true) (current rest : List Token) :
    factorsAfter current waiting (tokens ++ keyword :: rest) =
      factorsAfter current waiting tokens ++ factors rest := by
  induction tokens generalizing current waiting with
  | nil =>
      have free : waiting = false := settled
      simp [factorsAfter, and, free, factors]
  | cons token tokens ih =>
      simp only [List.foldl_cons] at settled
      simp only [List.cons_append, factorsAfter]
      split
      -- no BETWEEN waits behind the end of a factor; within one the same is still to come
      next ends =>
        simp only [Bool.and_eq_true, Bool.not_eq_true'] at ends
        have free : waits waiting token = false := by simp [waits, ends.1]
        rw [free] at settled
        rw [ih settled, List.cons_append]
      · exact ih settled _

theorem holds_of_bare {text : String} {tokens : List Token} (read : tokens? text = some tokens)
    (bare : isBare text = true) (truth : List Token → Bool) :
    holds truth text = (factors tokens).all truth := by
  obtain ⟨same, reread, each⟩ := madeOf_iff.mp bare
  cases read.symm.trans reread
  have single : tokens.splitOnP (fun token => token.isWord "or") = [tokens] := by
    apply List.splitOnP_eq_singleton
    simpa using each
  simp [holds, read, single]

theorem tokens?_joined {first second : String} {before after : List Token}
    (read : tokens? first = some before) (onward : tokens? second = some after) :
    tokens? (first ++ " AND " ++ second) = some (before ++ .word ['A', 'N', 'D'] :: after) := by
  have keyword : tokens? " AND" = some [.word ['A', 'N', 'D']] := rfl
  have cut : first ++ " AND " ++ second = first ++ (" AND" ++ (" " ++ second)) :=
    String.toList_inj.mp (by simp)
  have behind : breaks (" AND" ++ (" " ++ second)) = true := by simp [breaks, isLetter]
  rw [cut, tokens?_append read behind, tokens?_append keyword (breaks_space second),
    tokens?_space, onward]
  rfl

/-- Conditions without OR may be joined by AND. -/
theorem holds_joined {first second : String} (bare : isBare first = true)
    (settled : isSettled first = true) (other : isBare second = true)
    (truth : List Token → Bool) :
    holds truth (first ++ " AND " ++ second) = (holds truth first && holds truth second) := by
  obtain ⟨before, read, each⟩ := madeOf_iff.mp bare
  obtain ⟨after, onward, eachAfter⟩ := madeOf_iff.mp other
  have waitless : before.foldl waits false = false := by
    simpa [isSettled, read] using settled
  have joined := tokens?_joined read onward
  have joinedBare : isBare (first ++ " AND " ++ second) = true := by
    refine madeOf_iff.mpr ⟨_, joined, ?_⟩
    rw [List.all_append, List.all_cons, each, eachAfter]
    rfl
  rw [holds_of_bare joined joinedBare, holds_of_bare read bare, holds_of_bare onward other,
    factors, factorsAfter_append waitless rfl, List.all_append]
  rfl

end DeclarativeQuery.Sql
