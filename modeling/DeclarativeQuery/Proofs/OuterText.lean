import DeclarativeQuery.Proofs.QuoteFreeText

/-!
Query text as a database reads it, as far as parentheses go. Words, literals and parts in
parentheses are tokens, and what stands inside parentheses has no say outside of them. A word goes
on with the next letter, so texts are read part by part only where the next part starts with
something else.
-/

namespace DeclarativeQuery.Sql

inductive Token where
  | word (letters : List Char)
  | mark (c : Char)
  | literal (text : List Char)
  /-- A part in parentheses. -/
  | enclosed (inside : List Lexeme)

def isLetter (c : Char) : Bool := c.isAlphanum || c = '_' || 0x80 ≤ c.toNat

def Lexeme.isLetter : Lexeme → Bool
  | .plain c => Sql.isLetter c
  | .literal _ => false

def wordOf (letters : List Char) : List Token :=
  if letters.isEmpty then [] else [.word letters]

def markOf (c : Char) : List Token := if c.isWhitespace then [] else [.mark c]

inductive Level where
  /-- Behind these letters of a word. -/
  | outside (letters : List Char)
  /-- In parentheses, behind this part of what they enclose; it has opened `depth` more. -/
  | inside (depth : Nat) (seen : List Lexeme)

namespace Level

def opened : Level → Nat
  | .outside _ => 0
  | .inside depth _ => depth + 1

/-- The tokens that the lexeme ends, and the level behind it; none behind a parenthesis that nothing
opened. -/
def step : Level → Lexeme → Option (List Token × Level)
  | .outside letters, .literal text => some (wordOf letters ++ [.literal text], .outside [])
  | .outside letters, .plain c =>
      if isLetter c then some ([], .outside (letters ++ [c]))
      else if c = ')' then none
      else if c = '(' then some (wordOf letters, .inside 0 [])
      else some (wordOf letters ++ markOf c, .outside [])
  | .inside depth seen, .literal text => some ([], .inside depth (seen ++ [.literal text]))
  | .inside depth seen, .plain c =>
      if c = '(' then some ([], .inside (depth + 1) (seen ++ [.plain c]))
      else if c = ')' then
        match depth with
        | 0 => some ([.enclosed seen], .outside [])
        | depth + 1 => some ([], .inside depth (seen ++ [.plain c]))
      else some ([], .inside depth (seen ++ [.plain c]))

theorem step_letters (letters : List Char) {lexeme : Lexeme} (other : lexeme.isLetter = false) :
    (outside letters).step lexeme =
      ((outside []).step lexeme).map fun (tokens, next) => (wordOf letters ++ tokens, next) := by
  cases lexeme with
  | literal text => rfl
  | plain c =>
      rw [Lexeme.isLetter] at other
      simp only [step, other, Bool.false_eq_true, ↓reduceIte]
      split
      · rfl
      · split <;> simp [wordOf]

/-- What is read anywhere may be read further inside, where it ends no token. -/
theorem step_deeper {level next : Level} {lexeme : Lexeme} {tokens : List Token}
    (read : level.step lexeme = some (tokens, next)) (depth : Nat) (seen : List Lexeme) :
    (inside (depth + level.opened) seen).step lexeme =
      some ([], inside (depth + next.opened) (seen ++ [lexeme])) := by
  cases lexeme with
  | literal text => cases level <;> cases read <;> rfl
  | plain c =>
      cases level with
      | outside letters =>
          simp only [step] at read
          split at read
          next letter =>
            -- a letter is neither of the parentheses
            cases read
            have opens : c ≠ '(' := fun same => absurd letter (same ▸ by decide)
            have closes : c ≠ ')' := fun same => absurd letter (same ▸ by decide)
            simp [step, opens, closes, opened]
          · split at read
            · contradiction
            next closes =>
              split at read <;> cases read
              next opens => simp [step, opens, opened]
              next opens => simp [step, opens, closes, opened]
      | inside more before =>
          simp only [step] at read
          split at read
          next opens =>
            cases read
            simp [step, opens, opened, Nat.add_assoc]
          next opens =>
            split at read
            next closes =>
              cases more <;> cases read <;> simp [step, closes, opened, ← Nat.add_assoc]
            next closes =>
              cases read
              simp [step, opens, closes, opened]

def finish : Level → Option (List Token)
  | .outside letters => some (wordOf letters)
  | .inside _ _ => none

end Level

def tokensFrom : Level → List Lexeme → Option (List Token)
  | level, [] => level.finish
  | level, lexeme :: rest =>
      (level.step lexeme).bind fun (tokens, next) => (tokensFrom next rest).map (tokens ++ ·)
termination_by structural _ lexemes => lexemes

def tokens? (text : String) : Option (List Token) :=
  (lexemes? text).bind (tokensFrom (.outside []))

/-! Reading a text part by part. -/

theorem tokensFrom_cons {level : Level} {lexeme : Lexeme} {rest : List Lexeme}
    {tokens : List Token} :
    tokensFrom level (lexeme :: rest) = some tokens ↔
      ∃ before next after, level.step lexeme = some (before, next) ∧
        tokensFrom next rest = some after ∧ before ++ after = tokens := by
  simp [tokensFrom, Option.bind_eq_some_iff]

theorem tokensFrom_letters (letters : List Char) {lexemes : List Lexeme}
    (breaks : lexemes.head?.all (!·.isLetter) = true) :
    tokensFrom (.outside letters) lexemes =
      (tokensFrom (.outside []) lexemes).map (wordOf letters ++ ·) := by
  cases lexemes with
  | nil => simp [tokensFrom, Level.finish, wordOf]
  | cons lexeme rest =>
      have other : lexeme.isLetter = false := by simpa using breaks
      simp only [tokensFrom, Level.step_letters letters other]
      cases (Level.outside []).step lexeme with
      | none => rfl
      | some cut => simp [Function.comp_def]

/-- A part is read by itself if the rest does not go on with its last word. -/
theorem tokensFrom_append {level : Level} {part rest : List Lexeme} {tokens : List Token}
    (read : tokensFrom level part = some tokens)
    (breaks : rest.head?.all (!·.isLetter) = true) :
    tokensFrom level (part ++ rest) = (tokensFrom (.outside []) rest).map (tokens ++ ·) := by
  induction part generalizing level tokens with
  | nil =>
      -- letters at the end of the part are a word only because the rest starts with none
      cases level with
      | outside letters =>
          cases read
          exact tokensFrom_letters letters breaks
      | inside depth seen => contradiction
  | cons lexeme part ih =>
      obtain ⟨before, next, after, stepped, onward, rfl⟩ := tokensFrom_cons.mp read
      simp [tokensFrom, stepped, ih onward, Function.comp_def]

/-- A part that matches its parentheses leads out of none around it. -/
theorem tokensFrom_deeper {level : Level} {part : List Lexeme} {tokens : List Token}
    (read : tokensFrom level part = some tokens) (depth : Nat) (seen rest : List Lexeme) :
    tokensFrom (.inside (depth + level.opened) seen) (part ++ rest) =
      tokensFrom (.inside depth (seen ++ part)) rest := by
  induction part generalizing level tokens seen with
  | nil =>
      cases level with
      | outside letters => simp [Level.opened]
      | inside more before => contradiction
  | cons lexeme part ih =>
      -- the two readings keep the distance of their depths
      obtain ⟨before, next, after, stepped, onward, _⟩ := tokensFrom_cons.mp read
      have deeper := Level.step_deeper stepped depth seen
      simp [tokensFrom, deeper, ih onward]

theorem tokensFrom_enclosed {part : List Lexeme} {tokens : List Token}
    (read : tokensFrom (.outside []) part = some tokens) (rest : List Lexeme) :
    tokensFrom (.outside []) (.plain '(' :: (part ++ .plain ')' :: rest)) =
      (tokensFrom (.outside []) rest).map (.enclosed part :: ·) := by
  calc tokensFrom (.outside []) (.plain '(' :: (part ++ .plain ')' :: rest))
      = tokensFrom (.inside 0 []) (part ++ .plain ')' :: rest) := by
        simp [tokensFrom, Level.step, isLetter, wordOf]
    _ = tokensFrom (.inside 0 part) (.plain ')' :: rest) :=
        tokensFrom_deeper read 0 [] _
    _ = (tokensFrom (.outside []) rest).map (.enclosed part :: ·) := by
        simp [tokensFrom, Level.step]

/-- The text does not go on with a word or a literal before it. -/
def breaks (text : String) : Bool := text.toList.head?.all fun c => !isLetter c && c != '\''

theorem scan_append {place : Place} {part rest : List Char} {lexemes : List Lexeme}
    (read : scan place part = some lexemes) (apart : Apart rest) :
    scan place (part ++ rest) = (scan .outside rest).map (lexemes ++ ·) := by
  induction part generalizing place lexemes with
  | nil =>
      cases place with
      | outside => cases read; simp
      | inside text => contradiction
      | closing text => cases read; exact scan_closing text apart
  | cons c part ih =>
      -- a quote only leads to another place; elsewhere a lexeme may come before the rest
      cases place with
      | outside =>
          by_cases quote : c = '\''
          · simp only [scan, quote, ↓reduceIte] at read ⊢
            exact ih read
          · simp only [List.cons_append, scan, quote, ↓reduceIte] at read ⊢
            obtain ⟨after, onward, rfl⟩ := Option.map_eq_some_iff.mp read
            simp [ih onward, Function.comp_def]
      | inside text =>
          by_cases quote : c = '\'' <;>
            simp only [List.cons_append, scan, quote, ↓reduceIte] at read ⊢ <;>
            exact ih read
      | closing text =>
          by_cases quote : c = '\''
          · simp only [scan, quote, ↓reduceIte] at read ⊢
            exact ih read
          · simp only [List.cons_append, scan, quote, ↓reduceIte] at read ⊢
            obtain ⟨after, onward, rfl⟩ := Option.map_eq_some_iff.mp read
            simp [ih onward, Function.comp_def]

theorem breaks_apart {text : String} (breaking : breaks text = true) : Apart text.toList := by
  unfold breaks at breaking
  intro quote
  simp [quote] at breaking

theorem lexemes_head {text : String} {lexemes : List Lexeme} (breaking : breaks text = true)
    (read : lexemes? text = some lexemes) : lexemes.head?.all (!·.isLetter) = true := by
  unfold breaks at breaking
  unfold lexemes? at read
  cases spelled : text.toList with
  | nil =>
      rw [spelled] at read
      cases read
      rfl
  | cons c rest =>
      rw [spelled] at breaking read
      simp only [List.head?_cons, Option.all_some, Bool.and_eq_true, bne_iff_ne, ne_eq] at breaking
      simp only [scan, breaking.2, ↓reduceIte] at read
      obtain ⟨after, _, rfl⟩ := Option.map_eq_some_iff.mp read
      simpa [Lexeme.isLetter] using breaking.1

theorem tokens?_append {first second : String} {tokens : List Token}
    (read : tokens? first = some tokens) (breaking : breaks second = true) :
    tokens? (first ++ second) = (tokens? second).map (tokens ++ ·) := by
  obtain ⟨part, lexed, cut⟩ := Option.bind_eq_some_iff.mp read
  have whole : lexemes? (first ++ second) = (lexemes? second).map (part ++ ·) := by
    rw [lexemes?, String.toList_append]
    exact scan_append lexed (breaks_apart breaking)
  rw [tokens?, whole, tokens?]
  cases lexed : lexemes? second with
  | none => rfl
  | some rest => exact tokensFrom_append cut (lexemes_head breaking lexed)

theorem tokens?_space (text : String) : tokens? (" " ++ text) = tokens? text := by
  have lexed : lexemes? (" " ++ text) = (lexemes? text).map (.plain ' ' :: ·) := by
    simp [lexemes?, scan]
  rw [tokens?, lexed, tokens?]
  cases lexemes? text with
  | none => rfl
  | some lexemes =>
      have stepped : (Level.outside []).step (.plain ' ') = some ([], .outside []) := rfl
      simp [tokensFrom, stepped]

theorem tokens?_enclosed {inner : String} (closed : (tokens? inner).isSome = true) :
    ∃ lexemes, ∀ rest,
      tokens? ("(" ++ inner ++ ")" ++ rest) = (tokens? rest).map (.enclosed lexemes :: ·) := by
  obtain ⟨tokens, read⟩ := Option.isSome_iff_exists.mp closed
  obtain ⟨lexemes, lexed, cut⟩ := Option.bind_eq_some_iff.mp read
  refine ⟨lexemes, fun rest => ?_⟩
  have whole : lexemes? ("(" ++ inner ++ ")" ++ rest) =
      (lexemes? rest).map fun after => .plain '(' :: (lexemes ++ .plain ')' :: after) := by
    have apart : Apart (')' :: rest.toList) := by simp [Apart]
    have onward := scan_append lexed apart
    simp [lexemes?, scan, onward, Function.comp_def]
  rw [tokens?, whole, tokens?]
  cases lexemes? rest with
  | none => rfl
  | some after => exact tokensFrom_enclosed cut after

/-! What a text is made of. -/

/-- The text closes what it opens, and each of its tokens satisfies `p`. -/
def madeOf (p : Token → Bool) (text : String) : Bool :=
  (tokens? text).any fun tokens => tokens.all p

def isClosed (text : String) : Bool := madeOf (fun _ => true) text

def Token.isWord (keyword : String) : Token → Bool
  | .word letters => letters.map Char.toLower == keyword.toList
  | _ => false

/-- Closed, with no OR outside of parentheses and literals. -/
def isBare (text : String) : Bool := madeOf (fun token => !token.isWord "or") text

variable {p : Token → Bool}

theorem madeOf_iff {text : String} :
    madeOf p text = true ↔ ∃ tokens, tokens? text = some tokens ∧ tokens.all p = true := by
  simp [madeOf, Option.any_eq_true]

theorem isClosed_of_madeOf {text : String} (made : madeOf p text = true) :
    isClosed text = true := by
  obtain ⟨tokens, read, _⟩ := madeOf_iff.mp made
  exact madeOf_iff.mpr ⟨tokens, read, by simp⟩

theorem madeOf_append {first second : String} (made : madeOf p first = true)
    (breaking : breaks second = true) : madeOf p (first ++ second) = madeOf p second := by
  obtain ⟨tokens, read, each⟩ := madeOf_iff.mp made
  rw [madeOf, tokens?_append read breaking, madeOf, Option.any_map]
  simp [each]

theorem madeOf_space (text : String) : madeOf p (" " ++ text) = madeOf p text := by
  rw [madeOf, tokens?_space, madeOf]

theorem breaks_space (text : String) : breaks (" " ++ text) = true := by
  simp [breaks, isLetter]

theorem madeOf_spaced {first : String} (made : madeOf p first = true) (second : String) :
    madeOf p (first ++ " " ++ second) = madeOf p second := by
  rw [String.append_assoc, madeOf_append made (breaks_space second), madeOf_space]

/-- Whatever is closed may stand in parentheses. -/
theorem madeOf_group {inner : String} (closed : isClosed inner = true)
    (each : ∀ inside, p (.enclosed inside) = true) : madeOf p ("(" ++ inner ++ ")") = true := by
  obtain ⟨tokens, read, _⟩ := madeOf_iff.mp closed
  obtain ⟨inside, whole⟩ := tokens?_enclosed (read ▸ rfl : (tokens? inner).isSome = true)
  have alone := whole ""
  rw [String.append_empty] at alone
  have empty : tokens? "" = some [] := rfl
  rw [madeOf, alone, empty]
  simp [each]

theorem madeOf_parenthesized {head inner : String} (made : madeOf p head = true)
    (closed : isClosed inner = true) (each : ∀ inside, p (.enclosed inside) = true) :
    madeOf p (head ++ " (" ++ inner ++ ")") = true := by
  have cut : head ++ " (" ++ inner ++ ")" = head ++ " " ++ ("(" ++ inner ++ ")") :=
    String.toList_inj.mp (by simp)
  rw [cut, madeOf_spaced made]
  exact madeOf_group closed each

theorem madeOf_intercalate {mark : String} (breaking : breaks mark = true)
    (made : madeOf p mark = true) {items : List String}
    (each : ∀ item ∈ items, madeOf p item = true) :
    madeOf p ((mark ++ " ").intercalate items) = true := by
  induction items with
  | nil => rfl
  | cons first rest ih =>
      have head := each first List.mem_cons_self
      have tail := ih fun item member => each item (List.mem_cons_of_mem first member)
      cases rest with
      | nil => simpa using head
      | cons second rest =>
          -- the blank of the separator keeps the items apart, whatever they start with
          have cut : (mark ++ " ").intercalate (first :: second :: rest) =
              first ++ mark ++ " " ++ (mark ++ " ").intercalate (second :: rest) := by
            simp only [String.intercalate_cons_cons, String.append_assoc]
          have marked : madeOf p (first ++ mark) = true :=
            (madeOf_append head breaking).trans made
          rw [cut, madeOf_spaced marked]
          exact tail

theorem madeOf_words {words : List String} (each : ∀ word ∈ words, madeOf p word = true) :
    madeOf p (" ".intercalate words) = true :=
  (madeOf_intercalate rfl rfl each : madeOf p (("" ++ " ").intercalate words) = true)

example : isBare "note = 'a) or (b' AND (a OR b)" = true := by decide +kernel

example : isBare "a = 1\nOr b = 2" = false := by decide +kernel

/-! Literals. -/

theorem toLower_ne_of_numeral {c : Char} (numeral : Text.isNumeral c = true) :
    c.toLower ≠ 'o' := by
  have none : Text.capitals.all (fun capital => !Text.isNumeral capital) = true := by decide
  have small : c ∉ Text.capitals := by
    intro capital
    simpa [numeral] using List.all_eq_true.mp none c capital
  rw [Text.toLower_of_not_capital small]
  rintro rfl
  exact absurd numeral (by decide)

theorem wordOf_numeral {letters : List Char}
    (numeral : ∀ c ∈ letters, Text.isNumeral c = true) :
    (wordOf letters).all (fun token => !token.isWord "or") = true := by
  have other : letters.map Char.toLower ≠ ['o', 'r'] := by
    intro same
    obtain ⟨c, member, lower⟩ := List.mem_map.mp (same ▸ List.mem_cons_self : 'o' ∈ _)
    exact toLower_ne_of_numeral (numeral c member) lower
  unfold wordOf
  split
  · rfl
  · simpa [Token.isWord] using other

theorem tokensFrom_numeral {letters text : List Char}
    (before : ∀ c ∈ letters, Text.isNumeral c = true)
    (numeral : ∀ c ∈ text, Text.isNumeral c = true) :
    ∃ tokens, tokensFrom (.outside letters) (text.map .plain) = some tokens ∧
      tokens.all (fun token => !token.isWord "or") = true := by
  induction text generalizing letters with
  | nil => exact ⟨wordOf letters, rfl, wordOf_numeral before⟩
  | cons c text ih =>
      have first := numeral c List.mem_cons_self
      have rest := fun c member => numeral c (List.mem_cons_of_mem _ member)
      simp only [List.map_cons, tokensFrom, Level.step]
      split
      · have longer : ∀ d ∈ letters ++ [c], Text.isNumeral d = true :=
          List.forall_mem_append.mpr ⟨before, List.forall_mem_singleton.mpr first⟩
        obtain ⟨tokens, read, each⟩ := ih longer rest
        exact ⟨tokens, by simp [read], each⟩
      · have closes : c ≠ ')' := fun same => absurd first (same ▸ by decide)
        have opens : c ≠ '(' := fun same => absurd first (same ▸ by decide)
        obtain ⟨tokens, read, each⟩ := ih (List.forall_mem_nil _) rest
        refine ⟨wordOf letters ++ markOf c ++ tokens, by simp [closes, opens, read], ?_⟩
        have mark : (markOf c).all (fun token => !token.isWord "or") = true := by
          unfold markOf
          split <;> rfl
        rw [List.all_append, List.all_append, wordOf_numeral before, mark, each]
        rfl

theorem bare_numeral {text : String} (numeral : ∀ c ∈ text.toList, Text.isNumeral c = true) :
    isBare text = true := by
  have clear := quoteFree_iff.mp (Text.quoteFree_of_numeral numeral)
  have lexed : lexemes? text = some (text.toList.map .plain) := by
    have read := scan_plain clear []
    simpa [lexemes?, scan] using read
  obtain ⟨tokens, read, each⟩ := tokensFrom_numeral (List.forall_mem_nil _) numeral
  exact madeOf_iff.mpr ⟨tokens, by rw [tokens?, lexed]; exact read, each⟩

theorem bare_quotedLiteral (text : String) : isBare (quotedLiteral text) = true := by
  have read := scan_quotedLiteral text (by simp [Apart] : Apart [])
  rw [List.append_nil] at read
  simp [isBare, madeOf, tokens?, lexemes?, read, scan, tokensFrom, Level.step, Level.finish,
    wordOf, Token.isWord]

theorem bare_literal (value : Json) : isBare (literal value) = true := by
  cases value with
  | null => decide +kernel
  | bool value => cases value <;> decide +kernel
  | number value => exact bare_numeral value.text_numeral
  | string text => exact bare_quotedLiteral text
  | array items => exact bare_quotedLiteral _
  | object entries => exact bare_quotedLiteral _

theorem closed_literals (values : List Json) : isClosed (literals values) = true := by
  have each : ∀ text ∈ values.map literal, isClosed text = true := by
    intro text member
    obtain ⟨value, _, rfl⟩ := List.mem_map.mp member
    exact isClosed_of_madeOf (bare_literal value)
  exact (madeOf_intercalate rfl rfl each : isClosed (("," ++ " ").intercalate _) = true)

end DeclarativeQuery.Sql
