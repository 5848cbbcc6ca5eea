import DeclarativeQuery.Decimal
import DeclarativeQuery.Text.Numeral

/-!
The values that descriptions are made of, and their text. Objects keep the order in which their
entries were written, for filters, operators and inclusions are processed in that order.
-/

namespace DeclarativeQuery.Entries

variable {Value : Type}

def put (key : String) (value : Value) : List (String × Value) → List (String × Value)
  | [] => [(key, value)]
  | (first, present) :: rest =>
      if first = key then (key, value) :: rest else (first, present) :: put key value rest

theorem lookup_put (key wanted : String) (value : Value) (entries : List (String × Value)) :
    (put key value entries).lookup wanted =
      if wanted = key then some value else entries.lookup wanted := by
  by_cases same : wanted = key
  · subst same
    induction entries with
    | nil => simp [put]
    | cons entry rest ih =>
        obtain ⟨first, present⟩ := entry
        by_cases here : first = wanted
        · simp [put, here]
        · have other : (wanted == first) = false := by simpa using Ne.symm here
          simpa [put, List.lookup_cons, here, other] using ih
  · have other : (wanted == key) = false := by simpa using same
    induction entries with
    | nil => simp [put, List.lookup_cons, same, other]
    | cons entry rest ih =>
        obtain ⟨first, present⟩ := entry
        by_cases here : first = key
        · simp [put, List.lookup_cons, here, same, other]
        · simp only [same, ↓reduceIte] at ih
          simp [put, List.lookup_cons, here, same, ih]

theorem forall_mem_cons {holds : String → Value → Prop} {first : String} {present : Value}
    {rest : List (String × Value)} :
    (∀ key value, (key, value) ∈ (first, present) :: rest → holds key value) ↔
      holds first present ∧ ∀ key value, (key, value) ∈ rest → holds key value := by
  simp only [List.mem_cons, Prod.mk.injEq, or_imp, and_imp, forall_and, forall_eq_apply_imp_iff,
    forall_eq]

end DeclarativeQuery.Entries

namespace DeclarativeQuery

/-- A whole number between -2^63 and 2^64 - 1, or any other number as a finite double. -/
inductive Number where
  | whole (value : Int)
  | double (value : Decimal.Binary64)
  deriving DecidableEq

inductive Json where
  | null
  | bool (value : Bool)
  | number (value : Number)
  | string (value : String)
  | array (items : List Json)
  | object (entries : List (String × Json))
  deriving Inhabited

namespace Json

def whole (value : Int) : Json := .number (.whole value)

def isNull : Json → Bool
  | .null => true
  | _ => false

def isObject : Json → Bool
  | .object _ => true
  | _ => false

def field? (key : String) : Json → Option Json
  | .object entries => entries.lookup key
  | _ => none

/-- The default stands for a field that is missing, not for one that is malformed. -/
def storedField? {α : Type} (default : α) (read? : Json → Option α) : Option Json → Option α
  | none => some default
  | some value => read? value

def present? (key : String) (entries : List (String × Json)) : Option Json :=
  (entries.lookup key).filter fun value => !value.isNull

end Json

/-!
The compact text of a value: no blanks between tokens, entries in their own order. A double always
shows that it is one, by a point or an exponent.
-/

namespace Number

def layout : Decimal.Layout where
  inPlace := some (-5, 15)
  keepsPoint := true

def text : Number → String
  | .whole value => Text.intText value
  | .double value => layout.text value

end Number

namespace Json

def hexQuad (code : Nat) : List Char :=
  let digits := Nat.toDigits 16 code
  List.replicate (4 - digits.length) '0' ++ digits

def escapeChar (c : Char) : List Char :=
  if c = '"' then ['\\', '"']
  else if c = '\\' then ['\\', '\\']
  else if c = '\x08' then ['\\', 'b']
  else if c = '\x0c' then ['\\', 'f']
  else if c = '\n' then ['\\', 'n']
  else if c = '\r' then ['\\', 'r']
  else if c = '\t' then ['\\', 't']
  else if c.toNat < 0x20 then '\\' :: 'u' :: hexQuad c.toNat
  else [c]

def stringText (text : String) : String :=
  String.ofList ('"' :: text.toList.flatMap escapeChar ++ ['"'])

mutual

def text : Json → String
  | .null => "null"
  | .bool true => "true"
  | .bool false => "false"
  | .number value => value.text
  | .string value => stringText value
  | .array items => "[" ++ ",".intercalate (itemTexts items) ++ "]"
  | .object entries => "\x7b" ++ ",".intercalate (entryTexts entries) ++ "\x7d"
termination_by structural value => value

def itemTexts : List Json → List String
  | [] => []
  | item :: rest => item.text :: itemTexts rest
termination_by structural items => items

def entryTexts : List (String × Json) → List String
  | [] => []
  | (key, value) :: rest => (stringText key ++ ":" ++ value.text) :: entryTexts rest
termination_by structural entries => entries

end

end Json

end DeclarativeQuery
