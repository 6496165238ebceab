import RegexInference.Proofs.Json.Numbers
import RegexInference.Proofs.Json.Spelling

/-!
# Well-formed documents

A document is a word, a number, a string, an array or an object, with any blanks between its parts.
Nothing is said here about how it is read: names may repeat, numbers may be out of range, and the
codes in a string need not make characters.
-/

namespace RegexInference.Json

/-! ## Strings and numbers -/

/-- A part of a string: a character, a letter behind a backslash, or any code. -/
inductive IsStringPiece : List Char → Prop
  | plain {c : Char} (h : IsPlain c) : IsStringPiece [c]
  | letter {e : Char × Char} (h : e ∈ letterEscapes) : IsStringPiece ['\\', e.1]
  | code {code : List Char} {n : ℕ} (h : IsCode code n) : IsStringPiece ('\\' :: 'u' :: code)

/-- What stands between the quotes of a string. -/
inductive IsStringBody : List Char → Prop
  | nil : IsStringBody []
  | cons {piece cs : List Char} (hpiece : IsStringPiece piece) (h : IsStringBody cs) :
      IsStringBody (piece ++ cs)

/-- A number without its sign. -/
inductive IsMagnitude : List Char → Prop
  | parts {t : NumberText} {exponent : List Char} (h : t.WellFormed)
      (hspelled : NumberText.ExponentSpelling exponent t.exponent) :
      IsMagnitude (t.whole ++ (NumberText.fractionText t.fraction ++ exponent))

/-! ## Arrays and objects -/

/-- A value with the blanks around it. -/
structure Spaced where
  lead : List Char
  value : List Char
  trail : List Char
  blanks_lead : Blanks lead
  blanks_trail : Blanks trail

def Spaced.text (s : Spaced) : List Char := s.lead ++ (s.value ++ s.trail)

/-- A value without blanks around it. -/
def Spaced.bare (value : List Char) : Spaced := ⟨[], value, [], blanks_nil, blanks_nil⟩

/-- A member of an object, with blanks in front of the key and in front of the colon. -/
structure Member where
  lead : List Char
  key : List Char
  gap : List Char
  content : Spaced
  blanks_lead : Blanks lead
  blanks_gap : Blanks gap

def Member.text (m : Member) : List Char :=
  m.lead ++ (quoted m.key ++ (m.gap ++ ':' :: m.content.text))

/-- Parts with commas between them. -/
def separated : List (List Char) → List Char
  | [] => []
  | part :: parts => part ++ parts.flatMap fun part => ',' :: part

def opener (isObject : Bool) : Char := if isObject then '{' else '['

def closer (isObject : Bool) : Char := if isObject then '}' else ']'

/-- Parts between brackets or braces.  Without parts there may be blanks. -/
def enclosed (isObject : Bool) (parts : List (List Char)) (gap : List Char) : List Char :=
  opener isObject :: (separated parts ++ (gap ++ [closer isObject]))

def arrayText (items : List Spaced) (gap : List Char) : List Char :=
  enclosed false (items.map Spaced.text) gap

def objectText (members : List Member) (gap : List Char) : List Char :=
  enclosed true (members.map Member.text) gap

theorem length_le_flatMap (parts : List (List Char)) :
    parts.length ≤ (parts.flatMap fun part => ',' :: part).length := by
  induction parts with
  | nil => exact Nat.le_refl 0
  | cons part parts ih =>
      rw [List.flatMap_cons, List.length_append, List.length_cons, List.length_cons]
      omega

theorem length_le_separated (parts : List (List Char)) :
    parts.length ≤ (separated parts).length + 1 := by
  cases parts with
  | nil => exact Nat.zero_le _
  | cons part parts =>
      have hle := length_le_flatMap parts
      rw [separated, List.length_append, List.length_cons]
      omega

/-! ## What stands behind a part -/

theorem delimited_closer (b : Bool) (rest : List Char) : Delimited (closer b :: rest) := by
  intro c hc
  obtain rfl : closer b = c := Option.some_inj.mp hc
  cases b with
  | false => exact Or.inr (Or.inr (Or.inr rfl))
  | true => exact Or.inr (Or.inr (Or.inl rfl))

theorem delimited_parts (b : Bool) (parts : List (List Char)) {gap : List Char} (hgap : Blanks gap)
    (rest : List Char) :
    Delimited (parts.flatMap (fun part => ',' :: part) ++ (gap ++ closer b :: rest)) := by
  cases parts with
  | nil =>
      rw [List.flatMap_nil, List.nil_append]
      exact delimited_blanks_append hgap (delimited_closer b rest)
  | cons part parts =>
      intro c hc
      obtain rfl : ',' = c := Option.some_inj.mp hc
      exact Or.inr (Or.inl rfl)

/-! ## Values -/

/-- A well-formed document, without blanks around it. -/
inductive IsValue : List Char → Prop
  | word {word : String} (h : word ∈ ["null", "true", "false"]) : IsValue word.toList
  | positive {cs : List Char} (h : IsMagnitude cs) : IsValue cs
  | negative {cs : List Char} (h : IsMagnitude cs) : IsValue ('-' :: cs)
  | string {body : List Char} (h : IsStringBody body) : IsValue (quoted body)
  | array {items : List Spaced} {gap : List Char} (hgap : Blanks gap)
      (hitems : ∀ i ∈ items, IsValue i.value) : IsValue (arrayText items gap)
  | object {members : List Member} {gap : List Char} (hgap : Blanks gap)
      (hkeys : ∀ m ∈ members, IsStringBody m.key)
      (hvalues : ∀ m ∈ members, IsValue m.content.value) : IsValue (objectText members gap)

end RegexInference.Json
