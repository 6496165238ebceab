import RegexInference.Json.Reader

/-!
# Records

A record is read from an object with the fields as members, in any order, or from an array with the
fields as items, in their own order.  Members that are not fields are passed over.  A field that is
not required may be missing and keeps its default.
-/

namespace RegexInference.Json

/-- A field of a record `ρ`, whose values are filled in one after the other. -/
structure RecordField (ρ : Type) where
  name : String
  required : Bool
  /-- Reads the value and puts it into the record. -/
  read : Reader (ρ → ρ)

/-- A field with its default already in the record. -/
def RecordField.optional {ρ α : Type} (name : String) (reader : Reader α) (put : α → ρ → ρ) :
    RecordField ρ :=
  { name, required := false
    read := fun depth cs => do
      let (x, left) ← reader depth cs
      return (put x, left) }

/-- A field that has to be given. -/
def RecordField.needed {ρ α : Type} (name : String) (reader : Reader α) (put : α → ρ → ρ) :
    RecordField ρ :=
  { RecordField.optional name reader put with required := true }

namespace Reader

/-- Reads the fields of a record from the items of an array.  `index` counts the items so far. -/
def fieldsInOrder {ρ : Type} (expected : String) (depth : Nat) :
    (fields : List (RecordField ρ)) → (index : Nat) → ρ → List Char → Except Error (ρ × List Char)
  | [], _, record, cs => .ok (record, cs)
  | field :: fields, index, record, cs => do
    let (more, rest) ← nextItem (index == 0) cs
    if more then
      let (put, rest) ← field.read depth rest
      fieldsInOrder expected depth fields (index + 1) (put record) rest
    else if (field :: fields).any RecordField.required then
      let given := index + ((field :: fields).takeWhile (!·.required)).length
      throw (.mismatch (.wrongLength given expected))
    else return (record, rest)

/-- Reads the fields of a record from the members of an object.  `seen` are the names of the fields
that were read. -/
def fieldsByName {ρ : Type} (fields : List (RecordField ρ)) (depth : Nat) :
    (fuel : Nat) → (first : Bool) → (seen : List String) → ρ → List Char →
      Except Error (ρ × List Char)
  | 0, _, _, _, _ => .error (.truncated .object)
  | fuel + 1, first, seen, record, cs => do
    match ← nextKey first cs with
    | (none, left) =>
      match fields.find? fun field => field.required && !seen.contains field.name with
      | some field => throw (.mismatch (.missingField field.name))
      | none => return (record, left)
    | (some key, rest) =>
      match fields.find? (·.name == key) with
      | none =>
        let (_, rest) ← skip depth (← readColon rest)
        fieldsByName fields depth fuel false seen record rest
      | some field =>
        if seen.contains key then throw (.mismatch (.duplicateField key))
        let (put, rest) ← field.read depth (← readColon rest)
        fieldsByName fields depth fuel false (key :: seen) (put record) rest

/-- A record, with `initial` for the fields that are not given. -/
def record {ρ : Type} (name : String) (fields : List (RecordField ρ)) (initial : ρ) : Reader ρ :=
  fun depth cs =>
    let expected := "struct " ++ name
    let count := fields.length
    let counted := expected ++ " with " ++ toString count ++
      (if count = 1 then " element" else " elements")
    match skipBlanks cs with
    | '[' :: rest =>
      enter depth fun depth => do
        let (record, rest) ← fieldsInOrder counted depth fields 0 initial rest
        return (record, ← closeArray rest)
    | '{' :: rest =>
      enter depth fun depth => do
        let (record, rest) ← fieldsByName fields depth (rest.length + 1) true [] initial rest
        return (record, ← closeObject rest)
    | cs => wrongType expected cs

end Reader

end RegexInference.Json
