import Mathlib.Data.Nat.Digits.Defs
import RegexInference.Proofs.Json.Spelling

/-!
# Scalars that are read back

A string, a truth value or a whole number is read back from its text as it was, whatever is behind
it.  A number ends where the next part of the document begins.
-/

namespace RegexInference.Json

/-! ## Readers and texts -/

/-- What stands behind a value: the end of the document, a blank, a comma or a closing bracket. -/
def Delimited (rest : List Char) : Prop :=
  ∀ c ∈ rest.head?, isBlank c = true ∨ c = ',' ∨ c = '}' ∨ c = ']'

/-- The reader takes this text for a value, or fails on it, whatever stands behind it. -/
def Reader.Takes {α : Type} (reader : Reader α) (depth : ℕ) (text : List Char)
    (outcome : Except Error α) : Prop :=
  ∀ rest, Delimited rest → reader depth (text ++ rest) = outcome.map (·, rest)

/-- What is made of a value is made of what its reader takes. -/
theorem Reader.Takes.map {α β : Type} {reader : Reader α} {depth : ℕ} {text : List Char}
    {outcome : Except Error α} (h : reader.Takes depth text outcome) (f : α → β) :
    Reader.Takes (fun depth cs => do
      let (x, left) ← reader depth cs
      return (f x, left)) depth text (outcome.map f) := by
  intro rest hrest
  change (reader depth (text ++ rest) >>= fun r => pure (f r.1, r.2)) = _
  rw [h rest hrest]
  cases outcome <;> rfl

/-- There are blanks at most. -/
def Blanks (cs : List Char) : Prop := ∀ c ∈ cs, isBlank c = true

instance : DecidablePred Blanks := fun _ => decidable_of_iff _ List.all_eq_true

theorem blanks_nil : Blanks [] := fun _ hc => absurd hc List.not_mem_nil

theorem Blanks.append {gap more : List Char} (hgap : Blanks gap) (hmore : Blanks more) :
    Blanks (gap ++ more) := by
  intro c hc
  rcases List.mem_append.mp hc with h | h
  · exact hgap c h
  · exact hmore c h

theorem skipBlanks_append {gap : List Char} (hgap : Blanks gap) (cs : List Char) :
    skipBlanks (gap ++ cs) = skipBlanks cs := by
  unfold skipBlanks
  rw [List.dropWhile_append_of_pos hgap]

theorem skipBlanks_cons {c : Char} (hc : isBlank c = false) (cs : List Char) :
    skipBlanks (c :: cs) = c :: cs := by
  unfold skipBlanks
  rw [List.dropWhile_cons, hc]
  rfl

theorem readColon_blanks {gap : List Char} (hgap : Blanks gap) (rest : List Char) :
    Reader.readColon (gap ++ ':' :: rest) = .ok rest := by
  unfold Reader.readColon
  rw [skipBlanks_append hgap, skipBlanks_cons (by decide)]
  rfl

theorem delimited_blanks_append {gap rest : List Char} (hgap : Blanks gap)
    (hrest : Delimited rest) : Delimited (gap ++ rest) := by
  cases gap with
  | nil => exact hrest
  | cons d gap =>
      intro c hc
      obtain rfl : d = c := Option.some_inj.mp hc
      exact Or.inl (hgap d List.mem_cons_self)

/-- A whole text is read as the reader takes it, with any blanks behind it. -/
theorem Reader.run_of_takes_blanks {α : Type} {reader : Reader α} {text : List Char}
    {outcome : Except Error α} (h : reader.Takes maxDepth text outcome) {trail : List Char}
    (htrail : Blanks trail) : reader.run (String.ofList (text ++ trail)) = outcome := by
  have hend : Delimited trail := by
    have hnil : Delimited [] := fun c hc => by cases hc
    have hdelimited := delimited_blanks_append htrail hnil
    rwa [List.append_nil] at hdelimited
  have hskip : skipBlanks trail = [] := by
    have hblanks := skipBlanks_append htrail []
    rwa [List.append_nil] at hblanks
  unfold Reader.run
  rw [String.toList_ofList, h trail hend]
  cases outcome with
  | error cause => rfl
  | ok x =>
      simp only [Except.map, bind, Except.bind]
      rw [hskip]
      rfl

theorem Reader.run_of_takes {α : Type} {reader : Reader α} {text : List Char}
    {outcome : Except Error α} (h : reader.Takes maxDepth text outcome) :
    reader.run (String.ofList text) = outcome := by
  have hrun := run_of_takes_blanks h blanks_nil
  rwa [List.append_nil] at hrun

theorem scanWord_append (word rest : List Char) : scanWord word (word ++ rest) = .ok rest := by
  induction word with
  | nil => rfl
  | cons c word ih => simpa [scanWord] using ih

/-! ## Strings -/

namespace Reader

variable {gap : List Char} (hgap : Blanks gap) (depth : ℕ)
include hgap

theorem string_takes_spelled {body : List Char} {text : String} (h : Spells body text.toList) :
    Reader.string.Takes depth (gap ++ quoted body) (.ok text) := by
  intro rest _
  unfold Reader.string
  rw [List.append_assoc, skipBlanks_append hgap, quoted_append, skipBlanks_cons (by decide)]
  exact readText_spelled h rest

theorem string_takes (text : String) :
    Reader.string.Takes depth (gap ++ writeString text) (.ok text) :=
  string_takes_spelled hgap depth (spells_escaped text.toList)

theorem boolean_takes (b : Bool) :
    Reader.boolean.Takes depth (gap ++ (Value.boolean b).compact) (.ok b) := by
  intro rest _
  unfold Reader.boolean
  rw [List.append_assoc, skipBlanks_append hgap]
  cases b with
  | false =>
      have hword : (Value.boolean false).compact ++ rest = 'f' :: ("alse".toList ++ rest) := rfl
      rw [hword, skipBlanks_cons (by decide)]
      simp only [scanWord_append]
      rfl
  | true =>
      have hword : (Value.boolean true).compact ++ rest = 't' :: ("rue".toList ++ rest) := rfl
      rw [hword, skipBlanks_cons (by decide)]
      simp only [scanWord_append]
      rfl

/-- A name that is known is read as what it stands for. -/
theorem variant_takes_spelled {α : Type} {known : List (String × α)} {name : String} {x : α}
    (hknown : variantOf known name = .ok x) {body : List Char} (h : Spells body name.toList) :
    (Reader.variant known).Takes depth (gap ++ quoted body) (.ok x) := by
  intro rest _
  unfold Reader.variant
  rw [List.append_assoc, skipBlanks_append hgap, quoted_append, skipBlanks_cons (by decide)]
  simp only [readText_spelled h, bind, Except.bind, hknown]
  rfl

theorem variant_takes {α : Type} {known : List (String × α)} {name : String} {x : α}
    (hknown : variantOf known name = .ok x) :
    (Reader.variant known).Takes depth (gap ++ writeString name) (.ok x) :=
  variant_takes_spelled hgap depth hknown (spells_escaped name.toList)

end Reader

end RegexInference.Json
