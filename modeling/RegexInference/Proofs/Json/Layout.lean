import RegexInference.Proofs.Json.Arrays

/-!
# Documents as they are laid out

A document is written on one line or over several.  Either way its arrays and objects are texts of
their items and members, with blanks that depend on the layout and the level only.
-/

namespace RegexInference.Json

/-- How a document is laid out: without blanks, or over several lines from some level on. -/
inductive Style where
  | compact
  | pretty (level : ℕ)

def Value.writtenAs (v : Value) : Style → List Char
  | .compact => v.compact
  | .pretty level => v.pretty level

theorem blanks_newLine (level : ℕ) : Blanks (Value.newLine level) := by
  intro c hc
  rcases List.mem_cons.mp hc with rfl | hmem
  · rfl
  · rw [List.eq_of_mem_replicate hmem]
    rfl

namespace Style

/-- What is in front of each item of an array and each key of an object. -/
def lead : Style → List Char
  | compact => []
  | pretty level => Value.newLine (level + 1)

/-- What is between the colon and the value. -/
def gap : Style → List Char
  | compact => []
  | pretty _ => [' ']

/-- What is in front of the closing bracket. -/
def trail : Style → List Char
  | compact => []
  | pretty level => Value.newLine level

/-- How the items and the values of the members are written. -/
def inner : Style → Style
  | compact => compact
  | pretty level => pretty (level + 1)

theorem blanks_lead (style : Style) : Blanks style.lead := by
  cases style with
  | compact => exact blanks_nil
  | pretty level => exact blanks_newLine _

theorem blanks_gap (style : Style) : Blanks style.gap := by
  cases style with
  | compact => exact blanks_nil
  | pretty level => exact fun c hc => List.mem_singleton.mp hc ▸ rfl

theorem blanks_trail (style : Style) : Blanks style.trail := by
  cases style with
  | compact => exact blanks_nil
  | pretty level => exact blanks_newLine _

/-- A value as an item of an array. -/
def item (style : Style) (v : Value) : Spaced :=
  ⟨style.lead, v.writtenAs style.inner, [], style.blanks_lead, blanks_nil⟩

/-- A value as a member of an object. -/
def member (style : Style) (key : String) (v : Value) : Member where
  lead := style.lead
  key := key.toList.flatMap escapeChar
  gap := []
  content := ⟨style.gap, v.writtenAs style.inner, [], style.blanks_gap, blanks_nil⟩
  blanks_lead := style.blanks_lead
  blanks_gap := blanks_nil

theorem text_item (style : Style) (v : Value) :
    (style.item v).text = style.lead ++ v.writtenAs style.inner := by
  simp [item, Spaced.text]

theorem text_member (style : Style) (key : String) (v : Value) :
    (style.member key v).text = style.lead ++ (quoted (key.toList.flatMap escapeChar) ++
      ':' :: (style.gap ++ v.writtenAs style.inner)) := by
  simp [member, Member.text, Spaced.text]

section

variable (key : String) (v : Value) (level : ℕ)

@[simp]
theorem text_item_compact : (compact.item v).text = v.compact := text_item _ _

@[simp]
theorem text_item_pretty :
    ((pretty level).item v).text = Value.newLine (level + 1) ++ v.pretty (level + 1) :=
  text_item _ _

@[simp]
theorem text_member_compact :
    (compact.member key v).text = writeString key ++ ':' :: v.compact :=
  text_member _ _ _

@[simp]
theorem text_member_pretty : ((pretty level).member key v).text =
    Value.newLine (level + 1) ++ (writeString key ++ ':' :: ' ' :: v.pretty (level + 1)) :=
  text_member _ _ _

end

end Style

namespace Value

/-! ## Scalars -/

theorem writtenAs_string (style : Style) (text : String) :
    (Value.string text).writtenAs style = (Value.string text).compact := by
  cases style <;> rfl

theorem writtenAs_integer (style : Style) (n : ℤ) :
    (Value.integer n).writtenAs style = (Value.integer n).compact := by
  cases style <;> rfl

theorem writtenAs_boolean (style : Style) (b : Bool) :
    (Value.boolean b).writtenAs style = (Value.boolean b).compact := by
  cases style <;> rfl

theorem writtenAs_float (style : Style) (x : Float) :
    (Value.float x).writtenAs style = (Value.float x).compact := by
  cases style <;> rfl

/-! ## Arrays and objects -/

/-- What is written one after the other, with commas between, is separated. -/
theorem eq_separated {α : Type} {write : List α → List Char} {part : α → List Char}
    (hnil : write [] = []) (hone : ∀ x, write [x] = part x)
    (hmore : ∀ x y rest, write (x :: y :: rest) = part x ++ ',' :: write (y :: rest))
    (xs : List α) : write xs = separated (xs.map part) := by
  induction xs with
  | nil => exact hnil
  | cons x rest ih =>
      cases rest with
      | nil => simp [hone, separated]
      | cons y rest => rw [hmore, ih]; simp [separated]

theorem compactItems_eq (items : List Value) :
    compactItems items = separated (items.map fun v => (Style.compact.item v).text) :=
  eq_separated rfl (fun v => by simp [compactItems]) (fun v w rest => by simp [compactItems]) items

theorem prettyItems_eq (level : ℕ) (items : List Value) :
    prettyItems (level + 1) items =
      separated (items.map fun v => ((Style.pretty level).item v).text) :=
  eq_separated rfl (fun v => by simp [prettyItems]) (fun v w rest => by simp [prettyItems]) items

theorem compactMembers_eq (members : List (String × Value)) :
    compactMembers members =
      separated (members.map fun m => (Style.compact.member m.1 m.2).text) :=
  eq_separated rfl (fun m => by simp [compactMembers])
    (fun m n rest => by simp [compactMembers]) members

theorem prettyMembers_eq (level : ℕ) (members : List (String × Value)) :
    prettyMembers (level + 1) members =
      separated (members.map fun m => ((Style.pretty level).member m.1 m.2).text) :=
  eq_separated rfl (fun m => by simp [prettyMembers])
    (fun m n rest => by simp [prettyMembers]) members

/-- An array is written as its items are, one level further in. -/
theorem exists_writtenAs_array (style : Style) (items : List Value) :
    ∃ gap, Blanks gap ∧ (array items).writtenAs style = arrayText (items.map style.item) gap := by
  cases style with
  | compact =>
      refine ⟨[], blanks_nil, ?_⟩
      rw [writtenAs, compact, compactItems_eq, arrayText, List.map_map]
      rfl
  | pretty level =>
      cases items with
      | nil => exact ⟨[], blanks_nil, rfl⟩
      | cons v rest =>
          refine ⟨newLine level, blanks_newLine level, ?_⟩
          rw [writtenAs, pretty, prettyItems_eq, arrayText, List.map_map, List.append_assoc]
          rfl

/-- An object is written as the values of its members are, one level further in. -/
theorem exists_writtenAs_object (style : Style) (members : List (String × Value)) :
    ∃ gap, Blanks gap ∧ (object members).writtenAs style =
      objectText (members.map fun m => style.member m.1 m.2) gap := by
  cases style with
  | compact =>
      refine ⟨[], blanks_nil, ?_⟩
      rw [writtenAs, compact, compactMembers_eq, objectText, List.map_map]
      rfl
  | pretty level =>
      cases members with
      | nil => exact ⟨[], blanks_nil, rfl⟩
      | cons m rest =>
          refine ⟨newLine level, blanks_newLine level, ?_⟩
          rw [writtenAs, pretty, prettyMembers_eq, objectText, List.map_map, List.append_assoc]
          rfl

/-- A list of texts is written as an array of strings that spell them. -/
theorem spellsList_strings (style : Style) (texts : List String) :
    SpellsList ((strings texts).writtenAs style) texts := by
  obtain ⟨gap, hgap, htext⟩ := exists_writtenAs_array style (texts.map string)
  let items : List (Spaced × String) := texts.map fun text => (style.item (string text), text)
  have hspelled : ∀ i ∈ items, ∃ body, Spells body i.2.toList ∧ i.1.value = quoted body := by
    intro i hi
    obtain ⟨text, -, rfl⟩ := List.mem_map.mp hi
    exact ⟨_, spells_escaped text.toList, writtenAs_string style.inner text⟩
  have hlist := SpellsList.array hgap hspelled
  have hspaced : items.map Prod.fst = (texts.map string).map style.item := by
    simp [items, Function.comp_def]
  have htexts : items.map Prod.snd = texts := by simp [items, Function.comp_def]
  rwa [hspaced, htexts, ← htext] at hlist

end Value

end RegexInference.Json
