import RegexInference.Proofs.Json.Grammar

/-!
# Arrays that are read item by item

An array is read from its text, with any blanks around its items, as its items are read, until one
of them is refused.  An array takes one level; where none is left it is refused before its items are
looked at.
-/

namespace RegexInference.Json

/-- A value begins with a character that neither is passed over nor ends an array. -/
def Begins (value : List Char) : Prop :=
  ∃ c cs, value = c :: cs ∧ isBlank c = false ∧ c ≠ ']'

namespace Reader

variable {α : Type}

/-- An item of an array and what is made of it. -/
structure Item (α : Type) extends Spaced where
  outcome : Except Error α

/-- The reader makes this of the item. -/
structure Item.Gives (reader : Reader α) (depth : ℕ) (i : Item α) : Prop where
  begins : Begins i.value
  takes : reader.Takes depth i.value i.outcome

section

variable {gap : List Char} (hgap : Blanks gap)
include hgap

theorem nextItem_first {value : List Char} (h : Begins value) (rest : List Char) :
    nextItem true (gap ++ (value ++ rest)) = .ok (true, value ++ rest) := by
  obtain ⟨c, cs, rfl, hblank, hc⟩ := h
  unfold nextItem
  rw [skipBlanks_append hgap, List.cons_append, skipBlanks_cons hblank]
  simp [hc]

theorem nextItem_comma {trail : List Char} (htrail : Blanks trail) {value : List Char}
    (h : Begins value) (rest : List Char) :
    nextItem false (trail ++ ',' :: (gap ++ (value ++ rest))) = .ok (true, value ++ rest) := by
  obtain ⟨c, cs, rfl, hblank, hc⟩ := h
  unfold nextItem
  rw [skipBlanks_append htrail, skipBlanks_cons (by decide)]
  dsimp only
  rw [if_neg (by decide), if_neg (by decide), if_pos rfl, skipBlanks_append hgap, List.cons_append,
    skipBlanks_cons hblank]
  simp [hc]

theorem nextItem_close (first : Bool) (rest : List Char) :
    nextItem first (gap ++ ']' :: rest) = .ok (false, ']' :: rest) := by
  unfold nextItem
  rw [skipBlanks_append hgap, skipBlanks_cons (by decide)]
  rfl

end

theorem closeArray_cons (rest : List Char) : closeArray (']' :: rest) = .ok rest := by
  unfold closeArray
  rw [skipBlanks_cons (by decide)]
  rfl

section

variable {reader : Reader α} {depth : ℕ} {gap : List Char} (hgap : Blanks gap)

/-- One item is read, and then the others. -/
theorem itemsFrom_item {i : Item α} (hi : i.Gives reader depth) {first : Bool}
    {cs more : List Char} (hnext : nextItem first cs = .ok (true, i.value ++ more))
    (hmore : Delimited more) (fuel : ℕ) :
    itemsFrom reader depth (fuel + 1) first cs =
      i.outcome >>= fun x => (itemsFrom reader depth fuel false more).map fun r =>
        (x :: r.1, r.2) := by
  rw [itemsFrom, hnext]
  simp only [bind, Except.bind, if_true]
  rw [hi.takes more hmore]
  cases i.outcome with
  | error cause => rfl
  | ok x =>
      simp only [Except.map]
      cases itemsFrom reader depth fuel false more <;> rfl

include hgap in
/-- All items behind the first one are read, up to the closing bracket.  There may be blanks left
from the first one. -/
theorem itemsFrom_behind (items : List (Item α)) (hgives : ∀ i ∈ items, i.Gives reader depth)
    {trail : List Char} (htrail : Blanks trail) {fuel : ℕ} (hfuel : items.length < fuel)
    (rest : List Char) :
    itemsFrom reader depth fuel false (trail ++
        ((items.map fun i => i.text).flatMap (fun part => ',' :: part) ++ (gap ++ ']' :: rest))) =
      (items.mapM Item.outcome).map (·, ']' :: rest) := by
  induction items generalizing trail fuel with
  | nil =>
      obtain ⟨fuel, rfl⟩ := Nat.exists_eq_add_of_lt hfuel
      rw [List.map_nil, List.flatMap_nil, List.nil_append, itemsFrom, ← List.append_assoc,
        nextItem_close (htrail.append hgap)]
      rfl
  | cons i items ih =>
      obtain ⟨fuel, rfl⟩ := Nat.exists_eq_add_of_lt hfuel
      obtain ⟨hi, hgives⟩ := List.forall_mem_cons.mp hgives
      have hnext := nextItem_comma i.blanks_lead htrail hi.begins
        (i.trail ++ ((items.map fun i => i.text).flatMap (fun part => ',' :: part) ++
          (gap ++ ']' :: rest)))
      have htext : trail ++ (((i :: items).map fun i => i.text).flatMap (fun part => ',' :: part) ++
          (gap ++ ']' :: rest)) = trail ++ ',' :: (i.lead ++ (i.value ++ (i.trail ++
            ((items.map fun i => i.text).flatMap (fun part => ',' :: part) ++
              (gap ++ ']' :: rest))))) := by
        simp [Spaced.text]
      rw [htext, itemsFrom_item hi hnext (delimited_blanks_append i.blanks_trail
        (delimited_parts false _ hgap rest)), ih hgives i.blanks_trail (by simp at hfuel ⊢; omega),
        List.mapM_cons]
      cases i.outcome with
      | error cause => rfl
      | ok x =>
          simp only [bind, Except.bind]
          cases items.mapM Item.outcome <;> rfl

include hgap in
/-- All items are read, up to the closing bracket. -/
theorem itemsFrom_separated (items : List (Item α)) (hgives : ∀ i ∈ items, i.Gives reader depth)
    {fuel : ℕ} (hfuel : items.length < fuel) (rest : List Char) :
    itemsFrom reader depth fuel true
        (separated (items.map fun i => i.text) ++ (gap ++ ']' :: rest)) =
      (items.mapM Item.outcome).map (·, ']' :: rest) := by
  obtain ⟨fuel, rfl⟩ := Nat.exists_eq_add_of_lt hfuel
  cases items with
  | nil =>
      rw [List.map_nil, separated, List.nil_append, itemsFrom, nextItem_close hgap]
      rfl
  | cons i items =>
      obtain ⟨hi, hgives⟩ := List.forall_mem_cons.mp hgives
      let others := (items.map fun i => i.text).flatMap (fun part => ',' :: part) ++
        (gap ++ ']' :: rest)
      have htext : separated ((i :: items).map fun i => i.text) ++ (gap ++ ']' :: rest) =
          i.lead ++ (i.value ++ (i.trail ++ others)) := by
        simp [separated, Spaced.text, others]
      have hmore : Delimited (i.trail ++ others) :=
        delimited_blanks_append i.blanks_trail (delimited_parts false _ hgap rest)
      rw [htext, itemsFrom_item hi (nextItem_first i.blanks_lead hi.begins _) hmore,
        itemsFrom_behind hgap items hgives i.blanks_trail (by simp at hfuel ⊢; omega),
        List.mapM_cons]
      cases i.outcome with
      | error cause => rfl
      | ok x =>
          simp only [bind, Except.bind]
          cases items.mapM Item.outcome <;> rfl

include hgap in
/-- An array is read as its items are, one level further in. -/
theorem list_takes {lead : List Char} (hlead : Blanks lead) (items : List (Item α))
    (hdepth : 1 < depth) (hgives : ∀ i ∈ items, i.Gives reader (depth - 1)) :
    (Reader.list reader).Takes depth (lead ++ arrayText (items.map Item.toSpaced) gap)
      (items.mapM Item.outcome) := by
  intro rest _
  let body := separated (items.map fun i => i.text) ++ (gap ++ ']' :: rest)
  have htext : arrayText (items.map Item.toSpaced) gap ++ rest = '[' :: body := by
    simp [arrayText, enclosed, opener, closer, body, Function.comp_def]
  have hfuel : items.length < body.length + 1 := by
    have hle := length_le_separated (items.map fun i => i.text)
    rw [List.length_map] at hle
    simp only [body, List.length_append, List.length_cons]
    omega
  have hlevel : ¬ depth ≤ 1 := Nat.not_le.mpr hdepth
  unfold Reader.list
  rw [List.append_assoc, skipBlanks_append hlead, htext, skipBlanks_cons (by decide)]
  simp only [enter, if_neg hlevel, bind, Except.bind]
  rw [itemsFrom_separated hgap items hgives hfuel]
  cases items.mapM Item.outcome with
  | error cause => rfl
  | ok xs =>
      simp only [Except.map, closeArray_cons]
      rfl

/-- Where no level is left an array is refused as soon as it begins. -/
theorem list_tooDeep {lead : List Char} (hlead : Blanks lead) (hdepth : depth ≤ 1)
    (cs : List Char) :
    (Reader.list reader).Takes depth (lead ++ '[' :: cs) (.error (.malformed .tooDeep)) := by
  intro rest _
  unfold Reader.list
  rw [List.append_assoc, skipBlanks_append hlead, List.cons_append, skipBlanks_cons (by decide)]
  simp only [enter, if_pos hdepth]
  rfl

end

/-! ## Arrays of strings -/

theorem begins_quoted (body : List Char) : Begins (quoted body) :=
  ⟨'"', body ++ ['"'], rfl, by decide, by decide⟩

end Reader

/-- An array of strings, and the texts that they spell. -/
inductive SpellsList : List Char → List String → Prop
  | array {items : List (Spaced × String)} {gap : List Char} (hgap : Blanks gap)
      (hitems : ∀ i ∈ items, ∃ body, Spells body i.2.toList ∧ i.1.value = quoted body) :
      SpellsList (arrayText (items.map Prod.fst) gap) (items.map Prod.snd)

namespace Reader

/-- An array of strings is read as the texts that it spells. -/
theorem strings_take {value : List Char} {texts : List String} (h : SpellsList value texts)
    {depth : ℕ} (hdepth : 1 < depth) {gap : List Char} (hgap : Blanks gap) :
    (Reader.list .string).Takes depth (gap ++ value) (.ok texts) := by
  cases h with
  | @array items inner hinner hitems =>
      let read : List (Item String) := items.map fun i => ⟨i.1, .ok i.2⟩
      have hgives : ∀ i ∈ read, i.Gives .string (depth - 1) := by
        intro i hi
        obtain ⟨item, hitem, rfl⟩ := List.mem_map.mp hi
        obtain ⟨body, hspells, hvalue⟩ := hitems item hitem
        have htakes := string_takes_spelled blanks_nil (depth - 1) hspells
        rw [List.nil_append, ← hvalue] at htakes
        exact ⟨hvalue ▸ begins_quoted body, htakes⟩
      have hlist := list_takes hinner hgap read hdepth hgives
      have hspaced : read.map Item.toSpaced = items.map Prod.fst := by
        simp [read, Function.comp_def]
      have houtcome : read.mapM Item.outcome = .ok (items.map Prod.snd) := by
        rw [List.mapM_map]
        exact List.mapM_pure
      rwa [hspaced, houtcome] at hlist

end Reader

end RegexInference.Json
