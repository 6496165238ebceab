import RegexInference.Proofs.Json.Arrays
import RegexInference.Proofs.Json.Members

/-!
# Values of a type

Which texts of a value stand for a count, a truth value, a name out of several or a number in
floating point, and what they stand for.  A reader decodes such values if it takes each of their
texts for what it stands for.
-/

namespace RegexInference.Json

/-! ## Texts and what they stand for -/

/-- The digits of a whole number below a limit. -/
inductive IsCount (limit : ℕ) : List Char → ℕ → Prop
  | digits {n : ℕ} (h : n < limit) : IsCount limit (Nat.toDigits 10 n) n

inductive IsBoolean : List Char → Bool → Prop
  | word (b : Bool) : IsBoolean (if b then "true".toList else "false".toList) b

/-- A number in floating point. -/
def Number.toFloat : Number → Float
  | integer n => if n < 0 then -(n.natAbs.toUInt64.toFloat) else n.toNat.toUInt64.toFloat
  | float x => x

/-- A number that is not out of range. -/
inductive IsFloat : List Char → Float → Prop
  | number {t : NumberText} {exponent text : List Char} {negative : Bool} {n : Number}
      (h : t.WellFormed) (hspelled : NumberText.ExponentSpelling exponent t.exponent)
      (htext : text = t.whole ++ (NumberText.fractionText t.fraction ++ exponent))
      (hvalue : t.value? negative = some n) :
      IsFloat (if negative then '-' :: text else text) n.toFloat

section

variable {α β : Type}

/-- A name, as a string or as the only key of an object with the value `null`. -/
inductive IsVariant (name : α → String) : List Char → α → Prop
  | string {x : α} {body : List Char} (h : Spells body (name x).toList) :
      IsVariant name (quoted body) x
  | object {x : α} {m : NamedMember} {gap : List Char} (hgap : Blanks gap)
      (hname : m.name = name x) (hnull : m.content.value = "null".toList) :
      IsVariant name (objectText [m.toMember] gap) x

inductive IsPair (D : List Char → α → Prop) (E : List Char → β → Prop) :
    List Char → α × β → Prop
  | array {a b : Spaced} {x : α} {y : β} {gap : List Char} (hgap : Blanks gap) (ha : D a.value x)
      (hb : E b.value y) : IsPair D E (arrayText [a, b] gap) (x, y)

/-- A value, or `null` for none. -/
inductive IsOptional (D : List Char → α → Prop) : List Char → Option α → Prop
  | null : IsOptional D "null".toList none
  | some {value : List Char} {x : α} (h : D value x) : IsOptional D value (some x)

end

theorem IsCount.exists_digit {limit n : ℕ} {value : List Char} (h : IsCount limit value n) :
    ∃ d ds, value = d :: ds ∧ d.isDigit = true := by
  obtain ⟨-⟩ := h
  have hsome : Nat.toDigits 10 n ≠ [] := Nat.toDigits_ne_nil
  obtain ⟨d, ds, hdigits⟩ := List.exists_cons_of_ne_nil hsome
  exact ⟨d, ds, hdigits, allDigits_toDigits n d (hdigits ▸ List.mem_cons_self)⟩

theorem IsCount.begins {limit n : ℕ} {value : List Char} (h : IsCount limit value n) :
    Begins value := by
  obtain ⟨d, ds, rfl, hd⟩ := h.exists_digit
  obtain ⟨hblank, hother⟩ := isDigit_begins hd
  exact ⟨d, ds, rfl, hblank, hother ']' (by decide)⟩

/-! ## Readers -/

namespace Reader

variable {α β : Type} {depth : ℕ}

/-- The reader takes every text of a value for that value, with any blanks in front of it. -/
def Decodes (reader : Reader α) (depth : ℕ) (D : List Char → α → Prop) : Prop :=
  ∀ {value x}, D value x → ∀ gap, Blanks gap → reader.Takes depth (gap ++ value) (.ok x)

/-- A whole text is read as the value in it, with any blanks around it. -/
theorem Decodes.run {reader : Reader α} {D : List Char → α → Prop} (h : reader.Decodes maxDepth D)
    {value : List Char} {x : α} (hvalue : D value x) {lead trail : List Char} (hlead : Blanks lead)
    (htrail : Blanks trail) : reader.run (String.ofList (lead ++ (value ++ trail))) = .ok x := by
  have hrun := run_of_takes_blanks (h hvalue lead hlead) htrail
  rwa [List.append_assoc] at hrun

theorem natural_decodes {limit : ℕ} (hlimit : limit ≤ UInt64.size) (expected : String) :
    (Reader.natural limit expected).Decodes depth (IsCount limit) := by
  intro value n h gap hgap
  obtain ⟨hn⟩ := h
  exact natural_takes_digits hgap depth hlimit expected hn

theorem boolean_decodes : Reader.boolean.Decodes depth IsBoolean := by
  intro value b h gap hgap
  obtain ⟨b⟩ := h
  exact boolean_takes hgap depth b

theorem float_eq_number : Reader.float = Reader.number "f64" fun n => .ok n.toFloat := by
  unfold Reader.float
  congr
  funext n
  cases n <;> rfl

theorem float_decodes : Reader.float.Decodes depth IsFloat := by
  intro value x h gap hgap
  obtain @⟨t, exponent, text, negative, n, hformed, hspelled, htext, hvalue⟩ := h
  have htakes := number_takes_spelled hgap depth hformed hspelled negative "f64"
    (fun n => .ok n.toFloat) htext
  rw [NumberText.converted, hvalue, ← float_eq_number] at htakes
  exact htakes

/-! ### Names -/

theorem variant_takes_object {known : List (String × α)} {m : NamedMember} {x : α}
    (hknown : variantOf known m.name = .ok x) (hnull : m.content.value = "null".toList)
    {lead gap : List Char} (hlead : Blanks lead) (hgap : Blanks gap) (hdepth : 1 < depth) :
    (Reader.variant known).Takes depth (lead ++ objectText [m.toMember] gap) (.ok x) := by
  intro rest _
  have htext : objectText [m.toMember] gap ++ rest = '{' :: (m.lead ++ (quoted m.key ++
      (m.gap ++ ':' :: (m.content.lead ++ ("null".toList ++
        (m.content.trail ++ (gap ++ '}' :: rest))))))) := by
    simp [objectText, enclosed, opener, closer, separated, Member.text, Spaced.text, hnull]
  have hlevel : ¬ depth ≤ 1 := Nat.not_le.mpr hdepth
  have hword : "null".toList ++ (m.content.trail ++ (gap ++ '}' :: rest)) =
      'n' :: ("ull".toList ++ (m.content.trail ++ (gap ++ '}' :: rest))) := rfl
  unfold Reader.variant
  rw [List.append_assoc, skipBlanks_append hlead, htext, skipBlanks_cons (by decide)]
  simp only [enter, if_neg hlevel]
  rw [skipBlanks_append m.blanks_lead, quoted_append, skipBlanks_cons (by decide)]
  simp only [readText_spelled m.spelled, bind, Except.bind, hknown]
  rw [readColon_blanks m.blanks_gap]
  dsimp only
  rw [skipBlanks_append m.content.blanks_lead, hword, skipBlanks_cons (by decide)]
  simp only [scanWord_append]
  rw [skipBlanks_append m.content.blanks_trail, skipBlanks_append hgap,
    skipBlanks_cons (by decide)]
  rfl

theorem variant_decodes {known : List (String × α)} {name : α → String}
    (hknown : ∀ x, variantOf known (name x) = .ok x) (hdepth : 1 < depth) :
    (Reader.variant known).Decodes depth (IsVariant name) := by
  intro value x h gap hgap
  cases h with
  | string hspelled => exact variant_takes_spelled hgap depth (hknown x) hspelled
  | object hinner hname hnull =>
      exact variant_takes_object (hname ▸ hknown x) hnull hgap hinner hdepth

/-! ### Pairs and options -/

theorem optional_decodes {reader : Reader α} {D : List Char → α → Prop}
    (h : reader.Decodes depth D)
    (hdigit : ∀ {value x}, D value x → ∃ d ds, value = d :: ds ∧ d.isDigit = true) :
    (Reader.optional reader).Decodes depth (IsOptional D) := by
  intro value x hvalue gap hgap rest hrest
  unfold Reader.optional
  rw [List.append_assoc, skipBlanks_append hgap]
  cases hvalue with
  | null =>
      have hword : "null".toList ++ rest = 'n' :: ("ull".toList ++ rest) := rfl
      rw [hword, skipBlanks_cons (by decide)]
      simp only [scanWord_append]
      rfl
  | some hvalue =>
      have hread := h hvalue [] blanks_nil rest hrest
      obtain ⟨d, ds, rfl, hd⟩ := hdigit hvalue
      obtain ⟨hblank, hother⟩ := isDigit_begins hd
      have hn : d ≠ 'n' := hother 'n' (by decide)
      rw [List.nil_append, List.cons_append] at hread
      rw [List.cons_append, skipBlanks_cons hblank]
      simp [hn, hread, bind, Except.bind, Except.map, pure, Except.pure]

theorem closeArray_blanks {gap : List Char} (hgap : Blanks gap) (rest : List Char) :
    closeArray (gap ++ ']' :: rest) = .ok rest := by
  unfold closeArray
  rw [skipBlanks_append hgap, skipBlanks_cons (by decide)]
  rfl

theorem pair_decodes {first : Reader α} {second : Reader β} {D : List Char → α → Prop}
    {E : List Char → β → Prop} (hfirst : first.Decodes (depth - 1) D)
    (hsecond : second.Decodes (depth - 1) E) (hD : ∀ {value x}, D value x → Begins value)
    (hE : ∀ {value y}, E value y → Begins value) (hdepth : 1 < depth) :
    (Reader.pair first second).Decodes depth (IsPair D E) := by
  intro value xy h lead hlead rest _
  obtain @⟨a, b, x, y, gap, hgap, ha, hb⟩ := h
  have htext : arrayText [a, b] gap ++ rest = '[' :: (a.lead ++ (a.value ++ (a.trail ++
      ',' :: (b.lead ++ (b.value ++ (b.trail ++ (gap ++ ']' :: rest))))))) := by
    simp [arrayText, enclosed, opener, closer, separated, Spaced.text]
  have hlevel : ¬ depth ≤ 1 := Nat.not_le.mpr hdepth
  have hfirstEnd : Delimited (a.trail ++
      ',' :: (b.lead ++ (b.value ++ (b.trail ++ (gap ++ ']' :: rest))))) :=
    delimited_blanks_append a.blanks_trail (by simp [Delimited])
  have hsecondEnd : Delimited (b.trail ++ (gap ++ ']' :: rest)) :=
    delimited_blanks_append b.blanks_trail (delimited_blanks_append hgap (by simp [Delimited]))
  have hx := hfirst ha [] blanks_nil _ hfirstEnd
  have hy := hsecond hb [] blanks_nil _ hsecondEnd
  rw [List.nil_append] at hx hy
  unfold Reader.pair
  rw [List.append_assoc, skipBlanks_append hlead, htext, skipBlanks_cons (by decide)]
  simp only [enter, if_neg hlevel]
  rw [nextItem_first a.blanks_lead (hD ha)]
  simp only [bind, Except.bind, Bool.not_true, Bool.false_eq_true, if_false]
  rw [hx]
  simp only [Except.map]
  rw [nextItem_comma b.blanks_lead a.blanks_trail (hE hb)]
  simp only [Bool.not_true, Bool.false_eq_true, if_false]
  rw [hy]
  simp only [Except.map]
  rw [← List.append_assoc, closeArray_blanks (b.blanks_trail.append hgap)]
  rfl

end Reader

end RegexInference.Json
