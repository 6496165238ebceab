import RegexInference.Json.Record
import RegexInference.Proofs.Json.Layout
import RegexInference.Proofs.Json.Skipping

/-!
# Objects that are read member by member

A record is read from an object in any layout, with its fields in any order and other members in
between, whatever these hold.  The values are put into the record one after the other, until one of
them is refused.
-/

namespace RegexInference.Json

/-- A member whose key spells a name. -/
structure NamedMember extends Member where
  name : String
  spelled : Spells key name.toList

/-- A value that is laid out as a member is named by its key. -/
def Style.named (style : Style) (key : String) (v : Value) : NamedMember where
  toMember := style.member key v
  name := key
  spelled := spells_escaped key.toList

namespace Reader

/-! ## Keys -/

section

variable {lead : List Char} (hlead : Blanks lead) {key : List Char} {name : String}
  (hkey : Spells key name.toList) (more : List Char)

include hlead hkey in
theorem nextKey_first : nextKey true (lead ++ (quoted key ++ more)) = .ok (some name, more) := by
  unfold nextKey
  rw [skipBlanks_append hlead, quoted_append, skipBlanks_cons (by decide)]
  dsimp only
  rw [if_neg (by decide), if_pos rfl, readKey, readText_spelled hkey]
  rfl

include hlead hkey in
theorem nextKey_comma {trail : List Char} (htrail : Blanks trail) :
    nextKey false (trail ++ ',' :: (lead ++ (quoted key ++ more))) = .ok (some name, more) := by
  unfold nextKey
  rw [skipBlanks_append htrail, skipBlanks_cons (by decide)]
  dsimp only
  rw [if_neg (by decide), if_neg (by decide), if_pos rfl, skipBlanks_append hlead,
    quoted_append, skipBlanks_cons (by decide)]
  change readKey ('"' :: _) = _
  rw [readKey, readText_spelled hkey]
  rfl

theorem nextKey_close {trail : List Char} (htrail : Blanks trail) (first : Bool)
    (rest : List Char) : nextKey first (trail ++ '}' :: rest) = .ok (none, '}' :: rest) := by
  unfold nextKey
  rw [skipBlanks_append htrail, skipBlanks_cons (by decide)]
  rfl

end

section

variable (style : Style) (key : String) (v : Value) (more : List Char)

theorem nextKey_member_first :
    nextKey true ((style.member key v).text ++ more) =
      .ok (some key, ':' :: (style.gap ++ v.writtenAs style.inner ++ more)) := by
  rw [Style.text_member, List.append_assoc, List.append_assoc]
  exact nextKey_first style.blanks_lead (spells_escaped _) _

theorem nextKey_member_comma :
    nextKey false (',' :: ((style.member key v).text ++ more)) =
      .ok (some key, ':' :: (style.gap ++ v.writtenAs style.inner ++ more)) := by
  rw [Style.text_member, List.append_assoc, List.append_assoc]
  exact nextKey_comma style.blanks_lead (spells_escaped _) _ blanks_nil

end

theorem closeObject_cons (rest : List Char) : closeObject ('}' :: rest) = .ok rest := by
  unfold closeObject
  rw [skipBlanks_cons (by decide)]
  rfl

/-! ## Members -/

variable {ρ : Type}

/-- A member of an object, and what is made of its value. -/
structure Filling (ρ : Type) extends NamedMember where
  outcome : Except Error (ρ → ρ)

namespace Filling

/-- The member is a field whose reader makes this of the value, or it is passed over. -/
inductive Gives (fields : List (RecordField ρ)) (depth : ℕ) (m : Filling ρ) : Prop
  | field {field : RecordField ρ} (hfield : fields.find? (·.name == m.name) = some field)
      (htakes : ∀ gap, Blanks gap → field.read.Takes depth (gap ++ m.content.value) m.outcome)
  | other (hother : fields.find? (·.name == m.name) = none) (hvalue : IsValue m.content.value)
      (houtcome : m.outcome = .ok id)

/-- Puts the value into a record. -/
def apply (record : ρ) (m : Filling ρ) : Except Error ρ := m.outcome.map (· record)

end Filling

/-- The names that were read behind a member. -/
def seenBehind (fields : List (RecordField ρ)) (seen : List String) (name : String) :
    List String :=
  if (fields.find? (·.name == name)).isSome then name :: seen else seen

theorem mem_seenBehind {fields : List (RecordField ρ)} {seen : List String} {name other : String} :
    other ∈ seenBehind fields seen name ↔
      other ∈ seen ∨ other = name ∧ ∃ field ∈ fields, field.name = name := by
  have hfield : (fields.find? (·.name == name)).isSome = true ↔
      ∃ field ∈ fields, field.name = name := by simp
  unfold seenBehind
  split_ifs with hsome
  · rw [List.mem_cons, or_comm, and_iff_left (hfield.mp hsome)]
  · rw [hfield] at hsome
    simp [hsome]

section

variable {fields : List (RecordField ρ)} {depth : ℕ} {m : Filling ρ} {seen : List String}
  {first : Bool} {cs more : List Char}
  (hkey : nextKey first cs = .ok (some m.name,
    m.gap ++ ':' :: (m.content.lead ++ (m.content.value ++ more))))
  (hmore : Delimited more) (fuel : ℕ) (record : ρ)

include hkey hmore

/-- A field is read, and then the others. -/
theorem fieldsByName_field {field : RecordField ρ}
    (hfield : fields.find? (·.name == m.name) = some field)
    (htakes : ∀ gap, Blanks gap → field.read.Takes depth (gap ++ m.content.value) m.outcome)
    (hseen : m.name ∉ seen) :
    fieldsByName fields depth (fuel + 1) first seen record cs =
      m.apply record >>= fun next =>
        fieldsByName fields depth fuel false (m.name :: seen) next more := by
  have hcontains : ¬ seen.contains m.name = true := by simpa using hseen
  have hread := htakes m.content.lead m.content.blanks_lead more hmore
  rw [List.append_assoc] at hread
  rw [fieldsByName, hkey]
  simp only [bind, Except.bind]
  rw [hfield]
  dsimp only
  rw [if_neg hcontains, readColon_blanks m.blanks_gap]
  dsimp only
  rw [hread]
  unfold Filling.apply
  cases m.outcome <;> rfl

/-- Another member is passed over. -/
theorem fieldsByName_other (hother : fields.find? (·.name == m.name) = none)
    (hvalue : IsValue m.content.value) :
    fieldsByName fields depth (fuel + 1) first seen record cs =
      fieldsByName fields depth fuel false seen record more := by
  have hskip := skip_takes hvalue depth m.content.blanks_lead more hmore
  rw [List.append_assoc] at hskip
  rw [fieldsByName, hkey]
  simp only [bind, Except.bind]
  rw [hother]
  dsimp only
  rw [readColon_blanks m.blanks_gap]
  dsimp only
  rw [hskip]
  rfl

/-- One member is dealt with, and then the others. -/
theorem fieldsByName_member (hm : m.Gives fields depth) (hseen : m.name ∉ seen) :
    fieldsByName fields depth (fuel + 1) first seen record cs =
      m.apply record >>= fun next =>
        fieldsByName fields depth fuel false (seenBehind fields seen m.name) next more := by
  cases hm with
  | field hfield htakes =>
      rw [fieldsByName_field hkey hmore fuel record hfield htakes hseen, seenBehind, hfield]
      rfl
  | other hother hvalue houtcome =>
      rw [fieldsByName_other hkey hmore fuel record hother hvalue, seenBehind, hother,
        Filling.apply, houtcome]
      rfl

end

/-- At the end no field is missing that has to be given. -/
theorem fieldsByName_close {fields : List (RecordField ρ)} {seen : List String}
    (hrequired : ∀ field ∈ fields, field.required = true → field.name ∈ seen) {first : Bool}
    {cs left : List Char} (hkey : nextKey first cs = .ok (none, left)) (depth fuel : ℕ)
    (record : ρ) :
    fieldsByName fields depth (fuel + 1) first seen record cs = .ok (record, left) := by
  have hnone : fields.find? (fun field => field.required && !seen.contains field.name) = none := by
    rw [List.find?_eq_none]
    intro field hfield
    simpa using hrequired field hfield
  rw [fieldsByName, hkey]
  simp only [bind, Except.bind]
  rw [hnone]
  rfl

/-- What is known of the members that are left to be read. -/
structure Pending (fields : List (RecordField ρ)) (members : List (Filling ρ))
    (seen : List String) : Prop where
  /-- No field is given twice. -/
  unique : ∀ field ∈ fields, (members.map (·.name)).count field.name ≤ 1
  unseen : ∀ m ∈ members, m.name ∉ seen
  /-- No field is missing that has to be given. -/
  required : ∀ field ∈ fields, field.required = true →
    field.name ∈ members.map (·.name) ∨ field.name ∈ seen

theorem Pending.behind {fields : List (RecordField ρ)} {m : Filling ρ} {members : List (Filling ρ)}
    {seen : List String} (h : Pending fields (m :: members) seen) :
    Pending fields members (seenBehind fields seen m.name) := by
  have hfresh : (∃ field ∈ fields, field.name = m.name) → m.name ∉ members.map (·.name) := by
    rintro ⟨field, hfield, hsame⟩
    have hcount := h.unique field hfield
    rw [List.map_cons, hsame, List.count_cons_self] at hcount
    exact List.count_eq_zero.mp (by omega)
  constructor
  · intro field hfield
    exact List.count_le_count_cons.trans (h.unique field hfield)
  · intro other hother hmem
    rcases mem_seenBehind.mp hmem with hseen | ⟨hsame, hfield⟩
    · exact h.unseen other (List.mem_cons_of_mem _ hother) hseen
    · exact hfresh hfield (hsame ▸ List.mem_map_of_mem hother)
  · intro field hfield hrequired
    rw [mem_seenBehind]
    rcases h.required field hfield hrequired with hmem | hseen
    · rcases List.mem_cons.mp hmem with hsame | hmem
      · exact Or.inr (Or.inr ⟨hsame, field, hfield, hsame⟩)
      · exact Or.inl hmem
    · exact Or.inr (Or.inl hseen)

/-! ## Objects -/

section

variable {fields : List (RecordField ρ)} {depth : ℕ} {gap : List Char} (hgap : Blanks gap)

include hgap in
/-- All members behind the first one are read, up to the closing brace.  There may be blanks left
from the first one. -/
theorem fieldsByName_behind (members : List (Filling ρ)) {seen : List String}
    (hpending : Pending fields members seen) (hgives : ∀ m ∈ members, m.Gives fields depth)
    {trail : List Char} (htrail : Blanks trail) {fuel : ℕ} (hfuel : members.length < fuel)
    (record : ρ) (rest : List Char) :
    fieldsByName fields depth fuel false seen record (trail ++
        ((members.map fun m => m.text).flatMap (fun part => ',' :: part) ++ (gap ++ '}' :: rest))) =
      (members.foldlM Filling.apply record).map (·, '}' :: rest) := by
  induction members generalizing seen trail fuel record with
  | nil =>
      obtain ⟨fuel, rfl⟩ := Nat.exists_eq_add_of_lt hfuel
      rw [List.map_nil, List.flatMap_nil, List.nil_append, ← List.append_assoc]
      exact fieldsByName_close (by simpa using hpending.required)
        (nextKey_close (htrail.append hgap) false rest) _ _ record
  | cons m members ih =>
      obtain ⟨fuel, rfl⟩ := Nat.exists_eq_add_of_lt hfuel
      obtain ⟨hm, hgives⟩ := List.forall_mem_cons.mp hgives
      let others := m.content.trail ++
        ((members.map fun m => m.text).flatMap (fun part => ',' :: part) ++ (gap ++ '}' :: rest))
      have htext : trail ++ (((m :: members).map fun m => m.text).flatMap
          (fun part => ',' :: part) ++ (gap ++ '}' :: rest)) =
          trail ++ ',' :: (m.lead ++ (quoted m.key ++
            (m.gap ++ ':' :: (m.content.lead ++ (m.content.value ++ others))))) := by
        simp [Member.text, Spaced.text, others]
      have hmore : Delimited others :=
        delimited_blanks_append m.content.blanks_trail (delimited_parts true _ hgap rest)
      rw [htext, fieldsByName_member (nextKey_comma m.blanks_lead m.spelled _ htrail) hmore _ _ hm
        (hpending.unseen m List.mem_cons_self), List.foldlM_cons]
      cases m.apply record with
      | error cause => rfl
      | ok next =>
          exact ih hpending.behind hgives m.content.blanks_trail (by simp at hfuel ⊢; omega) next

include hgap in
/-- All members are read, up to the closing brace. -/
theorem fieldsByName_separated (members : List (Filling ρ)) (hpending : Pending fields members [])
    (hgives : ∀ m ∈ members, m.Gives fields depth) {fuel : ℕ} (hfuel : members.length < fuel)
    (record : ρ) (rest : List Char) :
    fieldsByName fields depth fuel true [] record
        (separated (members.map fun m => m.text) ++ (gap ++ '}' :: rest)) =
      (members.foldlM Filling.apply record).map (·, '}' :: rest) := by
  obtain ⟨fuel, rfl⟩ := Nat.exists_eq_add_of_lt hfuel
  cases members with
  | nil =>
      rw [List.map_nil, separated, List.nil_append]
      exact fieldsByName_close (by simpa using hpending.required)
        (nextKey_close hgap true rest) _ _ record
  | cons m members =>
      obtain ⟨hm, hgives⟩ := List.forall_mem_cons.mp hgives
      let others := m.content.trail ++
        ((members.map fun m => m.text).flatMap (fun part => ',' :: part) ++ (gap ++ '}' :: rest))
      have htext : separated ((m :: members).map fun m => m.text) ++ (gap ++ '}' :: rest) =
          m.lead ++ (quoted m.key ++
            (m.gap ++ ':' :: (m.content.lead ++ (m.content.value ++ others)))) := by
        simp [separated, Member.text, Spaced.text, others]
      have hmore : Delimited others :=
        delimited_blanks_append m.content.blanks_trail (delimited_parts true _ hgap rest)
      rw [htext, fieldsByName_member (nextKey_first m.blanks_lead m.spelled _) hmore _ _ hm
        (hpending.unseen m List.mem_cons_self), List.foldlM_cons]
      cases m.apply record with
      | error cause => rfl
      | ok next =>
          exact fieldsByName_behind hgap members hpending.behind hgives m.content.blanks_trail
            (by simp at hfuel ⊢; omega) next rest

include hgap in
/-- A record is read from an object as the values of its fields are, one level further in.  They are
put into it one after the other, until one is refused. -/
theorem record_takes_members (name : String) (initial : ρ) {lead : List Char} (hlead : Blanks lead)
    (members : List (Filling ρ)) (hdepth : 1 < depth) (hpending : Pending fields members [])
    (hgives : ∀ m ∈ members, m.Gives fields (depth - 1)) :
    (Reader.record name fields initial).Takes depth
      (lead ++ objectText (members.map fun m => m.toMember) gap)
      (members.foldlM Filling.apply initial) := by
  intro rest _
  let body := separated (members.map fun m => m.text) ++ (gap ++ '}' :: rest)
  have htext : objectText (members.map fun m => m.toMember) gap ++ rest = '{' :: body := by
    simp [objectText, enclosed, opener, closer, body, Function.comp_def]
  have hfuel : members.length < body.length + 1 := by
    have hle := length_le_separated (members.map fun m => m.text)
    rw [List.length_map] at hle
    simp only [body, List.length_append, List.length_cons]
    omega
  have hlevel : ¬ depth ≤ 1 := Nat.not_le.mpr hdepth
  unfold Reader.record
  rw [List.append_assoc, skipBlanks_append hlead, htext, skipBlanks_cons (by decide)]
  simp only [enter, if_neg hlevel, bind, Except.bind]
  rw [fieldsByName_separated hgap members hpending hgives hfuel]
  cases members.foldlM Filling.apply initial with
  | error cause => rfl
  | ok record =>
      simp only [Except.map, closeObject_cons]
      rfl

end

end Reader

end RegexInference.Json
