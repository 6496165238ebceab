import Mathlib.Data.List.Nodup
import RegexInference.Proofs.Json.Typed

/-!
# Records that are completed slot by slot

An object need not give all values of a record.  Those that it gives are taken from its members, and
the others from a record that was there before.  This determines the record, and it is the one that
a reader makes of the object, in whatever order the members come and whatever others are among them.
-/

namespace RegexInference.Json

/-- A place of a record `ρ`: the name of the member that gives its value, and what the texts of that
member stand for. -/
structure Slot (ρ : Type) where
  name : String
  Content : Type
  /-- The text stands for this value. -/
  Denotes : List Char → Content → Prop
  get : ρ → Content
  set : Content → ρ → ρ

variable {ρ : Type}

/-- The record has in this slot what the member says or, without one, what was there initially. -/
structure Slot.Given (s : Slot ρ) (members : List NamedMember) (initial r : ρ) : Prop where
  present : ∀ m ∈ members, m.name = s.name → s.Denotes m.content.value (s.get r)
  absent : s.name ∉ members.map (fun m => m.name) → s.get r = s.get initial

/-- No slot is given twice, and those that are given hold values of their types.  Members that are
not slots hold any values. -/
structure Suits (slots : List (Slot ρ)) (members : List NamedMember) : Prop where
  unique : ∀ s ∈ slots, (members.map fun m => m.name).count s.name ≤ 1
  typed : ∀ s ∈ slots, ∀ m ∈ members, m.name = s.name → ∃ x, s.Denotes m.content.value x
  others : ∀ m ∈ members, m.name ∉ slots.map (·.name) → IsValue m.content.value

/-- An object that gives some slots of a record, which has the others from `initial`. -/
inductive IsPartial (slots : List (Slot ρ)) (initial : ρ) : List Char → ρ → Prop
  | object {members : List NamedMember} {gap : List Char} {r : ρ} (hgap : Blanks gap)
      (hsuits : Suits slots members) (h : ∀ s ∈ slots, s.Given members initial r) :
      IsPartial slots initial (objectText (members.map fun m => m.toMember) gap) r

/-- The slots have different names, each is set by itself, and together they make up the record. -/
structure Independent (slots : List (Slot ρ)) : Prop where
  names : (slots.map (·.name)).Nodup
  get_set : ∀ s ∈ slots, ∀ x r, s.get (s.set x r) = x
  get_set_of_ne : ∀ s ∈ slots, ∀ t ∈ slots, t.name ≠ s.name → ∀ x r, t.get (s.set x r) = t.get r
  ext : ∀ r r' : ρ, (∀ s ∈ slots, s.get r = s.get r') → r = r'

variable {slots : List (Slot ρ)} {members : List NamedMember}

/-! ## Records that are given -/

theorem Suits.eq_of_name (h : Suits slots members) {s : Slot ρ} (hs : s ∈ slots) {m n : NamedMember}
    (hm : m ∈ members) (hn : n ∈ members) (hmname : m.name = s.name) (hnname : n.name = s.name) :
    m = n := by
  have hm : m ∈ members.filter fun k => k.name == s.name := by simp [hm, hmname]
  have hn : n ∈ members.filter fun k => k.name == s.name := by simp [hn, hnname]
  have hlength : (members.filter fun k => k.name == s.name).length ≤ 1 := by
    have hcount := h.unique s hs
    rwa [List.count, List.countP_map, List.countP_eq_length_filter] at hcount
  cases hfilter : members.filter fun k => k.name == s.name with
  | nil => simp [hfilter] at hm
  | cons k others =>
      obtain rfl : others = [] := by simpa [hfilter] using hlength
      rw [hfilter, List.mem_singleton] at hm hn
      rw [hm, hn]

/-- Every slot has a value to be filled in. -/
theorem Suits.exists_content (h : Suits slots members) (initial : ρ) {s : Slot ρ} (hs : s ∈ slots) :
    ∃ x, (∀ m ∈ members, m.name = s.name → s.Denotes m.content.value x) ∧
      (s.name ∉ members.map (fun m => m.name) → x = s.get initial) := by
  by_cases hgiven : s.name ∈ members.map fun m => m.name
  · obtain ⟨m, hm, hname⟩ := List.mem_map.mp hgiven
    obtain ⟨x, hx⟩ := h.typed s hs m hm hname
    refine ⟨x, fun n hn hnname => ?_, fun habsent => absurd hgiven habsent⟩
    rwa [h.eq_of_name hs hn hm hnname hname]
  · refine ⟨s.get initial, fun m hm hname => ?_, fun _ => rfl⟩
    exact absurd (hname ▸ List.mem_map_of_mem hm) hgiven

namespace Independent

theorem eq_of_name (h : Independent slots) {s t : Slot ρ} (hs : s ∈ slots) (ht : t ∈ slots)
    (hname : s.name = t.name) : s = t :=
  List.inj_on_of_nodup_map h.names hs ht hname

/-- There is a record that the members give. -/
theorem exists_given (h : Independent slots) (hsuits : Suits slots members) (initial : ρ) :
    ∃ r, ∀ s ∈ slots, s.Given members initial r := by
  -- The slots are filled one by one, and filling one leaves the others as they are.
  suffices hsome : ∀ filled, filled ⊆ slots → ∃ r, ∀ s ∈ filled, s.Given members initial r from
    hsome slots (List.Subset.refl slots)
  intro filled
  induction filled with
  | nil => exact fun _ => ⟨initial, fun s hs => absurd hs List.not_mem_nil⟩
  | cons s filled ih =>
      intro hsub
      obtain ⟨hs, hsub⟩ := List.cons_subset.mp hsub
      obtain ⟨r, hr⟩ := ih hsub
      obtain ⟨x, hpresent, habsent⟩ := hsuits.exists_content initial hs
      refine ⟨s.set x r, fun t ht => ?_⟩
      by_cases hname : t.name = s.name
      · obtain rfl : t = s := by
          rcases List.mem_cons.mp ht with heq | ht
          · exact heq
          · exact h.eq_of_name (hsub ht) hs hname
        constructor
        · simpa only [h.get_set t hs] using hpresent
        · simpa only [h.get_set t hs] using habsent
      · have ht : t ∈ filled := List.mem_of_ne_of_mem (fun heq => hname (heq ▸ rfl)) ht
        have hget : t.get (s.set x r) = t.get r := h.get_set_of_ne s hs t (hsub ht) hname x r
        constructor
        · rw [hget]; exact (hr t ht).present
        · rw [hget]; exact (hr t ht).absent

end Independent

/-- Members that suit the slots give a record. -/
theorem Suits.exists_isPartial (h : Suits slots members) (hslots : Independent slots) (initial : ρ)
    {gap : List Char} (hgap : Blanks gap) :
    ∃ r, IsPartial slots initial (objectText (members.map fun m => m.toMember) gap) r := by
  obtain ⟨r, hr⟩ := hslots.exists_given h initial
  exact ⟨r, .object hgap h hr⟩

/-! ## Values that are carried over -/

/-- Puts what a record has in the slot of this name into another one. -/
def carry (slots : List (Slot ρ)) (c : ρ) (name : String) : ρ → ρ :=
  (slots.find? (·.name == name)).elim id fun s => s.set (s.get c)

theorem Independent.get_carry (h : Independent slots) {s : Slot ρ} (hs : s ∈ slots) (c : ρ)
    (name : String) (r : ρ) :
    s.get (carry slots c name r) = if s.name = name then s.get c else s.get r := by
  unfold carry
  cases hfind : slots.find? (·.name == name) with
  | none =>
      have hother : s.name ≠ name := by simpa using List.find?_eq_none.mp hfind s hs
      rw [if_neg hother]
      rfl
  | some t =>
      have ht : t ∈ slots := List.mem_of_find?_eq_some hfind
      have htname : t.name = name := by simpa using List.find?_some hfind
      subst htname
      change s.get (t.set (t.get c) r) = _
      split_ifs with hname
      · obtain rfl := h.eq_of_name hs ht hname
        exact h.get_set s hs _ _
      · exact h.get_set_of_ne t ht s hs hname _ _

/-- A member, with what a record has in the slot of its name. -/
def carrying (slots : List (Slot ρ)) (c : ρ) (m : NamedMember) : Reader.Filling ρ :=
  ⟨m, .ok (carry slots c m.name)⟩

theorem Independent.foldlM_carrying (h : Independent slots) (c : ρ) (members : List NamedMember)
    (r : ρ) :
    ∃ r', (members.map (carrying slots c)).foldlM Reader.Filling.apply r = .ok r' ∧
      ∀ s ∈ slots, s.get r' =
        if s.name ∈ members.map (fun m => m.name) then s.get c else s.get r := by
  induction members generalizing r with
  | nil => exact ⟨r, rfl, fun s _ => by simp⟩
  | cons m members ih =>
      obtain ⟨r', hfold, hget⟩ := ih (carry slots c m.name r)
      refine ⟨r', hfold, fun s hs => ?_⟩
      rw [hget s hs, h.get_carry hs, List.map_cons]
      by_cases hname : s.name = m.name <;> simp [hname]

/-- What the members give is carried over into the record that was there before. -/
theorem Independent.foldlM_given (h : Independent slots) {initial c : ρ}
    (hc : ∀ s ∈ slots, s.Given members initial c) :
    (members.map (carrying slots c)).foldlM Reader.Filling.apply initial = .ok c := by
  obtain ⟨r, hfold, hget⟩ := h.foldlM_carrying c members initial
  have hsame : r = c := by
    refine h.ext r c fun s hs => ?_
    rw [hget s hs]
    split_ifs with hgiven
    · rfl
    · exact ((hc s hs).absent hgiven).symm
  rw [hfold, hsame]

/-! ## Records that are read -/

namespace Reader

/-- The field takes the texts of a slot and sets it to what they stand for. -/
structure FillsSlot (field : RecordField ρ) (s : Slot ρ) (depth : ℕ) : Prop where
  name : field.name = s.name
  optional : field.required = false
  takes : field.read.Decodes depth fun value put => ∃ x, s.Denotes value x ∧ put = s.set x

section

variable {α β : Type} {name : String} {reader : Reader α} {depth : ℕ} {D : List Char → α → Prop}
  (hreader : reader.Decodes depth D)

include hreader

theorem fillsSlot_of_put {E : List Char → β → Prop} {get : ρ → β} {put : α → ρ → ρ}
    {set : β → ρ → ρ} (hput : ∀ {value x}, E value x → ∃ y, D value y ∧ put y = set x) :
    FillsSlot (.optional name reader put) ⟨name, β, E, get, set⟩ depth := by
  refine ⟨rfl, rfl, ?_⟩
  rintro value _ ⟨x, hx, rfl⟩ gap hgap
  obtain ⟨y, hy, hsame⟩ := hput hx
  change Takes _ depth _ (.ok (set x))
  rw [← hsame]
  exact (hreader hy gap hgap).map put

theorem fillsSlot_optional {get : ρ → α} {set : α → ρ → ρ} :
    FillsSlot (.optional name reader set) ⟨name, α, D, get, set⟩ depth :=
  fillsSlot_of_put hreader fun h => ⟨_, h, rfl⟩

end

/-- The fields take the texts of the slots, one after the other. -/
def Fills (fields : List (RecordField ρ)) (slots : List (Slot ρ)) (depth : ℕ) : Prop :=
  List.Forall₂ (fun field s => FillsSlot field s depth) fields slots

variable {fields : List (RecordField ρ)} {depth : ℕ}

namespace Fills

theorem not_required (h : Fills fields slots depth) :
    ∀ field ∈ fields, field.required = false := by
  induction h with
  | nil => exact List.forall_mem_nil _
  | cons hfield _ ih => exact List.forall_mem_cons.mpr ⟨hfield.optional, ih⟩

theorem names (h : Fills fields slots depth) :
    fields.map (·.name) = slots.map (·.name) := by
  induction h with
  | nil => rfl
  | cons hfield _ ih => rw [List.map_cons, List.map_cons, hfield.name, ih]

/-- A name is that of a field and the slot that it fills, or of none. -/
theorem find? (h : Fills fields slots depth) (name : String) :
    (∃ field s, fields.find? (·.name == name) = some field ∧
      slots.find? (·.name == name) = some s ∧ FillsSlot field s depth) ∨
    fields.find? (·.name == name) = none ∧ slots.find? (·.name == name) = none := by
  induction h with
  | nil => exact .inr ⟨rfl, rfl⟩
  | @cons field s fields slots hfield _ ih =>
      by_cases hname : s.name = name
      · exact .inl ⟨field, s, by simp [hfield.name, hname], by simp [hname], hfield⟩
      · simpa [List.find?_cons, hfield.name, hname] using ih

end Fills

theorem gives_carrying (h : Fills fields slots depth) (hsuits : Suits slots members)
    {initial c : ρ} (hc : ∀ s ∈ slots, s.Given members initial c) {m : NamedMember}
    (hm : m ∈ members) : (carrying slots c m).Gives fields depth := by
  rcases h.find? m.name with ⟨field, s, hfield, hslot, hfills⟩ | ⟨hfield, hslot⟩
  · have hs : s ∈ slots := List.mem_of_find?_eq_some hslot
    have hname : s.name = m.name := by simpa using List.find?_some hslot
    refine .field hfield fun gap hgap => hfills.takes ?_ gap hgap
    refine ⟨s.get c, (hc s hs).present m hm hname.symm, ?_⟩
    rw [carry, hslot]
    rfl
  · refine .other hfield (hsuits.others m hm ?_) ?_
    · simpa using hslot
    · rw [carrying, carry, hslot]
      rfl

theorem pending_carrying (h : Fills fields slots depth) (hsuits : Suits slots members) (c : ρ) :
    Pending fields (members.map (carrying slots c)) [] := by
  have hnames : (members.map (carrying slots c)).map (·.name) = members.map fun m => m.name :=
    List.map_map ..
  refine ⟨fun field hfield => ?_, fun m _ => List.not_mem_nil, fun field hfield hrequired => ?_⟩
  · have hmem : field.name ∈ slots.map (·.name) := h.names ▸ List.mem_map_of_mem hfield
    obtain ⟨s, hs, hname⟩ := List.mem_map.mp hmem
    rw [hnames, ← hname]
    exact hsuits.unique s hs
  · rw [h.not_required field hfield] at hrequired
    exact absurd hrequired (by decide)

/-- A record is read from an object as its members give it. -/
theorem record_decodes (hdepth : 1 < depth) (h : Fills fields slots (depth - 1))
    (hslots : Independent slots) (name : String) (initial : ρ) :
    (Reader.record name fields initial).Decodes depth (IsPartial slots initial) := by
  intro value c hvalue lead hlead
  obtain @⟨members, gap, _, hgap, hsuits, hc⟩ := hvalue
  have hgives : ∀ m ∈ members.map (carrying slots c), m.Gives fields (depth - 1) :=
    List.forall_mem_map.mpr fun m hm => gives_carrying h hsuits hc hm
  have hread := record_takes_members hgap name initial hlead _ hdepth
    (pending_carrying h hsuits c) hgives
  rwa [hslots.foldlM_given hc, List.map_map] at hread

end Reader

end RegexInference.Json
