import Mathlib.Data.List.Nodup
import RegexInference.Proofs.Json.Members

/-!
# Objects that are read back as records

Whether an object was written on one line or over several, a record is read from it member by
member.  The first member whose value is refused decides what the error is.
-/

namespace RegexInference.Json.Reader

variable {ρ : Type}

section

variable {α : Type} {name : String} {reader : Reader α} {put : α → ρ → ρ} {depth : ℕ}
  {text : List Char} {outcome : Except Error α}

/-- A field takes what the reader of its value takes. -/
theorem needed_takes (h : reader.Takes depth text outcome) :
    (RecordField.needed name reader put).read.Takes depth text (outcome.map put) :=
  h.map put

end

/-- A member of an object, and what is made of its value. -/
structure Entry (ρ : Type) where
  key : String
  value : Value
  outcome : Except Error (ρ → ρ)

namespace Entry

/-- The member gives this field of a record. -/
def Gives (fields : List (RecordField ρ)) (depth : ℕ) (style : Style) (e : Entry ρ) : Prop :=
  ∃ field, fields.find? (·.name == e.key) = some field ∧
    ∀ gap, Blanks gap → field.read.Takes depth (gap ++ e.value.writtenAs style) e.outcome

/-- Puts the value into a record. -/
def apply (record : ρ) (e : Entry ρ) : Except Error ρ := e.outcome.map (· record)

/-- A member whose value is put into a field. -/
def putting {α : Type} (key : String) (value : Value) (put : α → ρ → ρ)
    (outcome : Except Error α) : Entry ρ :=
  ⟨key, value, outcome.map put⟩

section

variable {α : Type} {fields : List (RecordField ρ)} {depth : ℕ} {style : Style} {key name : String}
  {value : Value} {reader : Reader α} {put : α → ρ → ρ} {outcome : Except Error α}

theorem putting_gives (hfield : fields.find? (·.name == key) = some (.needed name reader put))
    (h : ∀ gap, Blanks gap → reader.Takes depth (gap ++ value.writtenAs style) outcome) :
    (putting key value put outcome).Gives fields depth style :=
  ⟨_, hfield, fun gap hgap => needed_takes (h gap hgap)⟩

/-- Values that are neither arrays nor objects are written alike in every style. -/
theorem putting_gives_scalar
    (hfield : fields.find? (·.name == key) = some (.needed name reader put))
    (hscalar : value.writtenAs style = value.compact)
    (h : ∀ gap, Blanks gap → reader.Takes depth (gap ++ value.compact) outcome) :
    (putting key value put outcome).Gives fields depth style :=
  putting_gives hfield (hscalar.symm ▸ h)

end

/-- The member as it is laid out. -/
def filling (style : Style) (e : Entry ρ) : Filling ρ where
  toNamedMember := style.named e.key e.value
  outcome := e.outcome

theorem Gives.filling {fields : List (RecordField ρ)} {depth : ℕ} {style : Style} {e : Entry ρ}
    (h : e.Gives fields depth style.inner) : (e.filling style).Gives fields depth := by
  obtain ⟨field, hfield, htakes⟩ := h
  exact .field hfield htakes

end Entry

/-- A record is read from an object whose members are its fields, in any order.  Its values are put
into it one after the other, until one is refused. -/
theorem record_takes {fields : List (RecordField ρ)} {depth : ℕ} {style : Style} (name : String)
    (initial : ρ) (entries : List (Entry ρ)) (hdepth : 1 < depth)
    (hgives : ∀ e ∈ entries, e.Gives fields (depth - 1) style.inner)
    (hnodup : (entries.map Entry.key).Nodup)
    (hrequired : ∀ field ∈ fields, field.required = true → field.name ∈ entries.map Entry.key)
    {lead : List Char} (hlead : Blanks lead) :
    (Reader.record name fields initial).Takes depth
      (lead ++ (Value.object (entries.map fun e => (e.key, e.value))).writtenAs style)
      (entries.foldlM Entry.apply initial) := by
  let members := entries.map (Entry.filling style)
  have hnames : members.map (·.name) = entries.map Entry.key := List.map_map ..
  have hpending : Pending fields members [] := by
    refine ⟨fun field _ => ?_, fun m _ => List.not_mem_nil, fun field hfield hneeded => Or.inl ?_⟩
    · rw [hnames]
      exact List.nodup_iff_count_le_one.mp hnodup field.name
    · rw [hnames]
      exact hrequired field hfield hneeded
  have hmembers : ∀ m ∈ members, m.Gives fields (depth - 1) := by
    intro m hm
    obtain ⟨e, he, rfl⟩ := List.mem_map.mp hm
    exact (hgives e he).filling
  obtain ⟨gap, hgap, htext⟩ := Value.exists_writtenAs_object style
    (entries.map fun e => (e.key, e.value))
  have hrecord := record_takes_members hgap name initial hlead members hdepth hpending hmembers
  have hsame : members.map (fun m => m.toMember) =
      (entries.map fun e => (e.key, e.value)).map fun m => style.member m.1 m.2 := by
    simp [members, Entry.filling, Style.named, Function.comp_def]
  rw [htext, ← hsame]
  rwa [List.foldlM_map] at hrecord

end RegexInference.Json.Reader
