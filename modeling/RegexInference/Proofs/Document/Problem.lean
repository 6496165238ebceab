import RegexInference.Document.Problem
import RegexInference.Proofs.Json.Layout
import RegexInference.Proofs.Json.Slots

/-!
# Problems that are read

A problem is read from every object that gives each of its lists at most once, however its texts are
spelled and whatever else is in the object.  What is written for a problem is such an object, so
that every problem comes back as it was.
-/

namespace RegexInference.Problem

open Json

/-! ## What an object says -/

/-- The members of this name give a list: none where there are none, and else its texts. -/
inductive GivesList (members : List NamedMember) (name : String) : List String → Prop
  | absent (h : members.filter (·.name == name) = []) : GivesList members name []
  | once {m : NamedMember} {texts : List String} (h : members.filter (·.name == name) = [m])
      (hspelled : SpellsList m.content.value texts) : GivesList members name texts

/-- The members of an object give the lists of a problem.  The others hold any values. -/
structure Describes (members : List NamedMember) (p : Problem) : Prop where
  alphabet : GivesList members "alphabet" p.alphabet
  good : GivesList members "good" p.good
  bad : GivesList members "bad" p.bad
  others : ∀ m ∈ members, m.name ∉ ["alphabet", "good", "bad"] → IsValue m.content.value

/-- A well-formed text of an object that gives the lists of a problem. -/
inductive IsDocumentOf (p : Problem) : String → Prop
  | object {members : List NamedMember} {lead gap trail : List Char} (hlead : Blanks lead)
      (hgap : Blanks gap) (htrail : Blanks trail) (h : Describes members p) :
      IsDocumentOf p (String.ofList
        (lead ++ (objectText (members.map fun m => m.toMember) gap ++ trail)))

namespace GivesList

variable {members : List NamedMember} {name : String} {texts : List String}

theorem count_le_one (h : GivesList members name texts) :
    (members.map fun m => m.name).count name ≤ 1 := by
  have hcount : (members.map fun m => m.name).count name =
      (members.filter (·.name == name)).length := by
    rw [List.count, List.countP_map, List.countP_eq_length_filter]
    rfl
  rw [hcount]
  cases h with
  | absent hnone => rw [hnone]; exact Nat.zero_le 1
  | once hone => rw [hone]; exact Nat.le_refl 1

theorem spelled (h : GivesList members name texts) {m : NamedMember} (hm : m ∈ members)
    (hname : m.name = name) : SpellsList m.content.value texts := by
  have hmem : m ∈ members.filter (·.name == name) := by simpa [hname] using hm
  cases h with
  | absent hnone =>
      rw [hnone] at hmem
      exact absurd hmem List.not_mem_nil
  | once hone hspelled =>
      rw [hone, List.mem_singleton] at hmem
      rwa [hmem]

theorem eq_nil (h : GivesList members name texts) (hname : name ∉ members.map fun m => m.name) :
    texts = [] := by
  cases h with
  | absent _ => rfl
  | @once m _ hone _ =>
      have hmem : m ∈ members.filter (·.name == name) := by rw [hone]; exact List.mem_cons_self
      obtain ⟨hm, heq⟩ := List.mem_filter.mp hmem
      exact absurd (List.mem_map.mpr ⟨m, hm, by simpa using heq⟩) hname

end GivesList

/-! ## What is read from it -/

def slots : List (Slot Problem) := [
  ⟨"alphabet", List String, SpellsList, alphabet, fun x p => { p with alphabet := x }⟩,
  ⟨"good", List String, SpellsList, good, fun x p => { p with good := x }⟩,
  ⟨"bad", List String, SpellsList, bad, fun x p => { p with bad := x }⟩]

theorem independent_slots : Independent slots where
  names := by simp [slots]
  get_set := by simp [slots]
  get_set_of_ne := by simp [slots]
  ext := by
    rintro ⟨⟩ ⟨⟩ h
    simpa [slots] using h

theorem fills_slots {depth : ℕ} (hdepth : 1 < depth) : Reader.Fills fields slots depth := by
  have htexts : (Reader.list .string).Decodes depth SpellsList :=
    fun h _ hgap => Reader.strings_take h hdepth hgap
  exact .cons (Reader.fillsSlot_optional htexts) <|
    .cons (Reader.fillsSlot_optional htexts) <|
    .cons (Reader.fillsSlot_optional htexts) .nil

theorem reader_decodes : reader.Decodes maxDepth (IsPartial slots {}) :=
  Reader.record_decodes (by decide) (fills_slots (by decide)) independent_slots _ _

variable {p : Problem} {members : List NamedMember}

/-- A list that is given, or that is none, is what a slot for it has. -/
theorem GivesList.given {name : String} {get : Problem → List String}
    {set : List String → Problem → Problem} (h : GivesList members name (get p))
    (hnone : get {} = []) :
    Slot.Given ⟨name, List String, SpellsList, get, set⟩ members {} p where
  present _ hm hname := h.spelled hm hname
  absent habsent := (h.eq_nil habsent).trans hnone.symm

theorem Describes.isPartial (h : Describes members p) {gap : List Char} (hgap : Blanks gap) :
    IsPartial slots {} (objectText (members.map fun m => m.toMember) gap) p := by
  have hgiven : ∀ s ∈ slots, s.Given members {} p := by
    simp only [slots, List.forall_mem_cons]
    exact ⟨h.alphabet.given rfl, h.good.given rfl, h.bad.given rfl, List.forall_mem_nil _⟩
  have hunique : ∀ s ∈ slots, (members.map fun m => m.name).count s.name ≤ 1 := by
    simp only [slots, List.forall_mem_cons]
    exact ⟨h.alphabet.count_le_one, h.good.count_le_one, h.bad.count_le_one,
      List.forall_mem_nil _⟩
  exact .object hgap ⟨hunique, fun s hs m hm hname => ⟨_, (hgiven s hs).present m hm hname⟩,
    h.others⟩ hgiven

theorem ofJson_of_isDocumentOf {text : String} (h : IsDocumentOf p text) : ofJson text = .ok p := by
  obtain ⟨hlead, hgap, htrail, hdescribes⟩ := h
  exact reader_decodes.run (hdescribes.isPartial hgap) hlead htrail

/-! ## What is written -/

/-- Either text of a problem is one from which it can be read. -/
theorem isDocumentOf_written (p : Problem) (style : Style) :
    IsDocumentOf p (String.ofList (p.toJson.writtenAs style)) := by
  let members := [style.named "alphabet" (.strings p.alphabet),
    style.named "good" (.strings p.good), style.named "bad" (.strings p.bad)]
  have hlist : ∀ texts, SpellsList ((Value.strings texts).writtenAs style.inner) texts :=
    Value.spellsList_strings style.inner
  have hdescribes : Describes members p := by
    refine ⟨.once rfl (hlist _), .once rfl (hlist _), .once rfl (hlist _), ?_⟩
    simp [members, Style.named]
  obtain ⟨gap, hgap, htext⟩ := Value.exists_writtenAs_object style
    [("alphabet", .strings p.alphabet), ("good", .strings p.good), ("bad", .strings p.bad)]
  have hdocument := IsDocumentOf.object blanks_nil hgap blanks_nil hdescribes
  rw [List.nil_append, List.append_nil] at hdocument
  rw [toJson, htext]
  exact hdocument

/-! ## Codes in keys -/

/-- The first half of a surrogate pair as a code. -/
def halfCode : List Char := ['\\', 'u', 'd', '8', '0', '0']

theorem isStringBody_halfCode : IsStringBody halfCode := by
  have hcode : IsCode ['d', '8', '0', '0'] 0xD800 :=
    isCode_hexDigits (i := 13) (j := 8) (k := 0) (l := 0) (by decide) (by decide) (by decide)
      (by decide)
  exact .cons (.code hcode) .nil

/-- A key with a code for its second letter. -/
def codedKey : List Char := 'g' :: (['\\', 'u', '0', '0', '6', 'f'] ++ ['o', 'd'])

theorem spells_codedKey : Spells codedKey "good".toList := by
  have hcode : IsCode ['0', '0', '6', 'f'] 'o'.toNat :=
    isCode_hexDigits (i := 0) (j := 0) (k := 6) (l := 15) (by decide) (by decide) (by decide)
      (by decide)
  have hletter : IsSpelling 'o' ('\\' :: 'u' :: ['0', '0', '6', 'f']) := .code hcode
  exact .cons (.plain (by decide)) (.cons hletter (spells_escaped ['o', 'd']))

/-- A member that is no list. -/
def unknownMember : NamedMember where
  lead := []
  key := ['x']
  gap := []
  content := .bare (arrayText [.bare (quoted halfCode)] [])
  blanks_lead := blanks_nil
  blanks_gap := blanks_nil
  name := "x"
  spelled := spells_escaped ['x']

def codedMember : NamedMember where
  lead := []
  key := codedKey
  gap := [' ']
  content := ⟨[' '], arrayText [.bare (quoted ['0'])] [], [], by decide, blanks_nil⟩
  blanks_lead := blanks_nil
  blanks_gap := by decide
  name := "good"
  spelled := spells_codedKey

theorem describes_coded : Describes [unknownMember, codedMember] { good := ["0"] } := by
  have hzero : SpellsList (arrayText [.bare (quoted ['0'])] []) ["0"] := by
    let items : List (Spaced × String) := [(.bare (quoted ['0']), "0")]
    have hitems : ∀ i ∈ items, ∃ body, Spells body i.2.toList ∧ i.1.value = quoted body :=
      List.forall_mem_singleton.mpr ⟨['0'], spells_escaped ['0'], rfl⟩
    exact .array blanks_nil hitems
  have hhalf : IsValue unknownMember.content.value :=
    .array blanks_nil (List.forall_mem_singleton.mpr (.string isStringBody_halfCode))
  refine ⟨.absent rfl, .once rfl hzero, .absent rfl, ?_⟩
  simp [hhalf, codedMember]

/-- A member whose key is half of a pair. -/
def halfMember : Member := ⟨[], halfCode, [], .bare "null".toList, blanks_nil, blanks_nil⟩

theorem not_spells_halfCode (text : String) : ¬ Spells halfCode text.toList := by
  intro hspells
  have hread := readText_spelled hspells []
  have hfails : readText (halfCode ++ ['"']) = .error (.malformed .unpairedSurrogate) := rfl
  rw [hfails] at hread
  cases hread

/-! ## Reading -/

/-- Every problem comes back from either of its texts, and it is read from every object that
describes it.  In such an object every key and every text of a list is spelled, so that none of them
holds half of a surrogate pair. -/
theorem ofJson_readsDocuments :
    (∀ p : Problem, ∀ text ∈ [p.toJson.toCompact, p.toJson.toPretty], ofJson text = .ok p) ∧
      ∀ (p : Problem) (text : String), IsDocumentOf p text → ofJson text = .ok p := by
  refine ⟨fun p text htext => ?_, fun p text => ofJson_of_isDocumentOf⟩
  rcases List.mem_pair.mp htext with rfl | rfl
  · exact ofJson_of_isDocumentOf (p.isDocumentOf_written .compact)
  · exact ofJson_of_isDocumentOf (p.isDocumentOf_written (.pretty 0))

/-- A list behind a member that is no list and holds half of a pair. -/
theorem ofJson_readsDocuments_coded :
    let text := "\x7b\"x\":[\"\\ud800\"],\"g\\u006fod\" : [\"0\"]\x7d\n"
    IsDocumentOf { good := ["0"] } text ∧ ofJson text = .ok { good := ["0"] } := by
  intro text
  have hdocument : IsDocumentOf { good := ["0"] } text :=
    .object blanks_nil blanks_nil (by decide : Blanks ['\n']) describes_coded
  exact ⟨hdocument, ofJson_readsDocuments.2 _ _ hdocument⟩

/-- An object is well-formed whose only key is half of a pair.  It names no list and is not read. -/
theorem halfMember_not_read :
    let text := "\x7b\"\\ud800\":null\x7d"
    text.toList = objectText [halfMember] [] ∧ IsValue text.toList ∧
      (∀ name : String, ¬ Spells halfMember.key name.toList) ∧
        ofJson text = .error (.malformed .unpairedSurrogate) := by
  have hvalue : IsValue (objectText [halfMember] []) :=
    .object blanks_nil (List.forall_mem_singleton.mpr isStringBody_halfCode)
      (List.forall_mem_singleton.mpr (.word (by decide)))
  refine ⟨rfl, hvalue, not_spells_halfCode, ?_⟩
  rfl

end RegexInference.Problem
