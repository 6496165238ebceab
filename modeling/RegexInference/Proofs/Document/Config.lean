import RegexInference.Document.Config
import RegexInference.Proofs.Document.Problem
import RegexInference.Proofs.Json.Slots

/-!
# Configurations that are completed

A document may give any of the settings of a search, and any of the weights and of the fitness
parameters.  All others are those of the default configuration.
-/

namespace RegexInference

open Json

/-! ## Names -/

theorem MatchMode.variantOf_name (mode : MatchMode) :
    Reader.variantOf MatchMode.names mode.name = .ok mode := by cases mode <;> rfl

theorem Policy.variantOf_name (policy : Policy) :
    Reader.variantOf Policy.names policy.name = .ok policy := by cases policy <;> rfl

theorem Representation.variantOf_name (representation : Representation) :
    Reader.variantOf Representation.names representation.name = .ok representation := by
  cases representation <;> rfl

/-! ## Weights -/

namespace Weights

def slots : List (Slot Weights) := [
  ⟨"insert", Float, IsFloat, insert, fun x w => { w with insert := x }⟩,
  ⟨"delete", Float, IsFloat, delete, fun x w => { w with delete := x }⟩,
  ⟨"replace", Float, IsFloat, replace, fun x w => { w with replace := x }⟩,
  ⟨"duplicate", Float, IsFloat, duplicate, fun x w => { w with duplicate := x }⟩]

theorem independent_slots : Independent slots where
  names := by simp [slots]
  get_set := by simp [slots]
  get_set_of_ne := by simp [slots]
  ext := by
    rintro ⟨⟩ ⟨⟩ h
    simpa [slots] using h

theorem fills_slots (depth : ℕ) : Reader.Fills fields slots depth :=
  .cons (Reader.fillsSlot_optional Reader.float_decodes) <|
  .cons (Reader.fillsSlot_optional Reader.float_decodes) <|
  .cons (Reader.fillsSlot_optional Reader.float_decodes) <|
  .cons (Reader.fillsSlot_optional Reader.float_decodes) .nil

end Weights

/-! ## Fitness parameters -/

namespace FitnessParams

def slots : List (Slot FitnessParams) := [
  ⟨"mode", MatchMode, IsVariant MatchMode.name, mode, fun x p => { p with mode := x }⟩,
  ⟨"correctness_bonus", Float, IsFloat, correctnessBonus,
    fun x p => { p with correctnessBonus := x }⟩,
  ⟨"incorrectness_penalty", Float, IsFloat, incorrectnessPenalty,
    fun x p => { p with incorrectnessPenalty := x }⟩,
  ⟨"complexity_penalty", Float, IsFloat, complexityPenalty,
    fun x p => { p with complexityPenalty := x }⟩,
  ⟨"clamp_unrewarded", Bool, IsBoolean, clampUnrewarded,
    fun x p => { p with clampUnrewarded := x }⟩]

theorem independent_slots : Independent slots where
  names := by simp [slots]
  get_set := by simp [slots]
  get_set_of_ne := by simp [slots]
  ext := by
    rintro ⟨⟩ ⟨⟩ h
    simpa [slots] using h

theorem fills_slots {depth : ℕ} (hdepth : 1 < depth) : Reader.Fills fields slots depth :=
  .cons (Reader.fillsSlot_optional (Reader.variant_decodes MatchMode.variantOf_name hdepth)) <|
  .cons (Reader.fillsSlot_optional Reader.float_decodes) <|
  .cons (Reader.fillsSlot_optional Reader.float_decodes) <|
  .cons (Reader.fillsSlot_optional Reader.float_decodes) <|
  .cons (Reader.fillsSlot_optional Reader.boolean_decodes) .nil

end FitnessParams

/-! ## Configurations -/

namespace Config

/-- The settings of a search.  Weights and fitness parameters that are not given are those of the
default configuration. -/
def slots : List (Slot Config) := [
  ⟨"lineages", ℕ, IsCount wordLimit, lineages, fun x c => { c with lineages := x }⟩,
  ⟨"generations_per_lineage", ℕ, IsCount wordLimit, generationsPerLineage,
    fun x c => { c with generationsPerLineage := x }⟩,
  ⟨"mutations_per_generation", ℕ × ℕ, IsPair (IsCount wordLimit) (IsCount wordLimit),
    mutationsPerGeneration, fun x c => { c with mutationsPerGeneration := x }⟩,
  ⟨"mutation_weights", Weights, IsPartial Weights.slots ({} : Config).mutationWeights,
    mutationWeights, fun x c => { c with mutationWeights := x }⟩,
  ⟨"fitness", FitnessParams, IsPartial FitnessParams.slots ({} : Config).fitness, fitness,
    fun x c => { c with fitness := x }⟩,
  ⟨"policy", Policy, IsVariant Policy.name, policy, fun x c => { c with policy := x }⟩,
  ⟨"representation", Representation, IsVariant Representation.name, representation,
    fun x c => { c with representation := x }⟩,
  ⟨"stop_on_perfect", Bool, IsBoolean, stopOnPerfect, fun x c => { c with stopOnPerfect := x }⟩,
  ⟨"random_seed", Option UInt64,
    fun value seed => IsOptional (IsCount wordLimit) value (seed.map UInt64.toNat), randomSeed,
    fun x c => { c with randomSeed := x }⟩]

theorem independent_slots : Independent slots where
  names := by simp [slots]
  get_set := by simp [slots]
  get_set_of_ne := by simp [slots]
  ext := by
    rintro ⟨⟩ ⟨⟩ h
    simpa [slots] using h

theorem count_decodes (depth : ℕ) : countReader.Decodes depth (IsCount wordLimit) :=
  Reader.natural_decodes (Nat.le_refl _) _

theorem range_decodes {depth : ℕ} (hdepth : 1 < depth) :
    (Reader.pair countReader countReader).Decodes depth
      (IsPair (IsCount wordLimit) (IsCount wordLimit)) :=
  Reader.pair_decodes (count_decodes _) (count_decodes _) IsCount.begins IsCount.begins hdepth

theorem seed_decodes (depth : ℕ) :
    (Reader.optional (.natural wordLimit "u64")).Decodes depth (IsOptional (IsCount wordLimit)) :=
  Reader.optional_decodes (Reader.natural_decodes (Nat.le_refl _) _) IsCount.exists_digit

theorem fills_slots {depth : ℕ} (hdepth : 2 < depth) : Reader.Fills fields slots depth := by
  have hlevel : 1 < depth := by omega
  have hinner : 1 < depth - 1 := by omega
  have hseed : ∀ seed : Option UInt64, (seed.map UInt64.toNat).map Nat.toUInt64 = seed := by
    rintro (_ | seed) <;> simp
  exact
    .cons (Reader.fillsSlot_optional (count_decodes _)) <|
    .cons (Reader.fillsSlot_optional (count_decodes _)) <|
    .cons (Reader.fillsSlot_optional (range_decodes hlevel)) <|
    .cons (Reader.fillsSlot_optional
      (Reader.record_decodes hlevel (Weights.fills_slots _) Weights.independent_slots _ _)) <|
    .cons (Reader.fillsSlot_optional
      (Reader.record_decodes hlevel (FitnessParams.fills_slots hinner)
        FitnessParams.independent_slots _ _)) <|
    .cons (Reader.fillsSlot_optional (Reader.variant_decodes Policy.variantOf_name hlevel)) <|
    .cons (Reader.fillsSlot_optional
      (Reader.variant_decodes Representation.variantOf_name hlevel)) <|
    .cons (Reader.fillsSlot_optional Reader.boolean_decodes) <|
    .cons (Reader.fillsSlot_of_put (seed_decodes _) fun h => ⟨_, h, by simp [hseed]⟩) .nil

theorem reader_decodes : reader.Decodes maxDepth (IsPartial slots {}) :=
  Reader.record_decodes (by decide) (fills_slots (by decide)) independent_slots _ _

/-! ## Documents -/

/-- A configuration is read from every object whose members suit the settings, and it is the only
one that they give. -/
theorem ofJson_completes {members : List NamedMember} (h : Suits slots members)
    {lead gap trail : List Char} (hlead : Blanks lead) (hgap : Blanks gap) (htrail : Blanks trail) :
    ∃ c, ofJson (String.ofList
        (lead ++ (objectText (members.map fun m => m.toMember) gap ++ trail))) = .ok c ∧
      ∀ c', (∀ s ∈ slots, s.Given members {} c') ↔ c' = c := by
  have hread : ∀ c, (∀ s ∈ slots, s.Given members {} c) → ofJson (String.ofList
      (lead ++ (objectText (members.map fun m => m.toMember) gap ++ trail))) = .ok c :=
    fun c hc => reader_decodes.run (.object hgap h hc) hlead htrail
  obtain ⟨c, hc⟩ := independent_slots.exists_given h {}
  refine ⟨c, hread c hc, fun c' => ⟨fun hc' => ?_, ?_⟩⟩
  · exact Except.ok.inj ((hread c' hc').symm.trans (hread c hc))
  · rintro rfl
    exact hc

/-- One fitness parameter. -/
def classicMember : NamedMember := Style.compact.named "mode" (.string "Classic")

/-- A member that is no setting, an object for the fitness parameters, and a setting. -/
def someMembers : List NamedMember := [
  Style.compact.named "x" (.array []),
  Style.compact.named "fitness" (.object [("mode", .string "Classic")]),
  Style.compact.named "lineages" (.integer 7)]

def someDocument : String :=
  "\x7b\"x\":[],\"fitness\":\x7b\"mode\":\"Classic\"\x7d,\"lineages\":7\x7d"

theorem suits_classicMember : Suits FitnessParams.slots [classicMember] := by
  have hclassic : IsVariant MatchMode.name classicMember.content.value .classic :=
    .string (spells_escaped "Classic".toList)
  constructor
  · simp [FitnessParams.slots, classicMember, Style.named]
  · simpa [FitnessParams.slots, classicMember, Style.named] using ⟨_, hclassic⟩
  · simp [FitnessParams.slots, classicMember, Style.named]

theorem suits_someMembers : Suits slots someMembers := by
  have hfitness := suits_classicMember.exists_isPartial FitnessParams.independent_slots
    ({} : Config).fitness blanks_nil
  have hcount : IsCount wordLimit (Nat.toDigits 10 7) 7 := .digits (by decide)
  have hother : IsValue (Style.compact.member "x" (.array [])).content.value :=
    .array blanks_nil (List.forall_mem_nil _)
  constructor
  · simp [slots, someMembers, Style.named]
  · simpa [slots, someMembers, Style.named] using ⟨⟨_, hcount⟩, hfitness⟩
  · simpa [slots, someMembers, Style.named] using hother

theorem ofJson_completes_some :
    someDocument.toList = objectText (someMembers.map fun m => m.toMember) [] ∧
      Suits slots someMembers ∧
        ofJson someDocument = .ok { lineages := 7, fitness := { mode := .classic } } ∧
          ∀ s ∈ slots, s.Given someMembers {} { lineages := 7, fitness := { mode := .classic } } := by
  have htext : someDocument.toList = objectText (someMembers.map fun m => m.toMember) [] := by
    decide
  have hconfig : ofJson someDocument = .ok { lineages := 7, fitness := { mode := .classic } } := by
    rfl
  obtain ⟨c, hread, hgiven⟩ := ofJson_completes suits_someMembers blanks_nil blanks_nil blanks_nil
  rw [List.nil_append, List.append_nil, ← htext, String.ofList_toList, hconfig] at hread
  exact ⟨htext, suits_someMembers, hconfig, (hgiven _).mpr (Except.ok.inj hread)⟩

/-- An object is well-formed whose only key is half of a surrogate pair.  It gives no setting and is
not read. -/
theorem halfKey_not_read :
    let text := "\x7b\"\\ud800\":null\x7d"
    text.toList = objectText [Problem.halfMember] [] ∧ IsValue text.toList ∧
      (∀ name : String, ¬ Spells Problem.halfMember.key name.toList) ∧
        ofJson text = .error (.malformed .unpairedSurrogate) := by
  have hvalue : IsValue (objectText [Problem.halfMember] []) :=
    .object blanks_nil (List.forall_mem_singleton.mpr Problem.isStringBody_halfCode)
      (List.forall_mem_singleton.mpr (.word (by decide)))
  refine ⟨rfl, hvalue, Problem.not_spells_halfCode, ?_⟩
  rfl

end Config

end RegexInference
