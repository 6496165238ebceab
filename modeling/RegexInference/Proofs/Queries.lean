import RegexInference.Proofs.Matching
import RegexInference.Proofs.Regex.Spans

/-!
# What the queries of a matcher have in common

A matcher is asked whether it accepts a text, how long its longest match is, and whether it can
match all of the text.  The answers come from two programs and two ways to search, and yet they fit
together.  In classic mode a match is all of the text or there is none.
-/

namespace RegexInference

namespace Regex.Program

variable {p : Program} {text : Array Char}

theorem accepts_of_longestMatch_pos (h : 0 < p.longestMatch text) : p.accepts text = true := by
  by_contra hnone
  have hfind : p.find? text 0 = none := by simpa [accepts] using hnone
  rw [longestMatch, findAll_eq_nil hfind] at h
  exact absurd h (Nat.lt_irrefl 0)

/-- Between its anchors an expression has one match, the whole text, or none. -/
theorem longestMatch_anchored (r : Regex) (text : Array Char) :
    r.anchored.toProgram.longestMatch text =
      if r.anchored.toProgram.accepts text = true then text.size else 0 := by
  apply longestMatch_eq
  intro start m hfound
  obtain ⟨hlow, hhigh, -⟩ := (matches_anchored r).mp (find?_eq_some hfound).2
  rw [hlow, hhigh, Nat.sub_zero]

end Regex.Program

namespace Matcher

open Regex

/-- No match is longer than the text, what has a longest match or can be matched whole is accepted,
and in classic mode the longest match of what is accepted is all of it. -/
theorem queries_agree (source : String) (mode : MatchMode) (p : Matcher)
    (h : ofPattern source mode = .ok p) (text : String) :
    p.longestMatch text ≤ text.length ∧
      (0 < p.longestMatch text → p.accepts text = true) ∧
      (p.matchesEntire text = true → p.accepts text = true) ∧
      (mode = .classic →
        p.longestMatch text = if p.accepts text = true then text.length else 0) := by
  have hlength : text.toList.toArray.size = text.length := String.length_toList
  refine ⟨?_, Program.accepts_of_longestMatch_pos, fun hentire => ?_, fun hclassic => ?_⟩
  · rw [← hlength]
    exact Program.longestMatch_le _ _
  · cases mode with
    | span => exact accepts_of_matchesEntire h hentire
    | classic => rwa [matchesEntire_of_classic h] at hentire
  · subst hclassic
    obtain ⟨r, -, hprogram, -⟩ := ofPattern_classic_eq_ok h
    unfold longestMatch accepts
    rw [hprogram, ← hlength]
    exact Program.longestMatch_anchored r _

/-- A letter that takes two bytes is one character long. -/
theorem queries_agree_letter :
    ∃ p, ofPattern "." .classic = .ok p ∧ p.accepts "é" = true ∧ p.longestMatch "é" = 1 := by
  obtain ⟨p, hp⟩ : ∃ p, ofPattern "." .classic = .ok p := exists_ofPattern rfl
  obtain ⟨set, unit, hparse, hset⟩ : ∃ set unit,
      parse? ".".toList = some (.chars set unit) ∧ set.has 'é' = true :=
    ⟨_, _, rfl, rfl⟩
  have haccepts : p.accepts "é" = true := by
    obtain ⟨r, hr, hprogram, -⟩ := ofPattern_classic_eq_ok hp
    obtain rfl : Regex.chars set unit = r := Option.some_inj.mp (hparse.symm.trans hr)
    unfold accepts
    rw [hprogram]
    exact accepts_anchored_iff.mpr ⟨⟨'é', rfl, hset⟩, rfl⟩
  obtain ⟨-, -, -, hclassic⟩ := queries_agree "." .classic p hp "é"
  have hlongest := hclassic rfl
  rw [if_pos haccepts] at hlongest
  exact ⟨p, hp, haccepts, hlongest⟩

end Matcher

end RegexInference
