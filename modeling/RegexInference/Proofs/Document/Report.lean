import RegexInference.Document.Report
import RegexInference.Proofs.Decimal.Exact
import RegexInference.Proofs.Fitness.Perfect
import RegexInference.Proofs.Json.Objects
import RegexInference.Proofs.Search.Accounting

/-!
# Reports that are read back

A report is written as an object of two levels and read back member by member.  Its pattern and its
counts come back as they were.  Its two floating-point numbers come back as their decimals are read,
and neither an infinity nor what is no number comes back at all: the report is refused.
-/

namespace RegexInference

open Json

theorem variantOf_name (reason : StopReason) :
    Reader.variantOf StopReason.names reason.name = .ok reason := by
  cases reason <;> rfl

namespace SearchStatistics

/-- The counts fit into machine words. -/
structure Fits (s : SearchStatistics) : Prop where
  lineages : s.lineages < wordLimit
  generations : s.generations < wordLimit
  evaluations : s.evaluations < wordLimit

/-- What is read where statistics have been written. -/
def reread (s : SearchStatistics) : Except Json.Error SearchStatistics := do
  let seconds ← Decimal.reread s.elapsedSeconds
  return { s with elapsedSeconds := seconds }

def entries (s : SearchStatistics) : List (Reader.Entry SearchStatistics) := [
  .putting "lineages" (.integer s.lineages) (fun x r => { r with lineages := x })
    (.ok s.lineages),
  .putting "generations" (.integer s.generations) (fun x r => { r with generations := x })
    (.ok s.generations),
  .putting "evaluations" (.integer s.evaluations) (fun x r => { r with evaluations := x })
    (.ok s.evaluations),
  .putting "perfect" (.boolean s.perfect) (fun x r => { r with perfect := x }) (.ok s.perfect),
  .putting "stop_reason" (.string s.stopReason.name) (fun x r => { r with stopReason := x })
    (.ok s.stopReason),
  .putting "elapsed_seconds" (.float s.elapsedSeconds) (fun x r => { r with elapsedSeconds := x })
    (Decimal.reread s.elapsedSeconds)]

theorem keys_entries (s : SearchStatistics) :
    s.entries.map Reader.Entry.key = fields.map RecordField.name := rfl

theorem nodup_names : (fields.map RecordField.name).Nodup := by decide

theorem gives_of_mem_entries {s : SearchStatistics} (hfits : s.Fits) (depth : ℕ) (style : Style) :
    ∀ e ∈ s.entries, e.Gives fields depth style := by
  have hlimit : wordLimit ≤ UInt64.size := Nat.le_refl _
  simp only [entries, List.forall_mem_cons]
  refine ⟨?_, ?_, ?_, ?_, ?_, ?_, fun e he => absurd he List.not_mem_nil⟩
  · exact Reader.Entry.putting_gives_scalar rfl (Value.writtenAs_integer style _) fun gap hgap =>
      Reader.natural_takes hgap depth hlimit "usize" hfits.lineages
  · exact Reader.Entry.putting_gives_scalar rfl (Value.writtenAs_integer style _) fun gap hgap =>
      Reader.natural_takes hgap depth hlimit "u64" hfits.generations
  · exact Reader.Entry.putting_gives_scalar rfl (Value.writtenAs_integer style _) fun gap hgap =>
      Reader.natural_takes hgap depth hlimit "u64" hfits.evaluations
  · exact Reader.Entry.putting_gives_scalar rfl (Value.writtenAs_boolean style _) fun gap hgap =>
      Reader.boolean_takes hgap depth s.perfect
  · exact Reader.Entry.putting_gives_scalar rfl (Value.writtenAs_string style _) fun gap hgap =>
      Reader.variant_takes hgap depth (variantOf_name s.stopReason)
  · exact Reader.Entry.putting_gives_scalar rfl (Value.writtenAs_float style _) fun gap hgap =>
      Reader.float_takes hgap depth s.elapsedSeconds

theorem reader_takes {s : SearchStatistics} (hfits : s.Fits) {depth : ℕ} (hdepth : 1 < depth)
    (style : Style) {gap : List Char} (hgap : Blanks gap) :
    reader.Takes depth (gap ++ s.toJson.writtenAs style) s.reread := by
  have hrecord := Reader.record_takes "SearchStats" zero s.entries hdepth
    (gives_of_mem_entries hfits (depth - 1) style.inner) (s.keys_entries ▸ nodup_names)
    (fun field hfield _ => s.keys_entries ▸ List.mem_map_of_mem hfield) hgap
  have hentries : s.entries.foldlM Reader.Entry.apply zero = s.reread := by
    unfold reread
    cases hseconds : Decimal.reread s.elapsedSeconds <;>
      simp [entries, Reader.Entry.putting, Reader.Entry.apply, hseconds, Except.map, bind,
        Except.bind, pure, Except.pure]
  rw [hentries] at hrecord
  exact hrecord

end SearchStatistics

namespace SearchReport

/-- The numbers fit into what they are read as. -/
structure Fits (r : SearchReport) : Prop where
  accuracy : r.accuracy < 256
  stats : r.stats.Fits

/-- What is read where a report has been written. -/
def reread (r : SearchReport) : Except Json.Error SearchReport := do
  let score ← Decimal.reread r.fitnessScore
  let stats ← r.stats.reread
  return { r with fitnessScore := score, stats }

def entries (r : SearchReport) : List (Reader.Entry SearchReport) := [
  .putting "pattern" (.string r.pattern) (fun x s => { s with pattern := x }) (.ok r.pattern),
  .putting "fitness_score" (.float r.fitnessScore) (fun x s => { s with fitnessScore := x })
    (Decimal.reread r.fitnessScore),
  .putting "percent_correct" (.integer r.accuracy) (fun x s => { s with accuracy := x })
    (.ok r.accuracy),
  .putting "stats" r.stats.toJson (fun x s => { s with stats := x }) r.stats.reread]

theorem keys_entries (r : SearchReport) :
    r.entries.map Reader.Entry.key = fields.map RecordField.name := rfl

theorem nodup_names : (fields.map RecordField.name).Nodup := by decide

theorem gives_of_mem_entries {r : SearchReport} (hfits : r.Fits) {depth : ℕ} (hdepth : 1 < depth)
    (style : Style) : ∀ e ∈ r.entries, e.Gives fields depth style := by
  simp only [entries, List.forall_mem_cons]
  refine ⟨?_, ?_, ?_, ?_, fun e he => absurd he List.not_mem_nil⟩
  · exact Reader.Entry.putting_gives_scalar rfl (Value.writtenAs_string style _) fun gap hgap =>
      Reader.string_takes hgap depth r.pattern
  · exact Reader.Entry.putting_gives_scalar rfl (Value.writtenAs_float style _) fun gap hgap =>
      Reader.float_takes hgap depth r.fitnessScore
  · exact Reader.Entry.putting_gives_scalar rfl (Value.writtenAs_integer style _) fun gap hgap =>
      Reader.natural_takes hgap depth (by decide) "u8" hfits.accuracy
  · exact Reader.Entry.putting_gives rfl fun gap hgap =>
      SearchStatistics.reader_takes hfits.stats hdepth style hgap

theorem reader_takes {r : SearchReport} (hfits : r.Fits) (style : Style) :
    reader.Takes maxDepth (r.toJson.writtenAs style) r.reread := by
  have hrecord := Reader.record_takes "SearchResult"
    { pattern := "", fitnessScore := 0.0, accuracy := 0, stats := .zero } r.entries
    (by decide : 1 < maxDepth)
    (gives_of_mem_entries hfits (by decide) style.inner) (r.keys_entries ▸ nodup_names)
    (fun field hfield _ => r.keys_entries ▸ List.mem_map_of_mem hfield) blanks_nil
  have hentries : r.entries.foldlM Reader.Entry.apply
      { pattern := "", fitnessScore := 0.0, accuracy := 0, stats := .zero } = r.reread := by
    unfold reread
    cases hscore : Decimal.reread r.fitnessScore <;> cases hstats : r.stats.reread <;>
      simp [entries, Reader.Entry.putting, Reader.Entry.apply, hscore, hstats, Except.map, bind,
        Except.bind, pure, Except.pure]
  rw [hentries] at hrecord
  exact hrecord

/-- A report is read back from either of its two texts as its two numbers are. -/
theorem ofJson_eq_reread {r : SearchReport} (hfits : r.Fits) :
    ofJson r.toJson.toCompact = r.reread ∧ ofJson r.toJson.toPretty = r.reread :=
  ⟨Reader.run_of_takes (reader_takes hfits .compact),
    Reader.run_of_takes (reader_takes hfits (.pretty 0))⟩

/-- Of a report that is read back only the two floating-point numbers are new. -/
theorem reread_eq_ok_iff {r s : SearchReport} :
    r.reread = .ok s ↔ ∃ score seconds, Decimal.reread r.fitnessScore = .ok score ∧
      Decimal.reread r.stats.elapsedSeconds = .ok seconds ∧
      s = { r with
        fitnessScore := score
        stats := { r.stats with elapsedSeconds := seconds } } := by
  unfold reread SearchStatistics.reread
  cases Decimal.reread r.fitnessScore <;> cases Decimal.reread r.stats.elapsedSeconds <;>
    simp [bind, Except.bind, pure, Except.pure, eq_comm]

/-- The report with the time that its search took. -/
def timed (seconds : Float) (r : SearchReport) : SearchReport :=
  { r with stats := { r.stats with elapsedSeconds := seconds } }

theorem Fits.timed {r : SearchReport} (h : r.Fits) (seconds : Float) : (r.timed seconds).Fits :=
  ⟨h.accuracy, h.stats.lineages, h.stats.generations, h.stats.evaluations⟩

/-- What becomes of a report in its document. -/
structure ReadsBack (r : SearchReport) (text : String) : Prop where
  /-- It comes back as it was exactly if both of its floating-point numbers do. -/
  whole : ofJson text = .ok r ↔ Decimal.reread r.fitnessScore = .ok r.fitnessScore ∧
    Decimal.reread r.stats.elapsedSeconds = .ok r.stats.elapsedSeconds
  /-- Nothing but the two numbers can come back as something else. -/
  others : ∀ s, ofJson text = .ok s →
    r = { s with
      fitnessScore := r.fitnessScore
      stats := { s.stats with elapsedSeconds := r.stats.elapsedSeconds } }
  /-- Numbers with short decimals come back. -/
  short : Decimal.HasShortDecimal r.fitnessScore →
    Decimal.HasShortDecimal r.stats.elapsedSeconds → ofJson text = .ok r
  /-- A report whose score is not finite is refused. -/
  refused : r.fitnessScore.isFinite = false →
    ofJson text = .error (.mismatch (.wrongType .null "f64"))

theorem readsBack_of_eq {r : SearchReport} {text : String} (h : ofJson text = r.reread) :
    r.ReadsBack text := by
  have hwhole : ofJson text = .ok r ↔ Decimal.reread r.fitnessScore = .ok r.fitnessScore ∧
      Decimal.reread r.stats.elapsedSeconds = .ok r.stats.elapsedSeconds := by
    rw [h, reread_eq_ok_iff]
    constructor
    · rintro ⟨score, seconds, hscore, hseconds, hsame⟩
      have hscore' : r.fitnessScore = score := congrArg fitnessScore hsame
      have hseconds' : r.stats.elapsedSeconds = seconds :=
        congrArg (fun s : SearchReport => s.stats.elapsedSeconds) hsame
      exact ⟨hscore' ▸ hscore, hseconds' ▸ hseconds⟩
    · rintro ⟨hscore, hseconds⟩
      exact ⟨_, _, hscore, hseconds, rfl⟩
  refine ⟨hwhole, fun s hs => ?_, fun hscore hseconds => ?_, fun hinfinite => ?_⟩
  · obtain ⟨score, seconds, -, -, rfl⟩ := reread_eq_ok_iff.mp (h.symm.trans hs)
    rfl
  · exact hwhole.mpr ⟨hscore.reread_eq, hseconds.reread_eq⟩
  · rw [h, reread, Decimal.reread_of_not_isFinite hinfinite]
    rfl

end SearchReport

/-! ## Reports of searches -/

namespace Search

variable {G V : Type} [Genotype G V]

/-- What holds of the searches over candidates of either representation holds of a search. -/
theorem runUntil_of_search {P : SearchReport × List Progress → Prop} {s : Search}
    {problem : Problem} {cancelAt : Option Moment}
    (hsequence : ∀ seed, P (s.search Sequence problem seed cancelAt))
    (htree : ∀ seed, P (s.search SyntaxTree problem seed cancelAt)) (entropy : UInt64) :
    P (s.runUntil problem entropy cancelAt) := by
  unfold runUntil
  cases s.config.representation with
  | sequence => exact hsequence _
  | tree => exact htree _

theorem fits_search (s : Search) (problem : Problem) (seed : UInt64) (cancelAt : Option Moment)
    (hlineages : s.config.lineages < wordLimit)
    (hcount : (s.search G problem seed cancelAt).1.stats.evaluations < wordLimit) :
    (s.search G problem seed cancelAt).1.Fits := by
  have hadds := search_addsUp (G := G) s problem seed cancelAt
  have haccuracy : (s.search G problem seed cancelAt).1.accuracy ≤ 100 :=
    Fitness.accuracy_le_hundred _ _ _
  have hevaluations := hadds.evaluations
  exact ⟨by omega, by rw [hadds.lineages]; exact hlineages, by omega, hcount⟩

theorem fits_runUntil {s : Search} {problem : Problem} {entropy : UInt64} {cancelAt : Option Moment}
    (hlineages : s.config.lineages < wordLimit) :
    (s.runUntil problem entropy cancelAt).1.stats.evaluations < wordLimit →
      (s.runUntil problem entropy cancelAt).1.Fits :=
  runUntil_of_search (P := fun r => r.1.stats.evaluations < wordLimit → r.1.Fits)
    (fun seed => fits_search s problem seed cancelAt hlineages)
    (fun seed => fits_search s problem seed cancelAt hlineages) entropy

theorem evaluations_search_le (s : Search) (problem : Problem) (seed : UInt64)
    (cancelAt : Option Moment) :
    (s.search G problem seed cancelAt).1.stats.evaluations ≤
      s.config.lineages * s.config.generationsPerLineage + 1 := by
  have hadds := search_addsUp (G := G) s problem seed cancelAt
  rw [hadds.evaluations]
  exact Nat.add_le_add_right hadds.generations_le 1

theorem evaluations_runUntil_le {config : Config} {s : Search} (hconfig : ofConfig config = .ok s)
    (problem : Problem) (entropy : UInt64) (cancelAt : Option Moment) :
    (s.runUntil problem entropy cancelAt).1.stats.evaluations ≤
      config.lineages * config.generationsPerLineage + 1 := by
  obtain ⟨rfl, -⟩ := ofConfig_eq_ok hconfig
  exact runUntil_of_search (P := fun r => r.1.stats.evaluations ≤ _)
    (fun seed => evaluations_search_le s problem seed cancelAt)
    (fun seed => evaluations_search_le s problem seed cancelAt) entropy

theorem perfect_runUntil_iff (s : Search) (problem : Problem) (entropy : UInt64)
    (cancelAt : Option Moment) :
    (s.runUntil problem entropy cancelAt).1.stats.perfect = true ↔
      (s.runUntil problem entropy cancelAt).1.fitnessScore = Fitness.infinity :=
  runUntil_of_search (P := fun r => r.1.stats.perfect = true ↔ r.1.fitnessScore = Fitness.infinity)
    (fun seed => perfect_search_iff s problem seed cancelAt)
    (fun seed => perfect_search_iff s problem seed cancelAt) entropy

theorem isVoid_runUntil (s : Search) (problem : Problem) (entropy : UInt64) :
    (s.runUntil problem entropy (some ⟨0, 0⟩)).1.IsVoid :=
  runUntil_of_search (P := fun r => r.1.IsVoid) (fun seed => search_isVoid rfl s problem seed)
    (fun seed => search_isVoid rfl s problem seed) entropy

/-- The report of a search comes back from either of its texts as far as its two floating-point
numbers do.  A perfect pattern is never read back.  The counts fit into machine words. -/
theorem runUntil_readsBack (config : Config) (s : Search) (hconfig : ofConfig config = .ok s)
    (problem : Problem) (entropy : UInt64) (cancelAt : Option Moment) (seconds : Float)
    (hlineages : config.lineages < wordLimit)
    (hcount : (s.runUntil problem entropy cancelAt).1.stats.evaluations < wordLimit) :
    let report := (s.runUntil problem entropy cancelAt).1.timed seconds
    ∀ text ∈ [report.toJson.toCompact, report.toJson.toPretty],
      report.ReadsBack text ∧
        (report.stats.perfect = true →
          SearchReport.ofJson text = .error (.mismatch (.wrongType .null "f64"))) := by
  obtain ⟨rfl, -⟩ := ofConfig_eq_ok hconfig
  intro report text htext
  have htimed : report.Fits := (fits_runUntil hlineages hcount).timed seconds
  have hread : SearchReport.ofJson text = report.reread := by
    obtain ⟨hcompact, hpretty⟩ := SearchReport.ofJson_eq_reread htimed
    rcases List.mem_pair.mp htext with rfl | rfl
    · exact hcompact
    · exact hpretty
  have hback := SearchReport.readsBack_of_eq hread
  refine ⟨hback, fun hperfect => hback.refused ?_⟩
  have hscore : report.fitnessScore = Fitness.infinity :=
    (perfect_runUntil_iff s problem entropy cancelAt).mp hperfect
  rw [hscore]
  rfl

/-- The report of a search that took one second and a half. -/
theorem drift_readsBack :
    ∃ s, ofConfig { representation := .tree, policy := .drift } = .ok s ∧
      let report := (s.runUntil Problem.example 7 none).1.timed 1.5
      (s.runUntil Problem.example 7 none).1.stats.evaluations < wordLimit ∧
        ∀ text ∈ [report.toJson.toCompact, report.toJson.toPretty],
          report.ReadsBack text ∧
            (report.stats.perfect = true →
              SearchReport.ofJson text = .error (.mismatch (.wrongType .null "f64"))) := by
  obtain ⟨s, hconfig⟩ := exists_ofConfig { representation := .tree, policy := .drift }
    (by rfl)
  have hcount : (s.runUntil Problem.example 7 none).1.stats.evaluations < wordLimit :=
    (evaluations_runUntil_le hconfig Problem.example 7 none).trans_lt (by decide)
  exact ⟨s, hconfig, hcount,
    runUntil_readsBack _ s hconfig Problem.example 7 none 1.5 (by decide) hcount⟩

/-- The report of a search that was cancelled before it began does not come back at all. -/
theorem cancelled_not_readBack :
    ∃ s, ofConfig { lineages := 1, randomSeed := some 7 } = .ok s ∧
      let report := (s.runUntil Problem.example 0 (some ⟨0, 0⟩)).1.timed 0.0
      report.fitnessScore = -Fitness.infinity ∧
        ¬ ∃ read, SearchReport.ofJson report.toJson.toPretty = .ok read := by
  obtain ⟨s, hconfig⟩ := exists_ofConfig { lineages := 1, randomSeed := some 7 } (by rfl)
  have hcount : (s.runUntil Problem.example 0 (some ⟨0, 0⟩)).1.stats.evaluations < wordLimit :=
    (evaluations_runUntil_le hconfig Problem.example 0 _).trans_lt (by decide)
  obtain ⟨hsame, -⟩ := ofConfig_eq_ok hconfig
  have hfits := fits_runUntil (by rw [hsame]; decide) hcount
  have hscore := (isVoid_runUntil s Problem.example 0).fitnessScore
  refine ⟨s, hconfig, hscore, ?_⟩
  rintro ⟨read, hread⟩
  have hback := SearchReport.readsBack_of_eq (SearchReport.ofJson_eq_reread (hfits.timed 0.0)).2
  rw [hback.refused (hscore ▸ rfl)] at hread
  cases hread

end Search

end RegexInference
