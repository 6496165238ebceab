import RegexInference.Document.Config
import RegexInference.Search.Report

/-!
# Search results as documents
-/

namespace RegexInference

open Json

namespace StopReason

def names : List (String × StopReason) :=
  [("Completed", .completed), ("PerfectMatch", .perfectMatch), ("Cancelled", .cancelled)]

/-- The name in documents and on the screen. -/
def name : StopReason → String
  | completed => "Completed"
  | perfectMatch => "PerfectMatch"
  | cancelled => "Cancelled"

end StopReason

namespace SearchStatistics

def toJson (s : SearchStatistics) : Value :=
  .object [("lineages", .integer s.lineages), ("generations", .integer s.generations),
    ("evaluations", .integer s.evaluations), ("perfect", .boolean s.perfect),
    ("stop_reason", .string s.stopReason.name), ("elapsed_seconds", .float s.elapsedSeconds)]

/-- Statistics before anything has run. -/
def zero : SearchStatistics :=
  { lineages := 0, generations := 0, evaluations := 0, perfect := false,
    stopReason := .completed, elapsedSeconds := 0.0 }

def fields : List (RecordField SearchStatistics) := [
  .needed "lineages" countReader fun x s => { s with lineages := x },
  .needed "generations" (.natural wordLimit "u64") fun x s => { s with generations := x },
  .needed "evaluations" (.natural wordLimit "u64") fun x s => { s with evaluations := x },
  .needed "perfect" .boolean fun x s => { s with perfect := x },
  .needed "stop_reason" (.variant StopReason.names) fun x s => { s with stopReason := x },
  .needed "elapsed_seconds" .float fun x s => { s with elapsedSeconds := x }]

def reader : Reader SearchStatistics := Reader.record "SearchStats" fields zero

end SearchStatistics

namespace SearchReport

def toJson (r : SearchReport) : Value :=
  .object [("pattern", .string r.pattern), ("fitness_score", .float r.fitnessScore),
    ("percent_correct", .integer r.accuracy), ("stats", r.stats.toJson)]

/-- The fields of a result, all of which have to be given. -/
def fields : List (RecordField SearchReport) := [
  .needed "pattern" .string fun x r => { r with pattern := x },
  .needed "fitness_score" .float fun x r => { r with fitnessScore := x },
  .needed "percent_correct" (.natural 256 "u8") fun x r => { r with accuracy := x },
  .needed "stats" SearchStatistics.reader fun x r => { r with stats := x }]

def reader : Reader SearchReport :=
  Reader.record "SearchResult" fields
    { pattern := "", fitnessScore := 0.0, accuracy := 0, stats := SearchStatistics.zero }

def ofJson (text : String) : Except Json.Error SearchReport := reader.run text

end SearchReport

end RegexInference
