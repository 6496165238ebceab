import RegexInference.Json.Record
import RegexInference.Problem

/-!
# Problems as documents
-/

namespace RegexInference.Problem

open Json

def toJson (p : Problem) : Value :=
  .object [("alphabet", .strings p.alphabet), ("good", .strings p.good), ("bad", .strings p.bad)]

/-- The fields of a problem, none of which has to be given. -/
def fields : List (RecordField Problem) := [
  .optional "alphabet" (.list .string) fun x p => { p with alphabet := x },
  .optional "good" (.list .string) fun x p => { p with good := x },
  .optional "bad" (.list .string) fun x p => { p with bad := x }]

def reader : Reader Problem := Reader.record "SearchInput" fields {}

def ofJson (text : String) : Except Json.Error Problem := reader.run text

end RegexInference.Problem
