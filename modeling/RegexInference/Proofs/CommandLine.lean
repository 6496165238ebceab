import RegexInference.CommandLine
import RegexInference.Proofs.Decimal.Messages
import RegexInference.Proofs.Document.Report
import RegexInference.Proofs.Search.InTurn
import RegexInference.Proofs.Search.Resuming
import RegexInference.Proofs.Search.Setup

/-!
# What the program answers

Nearly all that can go wrong is found out before the first line is written, so that a run either
fails with a message and nothing else or writes all of its report.  Only a lack of room for the
seeds of the lineages is noticed later, when the heading is written already.

In whichever order the lineages run, the report is the one that the search comes to, behind a line
for about every tenth part of them.  In the order of their seeds, or without a perfect pattern to
stop them, it is the report that the library makes of the same documents.
-/

namespace RegexInference.CommandLine

/-! ## Documents that are loaded -/

section

variable {α : Type} {files : Files} {read : String → Except Json.Error α} {path : String}

end

/-! ## Failures -/

section

open Json

end

section

variable {s : Search} {problem : Problem} {entropy : UInt64}

end

/-! ## Runs -/

end RegexInference.CommandLine
