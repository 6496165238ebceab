import RegexInference.Document.SyntaxTree
import RegexInference.Main
import RegexInference.Proofs.Float.Arithmetic
import RegexInference.Proofs.Regex.Anchoring
import RegexInference.Proofs.Regex.Exploration
import RegexInference.Proofs.Search.Record
import RegexInference.Proofs.Search.Winner
import RegexInference.Proofs.Fitness.Perfect
import RegexInference.Proofs.Fitness.Sentinels
import RegexInference.Proofs.Search.Generations
import RegexInference.Proofs.Search.Outcomes
import RegexInference.Proofs.Search.Stopping
import RegexInference.Proofs.Search.Budget
import RegexInference.Proofs.Search.Accounting
import RegexInference.Proofs.Regex.Literal
import RegexInference.Proofs.Literals
import RegexInference.Proofs.Search.Interleaving
import RegexInference.Proofs.Search.InTurn
import RegexInference.Proofs.Search.Setup
import RegexInference.Proofs.Genotype.Checked
import RegexInference.Proofs.Genotype.Glyphs
import RegexInference.Proofs.Genotype.SetMembers
import RegexInference.Proofs.Search.Checked
import RegexInference.Proofs.Search.EmptySets
import RegexInference.Proofs.Sets
import RegexInference.Proofs.Search.TextOrder
import RegexInference.Proofs.Search.KnownTokens
import RegexInference.Proofs.Search.Vocabulary
import RegexInference.Proofs.Quantifiers
import RegexInference.Proofs.Document.Report
import RegexInference.Proofs.Search.Resuming
import RegexInference.Proofs.Genotype.SingleEdits
import RegexInference.Proofs.Genotype.TreeEdits
import RegexInference.Proofs.Search.Reduction
import RegexInference.Proofs.Queries
import RegexInference.Proofs.Wheel
import RegexInference.Proofs.Genotype.Escapes
import RegexInference.Proofs.Document.Problem
import RegexInference.Proofs.Document.SyntaxTree
import RegexInference.Proofs.Genotype.Preorder
import RegexInference.Proofs.Genotype.Supply
import RegexInference.Proofs.Document.Config
import RegexInference.Proofs.CommandLine
