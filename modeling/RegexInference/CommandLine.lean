import RegexInference.Document.Problem
import RegexInference.Document.Report
import RegexInference.Search.Run

/-!
# The command line

What the program does with its arguments, as a function of the files it may read: it fails with a
message, shows an example, or runs a search and reports on it.  Only one thing can go wrong once it
has begun to write, that the seeds of the lineages find no room in memory.
-/

namespace RegexInference.CommandLine

/-- Why a document cannot be loaded. -/
inductive LoadError where
  /-- The file cannot be read; the cause is the operating system's. -/
  | unreadable (cause : String)
  | notText
  | json (e : Json.Error)

def LoadError.message : LoadError → String
  | unreadable cause => "Failed to read file: " ++ cause
  | notText => "Failed to read file: stream did not contain valid UTF-8"
  | json e => "Failed to parse JSON: " ++ e.message

/-- What reading a file yields: its bytes, or the cause of the failure. -/
abbrev Files := String → Except String ByteArray

/-- Loads a document from a file. -/
def load {α : Type} (files : Files) (read : String → Except Json.Error α) (path : String) :
    Except LoadError α :=
  match files path with
  | .error cause => .error (.unreadable cause)
  | .ok bytes =>
    match String.fromUTF8? bytes with
    | none => .error .notText
    | some text => (read text).mapError .json

/-- What the arguments come to. -/
inductive Outcome where
  /-- The program ends with a code and a message, having shown some lines before. -/
  | failure (code : Nat) (message : String) (shown : List String := [])
  /-- An example problem and the default configuration are shown. -/
  | samples
  | finished (problem : Problem) (config : Config) (result : SearchReport)
      (progress : List Progress)

/-- What a run depends on besides the files. -/
structure Host where
  /-- Memory has room for the seeds of so many lineages. -/
  room : Nat
  room_le : room ≤ maxSeeds
  /-- Runs the lineages of a search, in any order or side by side, and reports on each. -/
  search : Search → Problem → (entropy : UInt64) → SearchReport × List Progress

/-- All the room that a vector can have, and lineages in the order of their seeds. -/
def Host.inSeedOrder : Host :=
  { room := maxSeeds, room_le := Nat.le_refl _, search := fun s problem => s.run problem }

def usage (program : String) : String :=
  String.join [
    "Usage: ", program, " <input.json> [config.json]\n",
    "\n",
    "Infer a regular expression from positive and negative examples.\n",
    "\n",
    "Arguments:\n",
    "  input.json   Alphabet plus good/bad example strings\n",
    "  config.json  Search configuration (default: built-in defaults)\n",
    "\n",
    "Example files are printed with the --example flag.\n"]

def loadConfig (files : Files) : List String → Except (String × LoadError) Config
  | [] => .ok {}
  | path :: _ => (load files Config.ofJson path).mapError (path, ·)

/-- What is said in front of a search. -/
def heading (problem : Problem) (config : Config) : List String :=
  ["Regex Evolve",
    "============",
    "Alphabet: " ++ Text.quotedList problem.alphabet,
    String.join ["Good: ", toString problem.good.length, " examples, bad: ",
      toString problem.bad.length, " examples"],
    String.join ["Lineages: ", toString config.lineages, " x ",
      toString config.generationsPerLineage, " generations"],
    ""]

/-- The end of a run that finds no room for its seeds.  A vector that is too long is a panic; a lack
of memory aborts the process, which counts as code 134. -/
def noRoom (problem : Problem) (config : Config) : Outcome :=
  if config.lineages > maxSeeds then .failure 101 "capacity overflow\n" (heading problem config)
  else
    .failure 134
      (String.join ["memory allocation of ", toString (8 * config.lineages), " bytes failed\n"])
      (heading problem config)

/-- Runs the program on its arguments.  Without a seed in the configuration `entropy` is used. -/
def runOn (host : Host) (program : String) (files : Files) (entropy : UInt64) :
    (arguments : List String) → Outcome
  | [] => .failure 1 (usage program)
  | path :: others =>
    if path = "--example" then .samples
    else
      match load files Problem.ofJson path with
      | .error e => .failure 1 ("Error loading input " ++ path ++ ": " ++ e.message ++ "\n")
      | .ok problem =>
        match loadConfig files others with
        | .error (path, e) =>
          .failure 1 ("Error loading config " ++ path ++ ": " ++ e.message ++ "\n")
        | .ok config =>
          match Search.ofConfig config with
          | .error (.config e) => .failure 1 ("Invalid configuration: " ++ e.message ++ "\n")
          | .error .overflow => .failure 101 "Uniform::new: range overflow\n"
          | .ok search =>
            if config.lineages > host.room then noRoom problem config
            else
              let (result, progress) := host.search search problem entropy
              .finished problem config result progress

def run : (program : String) → Files → (entropy : UInt64) → (arguments : List String) → Outcome :=
  runOn .inSeedOrder

/-- Lines with a line end behind each. -/
def lines (texts : List String) : String := String.join (texts.map (· ++ "\n"))

def exampleText : String :=
  lines [
    "Example input (input.json):",
    Problem.example.toJson.toPretty,
    "",
    "Example configuration (config.json):",
    ({} : Config).toJson.toPretty]

/-- Reports are shown for every tenth part of the lineages. -/
def isShown (p : Progress) : Bool := p.completed % max 1 (p.total / 10) == 0

def progressLine (p : Progress) : String :=
  String.join ["  Lineage ", toString p.completed, "/", toString p.total, ": fitness=",
    Decimal.fixed 2 p.bestFitness]

/-- What is said of a result, with its document at the end. -/
def summary (result : SearchReport) (seconds : Float) : List String :=
  let timed := { result with stats := { result.stats with elapsedSeconds := seconds } }
  ["",
    "Pattern: " ++ result.pattern,
    "Fitness: " ++ Decimal.Layout.message.write result.fitnessScore,
    String.join ["Correct: ", toString result.accuracy, "%"],
    "Stop reason: " ++ result.stats.stopReason.name,
    String.join ["Time: ", Decimal.fixed 2 seconds, "s"],
    "",
    timed.toJson.toPretty]

/-- What is shown of a search that took this many seconds. -/
def searchText (problem : Problem) (config : Config) (result : SearchReport)
    (progress : List Progress) (seconds : Float) : String :=
  lines (heading problem config ++ (progress.filter isShown).map progressLine ++
    summary result seconds)

namespace Outcome

def exitCode : Outcome → Nat
  | failure code .. => code
  | samples => 0
  | finished .. => 0

/-- What goes to standard output, when the search took this many seconds. -/
def output (seconds : Float) : Outcome → String
  | failure _ _ shown => lines shown
  | samples => exampleText
  | finished problem config result progress => searchText problem config result progress seconds

def errors : Outcome → String
  | failure _ message _ => message
  | samples => ""
  | finished .. => ""

end Outcome

end RegexInference.CommandLine
