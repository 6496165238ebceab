import RegexInference.Unicode.CodeSet

/-!
# UTF-8

The bytes that encode a code point, and the runs of code points as sequences of byte ranges.  Each
code point of a run is encoded by bytes of exactly one of its sequences, taken one out of each
range.
-/

namespace RegexInference.Unicode.Utf8

/-- Encodings of one length: the code points that have it, what their first byte is counted from,
and how many bytes follow. -/
structure Form where
  first : Nat
  last : Nat
  mark : Nat
  followers : Nat

/-- The four lengths of encodings. -/
def forms : List Form :=
  [⟨0, 0x7F, 0, 0⟩, ⟨0x80, 0x7FF, 0xC0, 1⟩, ⟨0x800, 0xFFFF, 0xE0, 2⟩,
    ⟨0x10000, 0x10FFFF, 0xF0, 3⟩]

/-- How many code points `n` following bytes tell apart. -/
def blockSize : (n : Nat) → Nat
  | 0 => 1
  | n + 1 => 64 * blockSize n

/-- The bytes of a number whose first byte is counted from `mark` and followed by `n` others. -/
def bytesFrom (mark : Nat) : (n code : Nat) → List Nat
  | 0, code => [mark + code]
  | n + 1, code =>
    let block := blockSize (n + 1)
    (mark + code / block) :: bytesFrom 0x80 n (code % block)

def encode (code : Nat) : List Nat :=
  match forms.find? (code ≤ ·.last) with
  | some form => bytesFrom form.mark form.followers code
  | none => []

/-- The bytes from `low` to `high`. -/
structure ByteRange where
  low : Nat
  high : Nat
  deriving DecidableEq

/-- All bytes that may follow a first one. -/
def anyFollower : ByteRange := ⟨0x80, 0xBF⟩

/-- The sequences for the numbers from `low` to `high`, whose first byte is counted from `mark` and
followed by `n` others.  A block of numbers with one first byte that the run covers in part has
sequences of its own; the blocks between these share one. -/
def sequencesFrom (mark : Nat) : (n low high : Nat) → List (List ByteRange)
  | 0, low, high => [[⟨mark + low, mark + high⟩]]
  | n + 1, low, high =>
    let block := blockSize (n + 1)
    let within (lead low high : Nat) :=
      (sequencesFrom 0x80 n low high).map (⟨mark + lead, mark + lead⟩ :: ·)
    let lead := low / block
    let lastLead := high / block
    if lead = lastLead then within lead (low % block) (high % block)
    else
      let fullBelow := low % block = 0
      let fullAbove := high % block + 1 = block
      let firstFull := if fullBelow then lead else lead + 1
      let endFull := if fullAbove then lastLead + 1 else lastLead
      (if fullBelow then [] else within lead (low % block) (block - 1)) ++
        (if firstFull < endFull then
          [⟨mark + firstFull, mark + (endFull - 1)⟩ :: List.replicate (n + 1) anyFollower]
        else []) ++
        (if fullAbove then [] else within lastLead 0 (high % block))

/-- The sequences for the code points from `low` to `high`, in increasing order. -/
def sequences (low high : Nat) : List (List ByteRange) :=
  forms.flatMap fun form =>
    let low := Nat.max low form.first
    let high := Nat.min high form.last
    if low ≤ high then sequencesFrom form.mark form.followers low high else []

def sequencesOf (s : CodeSet) : List (List ByteRange) :=
  s.runs.flatMap fun (low, high) => sequences low high

/-- No less than the number of sequences for the code points from `low` to `high`. -/
def sequencesAtMost (low high : Nat) : Nat :=
  if low / 0x40 = high / 0x40 then 1
  else if 0x800 ≤ low ∧ low / 0x1000 = high / 0x1000 then 3
  else 16

end RegexInference.Unicode.Utf8
