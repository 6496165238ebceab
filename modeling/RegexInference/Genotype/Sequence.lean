import RegexInference.Genotype.Basic

/-!
# Sequences of symbols

The flat representation: a candidate is a list of symbols, written one after the other.
-/

namespace RegexInference

structure Sequence where
  symbols : List Symbol
  deriving DecidableEq, Repr

namespace Sequence

variable {σ : Type} [Random.Source σ]

def ofTokens (tokens : List String) : Sequence := ⟨tokens.map Symbol.ofToken⟩

def toPattern (s : Sequence) : String := String.join (s.symbols.map Symbol.toPattern)

/-- Puts a drawn symbol at a place, which is clipped to the length.  The symbol differs from the
one that stood there if the alphabet allows. -/
def insertIdx (i : Nat) (alphabet : Alphabet) (s : Sequence) : Random.Draw σ Sequence := do
  let i := min i s.symbols.length
  match ← Random.chooseOther alphabet.symbols s.symbols[i]? with
  | none => return s
  | some symbol => return ⟨s.symbols.insertIdx i symbol⟩

/-- Takes out the symbol at a place; beyond the end nothing happens. -/
def eraseIdx (i : Nat) (s : Sequence) : Sequence := ⟨s.symbols.eraseIdx i⟩

/-- Exchanges the symbol at a place for a drawn one, which differs if the alphabet allows. -/
def replaceIdx (i : Nat) (alphabet : Alphabet) (s : Sequence) : Random.Draw σ Sequence :=
  match s.symbols[i]? with
  | none => return s
  | some current => do
    match ← Random.chooseOther alphabet.symbols (some current) with
    | none => return s
    | some symbol => return ⟨s.symbols.set i symbol⟩

/-- Copies the symbol at a place next to itself. -/
def duplicateIdx (i : Nat) (s : Sequence) : Sequence :=
  match s.symbols[i]? with
  | none => s
  | some symbol => ⟨s.symbols.insertIdx i symbol⟩

/-- Applies an operator at a random place.  On the empty sequence the operators that add a symbol
insert one and the others do nothing; no place is drawn. -/
def mutate (op : Operator) (alphabet : Alphabet) (s : Sequence) : Random.Draw σ Sequence :=
  let n := s.symbols.length
  if n = 0 then
    match op with
    | .insert | .duplicate => s.insertIdx 0 alphabet
    | .delete | .replace => return s
  else
    match op with
    | .insert => do
      let i ← Random.between 0 n
      s.insertIdx i alphabet
    | .delete => do
      let i ← Random.below n
      return s.eraseIdx i
    | .replace => do
      let i ← Random.below n
      s.replaceIdx i alphabet
    | .duplicate => do
      let i ← Random.below n
      return s.duplicateIdx i

instance : Genotype Sequence Alphabet where
  vocabulary := id
  empty := ⟨[]⟩
  size s := s.symbols.length
  toPattern := toPattern
  mutate op alphabet s := s.mutate op alphabet

end Sequence

end RegexInference
