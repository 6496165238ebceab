import RegexInference.Genotype.Basic
import RegexInference.Genotype.Node

/-!
# Pattern trees

The structured representation: a list of nodes, in which sets hold lists of their own.  An edit
chooses one of these lists, the root's or a set's, and changes it in one place.
-/

namespace RegexInference

structure SyntaxTree where
  children : List Node
  deriving DecidableEq

/-- The values that fresh nodes are drawn from. -/
structure NodeSupply where
  chars : List ClassToken
  literals : List String
  quantifiers : List Quantifier
  deriving DecidableEq, Repr

namespace NodeSupply

variable {σ : Type} [Random.Source σ]

/-- The literals on offer when the caller gives no alphabet. -/
def commonLiterals : List String :=
  ".@abcdefghijkmnopqrstuvwxyz0123456789".toList.map String.singleton

/-- The vocabulary of the empty alphabet. -/
def default : NodeSupply := ⟨ClassToken.all, commonLiterals, Quantifier.all⟩

/-- Adds what a symbol offers.  Syntax that is neither a class token nor a quantifier offers
nothing. -/
def addSymbol (v : NodeSupply) : Symbol → NodeSupply
  | .literal text => { v with literals := v.literals ++ [text] }
  | .special token =>
    match ClassToken.ofToken? token, Quantifier.ofToken? token with
    | some c, _ => { v with chars := v.chars ++ [c] }
    | none, some q => { v with quantifiers := v.quantifiers ++ [q] }
    | none, none => v

def ofAlphabet (alphabet : Alphabet) : NodeSupply :=
  if alphabet.symbols.isEmpty then default
  else alphabet.symbols.foldl addSymbol ⟨[], [], []⟩

/-- The kinds of node that can be drawn.  Sets need something to put into them. -/
def kinds (v : NodeSupply) : List NodeKind :=
  (if v.chars.isEmpty then [] else [.char]) ++
  (if v.literals.isEmpty then [] else [.literal]) ++
  (if v.quantifiers.isEmpty then [] else [.quantifier]) ++
  (if v.chars.isEmpty && v.literals.isEmpty then [] else [.set])

/-- Draws a node of a kind.  Its value differs from that of `current`, if this is a node of the same
kind and the vocabulary allows.  A fresh set is empty. -/
def drawOfKind (v : NodeSupply) (kind : NodeKind) (current : Option Node) :
    Random.Draw σ (Option Node) :=
  match kind with
  | .char => do
    let present := match current with | some (.char c) => some c | _ => none
    return (← Random.chooseOther v.chars present).map Node.char
  | .literal => do
    let present := match current with | some (.literal text) => some text | _ => none
    return (← Random.chooseOther v.literals present).map Node.literal
  | .quantifier => do
    let present := match current with | some (.quantifier q) => some q | _ => none
    return (← Random.chooseOther v.quantifiers present).map Node.quantifier
  | .set => return some (.set [])

def draw (v : NodeSupply) : Random.Draw σ (Option Node) := do
  match ← Random.choose v.kinds with
  | none => return none
  | some kind => v.drawOfKind kind none

end NodeSupply

/-- A path to a list of children: the index of a set at the root, of a set among its children, and
so on.  The empty path leads to the root. -/
abbrev TreePath := List Nat

namespace Node

mutual

/-- The paths to the list of a node that has index `i` and to all lists below it, each before the
ones inside it. -/
def setPaths (i : Nat) : Node → List TreePath
  | set children => [i] :: (listSetPaths 0 children).map (i :: ·)
  | _ => []

/-- The paths to the lists of some siblings, the first of which has index `i`, and below. -/
def listSetPaths (i : Nat) : List Node → List TreePath
  | [] => []
  | node :: rest => node.setPaths i ++ listSetPaths (i + 1) rest

end

/-- The list of children that a path leads to. -/
def listAt? : TreePath → List Node → Option (List Node)
  | [], nodes => some nodes
  | i :: path, nodes =>
    match nodes[i]? with
    | some (set children) => listAt? path children
    | _ => none

/-- Puts another list where a path leads; a path that leads nowhere changes nothing. -/
def setListAt (replacement : List Node) : TreePath → List Node → List Node
  | [], _ => replacement
  | i :: path, nodes =>
    match nodes[i]? with
    | some (set children) => nodes.set i (.set (setListAt replacement path children))
    | _ => nodes

variable {σ : Type} [Random.Source σ]

/-- Puts a drawn node at a drawn place among some siblings. -/
def insertDrawn (v : NodeSupply) (nodes : List Node) : Random.Draw σ (List Node) := do
  let i ← Random.between 0 nodes.length
  match ← v.draw with
  | none => return nodes
  | some node => return nodes.insertIdx i node

/-- Applies an operator to one list of children.  On the empty list the operators that add a node
insert one and the others do nothing. -/
def editList (op : Operator) (v : NodeSupply) (nodes : List Node) :
    Random.Draw σ (List Node) :=
  match op with
  | .insert => insertDrawn v nodes
  | .delete =>
    if nodes.isEmpty then return nodes
    else do
      let i ← Random.below nodes.length
      return nodes.eraseIdx i
  | .replace =>
    if nodes.isEmpty then return nodes
    else do
      let i ← Random.below nodes.length
      match nodes[i]? with
      | none => return nodes
      | some current =>
        match ← v.drawOfKind current.kind (some current) with
        | none => return nodes
        | some node => return nodes.set i node
  | .duplicate =>
    if nodes.isEmpty then insertDrawn v nodes
    else do
      let i ← Random.below nodes.length
      match nodes[i]? with
      | none => return nodes
      | some node => return nodes.insertIdx i node

end Node

namespace SyntaxTree

variable {σ : Type} [Random.Source σ]

def toPattern (t : SyntaxTree) : String := Node.listToPattern t.children

/-- The paths to all lists of children, the root's first. -/
def listPaths (t : SyntaxTree) : List TreePath := [] :: Node.listSetPaths 0 t.children

/-- Applies an operator to one list of children, drawn from all of them. -/
def mutate (op : Operator) (v : NodeSupply) (t : SyntaxTree) :
    Random.Draw σ SyntaxTree := do
  match ← Random.choose t.listPaths with
  | none => return t
  | some path =>
    match Node.listAt? path t.children with
    | none => return t
    | some nodes =>
      let edited ← Node.editList op v nodes
      return ⟨Node.setListAt edited path t.children⟩

instance : Genotype SyntaxTree NodeSupply where
  vocabulary := NodeSupply.ofAlphabet
  empty := ⟨[]⟩
  size t := t.children.length
  toPattern := toPattern
  mutate op v t := t.mutate op v

end SyntaxTree

end RegexInference
