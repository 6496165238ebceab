import RegexInference.Regex.Escaped

/-!
# Nodes of a pattern tree

The parts of a small syntax tree for patterns.  A set holds further nodes and is written in
brackets; a quantifier is written behind the sibling it applies to.
-/

namespace RegexInference

/-- Classes that are written as one token. -/
inductive ClassToken where
  | any
  | boundary
  | digit
  | space
  | word
  deriving DecidableEq, Repr

namespace ClassToken

def all : List ClassToken := [any, boundary, digit, space, word]

def toPattern : ClassToken → String
  | any => "."
  | boundary => "\\b"
  | digit => "\\d"
  | space => "\\s"
  | word => "\\w"

def ofToken? (token : String) : Option ClassToken := all.find? fun c => c.toPattern == token

end ClassToken

/-- Repetitions of the preceding sibling. -/
inductive Quantifier where
  | oneOrMore
  | zeroOrMore
  deriving DecidableEq, Repr

namespace Quantifier

def all : List Quantifier := [oneOrMore, zeroOrMore]

def toPattern : Quantifier → String
  | oneOrMore => "+"
  | zeroOrMore => "*"

def ofToken? (token : String) : Option Quantifier := all.find? fun q => q.toPattern == token

end Quantifier

/-- A node below the root. -/
inductive Node where
  | char (c : ClassToken)
  | literal (text : String)
  | quantifier (q : Quantifier)
  | set (children : List Node)

/-- What a node is, apart from its value. -/
inductive NodeKind where
  | char
  | literal
  | quantifier
  | set
  deriving DecidableEq, Repr

namespace Node

def kind : Node → NodeKind
  | char _ => .char
  | literal _ => .literal
  | quantifier _ => .quantifier
  | set _ => .set

mutual

/-- Decides whether two nodes are the same tree. -/
def decEq : (a b : Node) → Decidable (a = b)
  | char c, char d => if h : c = d then isTrue (by rw [h]) else isFalse (by simp [h])
  | literal s, literal t => if h : s = t then isTrue (by rw [h]) else isFalse (by simp [h])
  | quantifier p, quantifier q =>
    if h : p = q then isTrue (by rw [h]) else isFalse (by simp [h])
  | set xs, set ys =>
    match decEqList xs ys with
    | isTrue h => isTrue (by rw [h])
    | isFalse h => isFalse (by simp [h])
  | char _, literal _ | char _, quantifier _ | char _, set _
  | literal _, char _ | literal _, quantifier _ | literal _, set _
  | quantifier _, char _ | quantifier _, literal _ | quantifier _, set _
  | set _, char _ | set _, literal _ | set _, quantifier _ => isFalse (by simp)

/-- Decides whether two lists of nodes are the same. -/
def decEqList : (xs ys : List Node) → Decidable (xs = ys)
  | [], [] => isTrue rfl
  | x :: xs, y :: ys =>
    match decEq x y, decEqList xs ys with
    | isTrue hx, isTrue hxs => isTrue (by rw [hx, hxs])
    | isFalse hx, _ => isFalse (by simp [hx])
    | _, isFalse hxs => isFalse (by simp [hxs])
  | [], _ :: _ | _ :: _, [] => isFalse (by simp)

end

instance : DecidableEq Node := decEq

mutual

def toPattern : Node → String
  | char c => c.toPattern
  | literal text => Regex.escaped text
  | quantifier q => q.toPattern
  | set children => "[" ++ listToPattern children ++ "]"

def listToPattern : List Node → String
  | [] => ""
  | node :: rest => node.toPattern ++ listToPattern rest

end

end Node

end RegexInference
