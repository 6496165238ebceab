import RegexInference.Regex.Join
import RegexInference.Regex.Token

/-!
# From tokens to an expression

Tokens are joined left to right.  Each open group keeps its finished alternatives and the items of
the alternative being read; a closing parenthesis turns them into one item of the group around it.
-/

namespace RegexInference.Regex

/-- One item of a concatenation. -/
structure Item where
  regex : Regex
  /-- How deeply the text of the item was nested. -/
  depth : Nat
  /-- A change of flags is an item that cannot be repeated. -/
  repeatable : Bool := true

/-- A group that is still open; both lists have their last member first. -/
structure GroupFrame where
  captures : Bool := false
  branches : List Item := []
  items : List Item := []

def deepest (items : List Item) : Nat := (items.map Item.depth).foldl Nat.max 0

namespace GroupFrame

def push (frame : GroupFrame) (item : Item) : GroupFrame :=
  { frame with items := item :: frame.items }

/-- The current alternative as one item.  A concatenation of several items counts as a level of
nesting. -/
def branch (frame : GroupFrame) : Item :=
  match frame.items with
  | [] => ⟨.empty, 0, true⟩
  | [item] => item
  | items => ⟨seqAll (items.reverse.map Item.regex), 1 + deepest items, true⟩

/-- The whole content of the group; several alternatives count as a level of nesting. -/
def content (frame : GroupFrame) : Item :=
  match frame.branches with
  | [] => frame.branch
  | branches =>
    let all := frame.branch :: branches
    ⟨altAll (all.reverse.map Item.regex), 1 + deepest all, true⟩

/-- The group as one item of what is around it. -/
def close (frame : GroupFrame) : Item :=
  let content := frame.content
  ⟨if frame.captures then .group content.regex else content.regex, content.depth + 1, true⟩

/-- Ends the current alternative and begins the next one. -/
def bar (frame : GroupFrame) : GroupFrame :=
  { frame with branches := frame.branch :: frame.branches, items := [] }

/-- Repeats the last item, if there is one that can be repeated. -/
def repeatLast? (frame : GroupFrame) (min : Nat) (max : Option Nat) (greedy : Bool) :
    Option GroupFrame :=
  match frame.items with
  | [] => none
  | item :: before =>
    if item.repeatable then
      let r := repeated item.regex min max greedy
      some { frame with items := ⟨r, item.depth + 1, true⟩ :: before }
    else none

end GroupFrame

/-- The innermost open group and the ones around it. -/
structure ParseState where
  top : GroupFrame := {}
  outer : List GroupFrame := []

def ParseState.step (state : ParseState) : Token → Option ParseState
  | .item r depth => some { state with top := state.top.push ⟨r, depth, true⟩ }
  | .flags => some { state with top := state.top.push ⟨.empty, 0, false⟩ }
  | .groupStart captures => some { top := { captures }, outer := state.top :: state.outer }
  | .groupEnd =>
    match state.outer with
    | [] => none
    | parent :: outer =>
      some { top := parent.push state.top.close, outer }
  | .bar => some { state with top := state.top.bar }
  | .rounds min max greedy =>
    (state.top.repeatLast? min max greedy).map fun top => { state with top }

/-- Joins tokens into one item; every group must be closed. -/
def ofTokens? (tokens : List Token) : Option Item := do
  let state ← tokens.foldlM ParseState.step {}
  if state.outer.isEmpty then some state.top.content else none

/-- How many levels of groups, brackets, repetitions, concatenations and alternations may lie
inside each other. -/
def nestLimit : Nat := 250

def parse? (source : List Char) : Option Regex := do
  let tokens ← tokens? source
  let item ← ofTokens? tokens
  if item.depth ≤ nestLimit then some item.regex else none

end RegexInference.Regex
