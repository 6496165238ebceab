import RegexInference.Genotype.SyntaxTree
import RegexInference.Json.Record

/-!
# Pattern trees as documents

A node is an object with its kind under `type` and its content under `value`, or an array of the
two.  The members of the object may come in either order.  A content that comes first is kept as it
is until the kind is known.
-/

namespace RegexInference

open Json

namespace ClassToken

def names : List (String × ClassToken) :=
  [("Any", .any), ("Boundary", .boundary), ("Digit", .digit), ("Space", .space), ("Word", .word)]

def name : ClassToken → String
  | any => "Any"
  | boundary => "Boundary"
  | digit => "Digit"
  | space => "Space"
  | word => "Word"

end ClassToken

namespace Quantifier

def names : List (String × Quantifier) := [("OneOrMore", .oneOrMore), ("ZeroOrMore", .zeroOrMore)]

def name : Quantifier → String
  | oneOrMore => "OneOrMore"
  | zeroOrMore => "ZeroOrMore"

end Quantifier

namespace NodeKind

def names : List (String × NodeKind) :=
  [("Char", .char), ("Literal", .literal), ("Quantifier", .quantifier), ("CharSet", .set)]

def name : NodeKind → String
  | char => "Char"
  | literal => "Literal"
  | quantifier => "Quantifier"
  | set => "CharSet"

end NodeKind

namespace Node

def document (kind : NodeKind) (content : Value) : Value :=
  .object [("type", .string kind.name), ("value", content)]

mutual

def toJson : Node → Value
  | char c => document .char (.string c.name)
  | literal text => document .literal (.string text)
  | quantifier q => document .quantifier (.string q.name)
  | set children => document .set (.array (listToJson children))

def listToJson : List Node → List Value
  | [] => []
  | node :: rest => node.toJson :: listToJson rest

end

/-- What a node is called in messages. -/
def expected : String := "adjacently tagged enum Node"

/-! ## Contents that were kept -/

/-- What a kept value is called in messages. -/
def found : Value → Found
  | .null => .null
  | .boolean b => .boolean b
  | .integer n => .integer n
  | .float x => .float x
  | .string text => .string text
  | .array _ => .sequence
  | .object _ => .map

/-- The value of a name among some variants. -/
def keptName {α : Type} (known : List (String × α)) (name : String) : Except Mismatch α :=
  match known.find? (·.1 == name) with
  | some (_, x) => .ok x
  | none => .error (.unknownVariant name (known.map Prod.fst))

/-- A kept variant name, as a string or as the only key of an object. -/
def keptVariant {α : Type} (known : List (String × α)) : Value → Except Mismatch α
  | .string name => keptName known name
  | .object [(name, content)] => do
    let x ← keptName known name
    match content with
    | .null => return x
    | .object [] => return x
    | other => throw (.wrongType (found other) "unit")
  | .object _ => .error (.wrongValue .map "map with a single key")
  | other => .error (.wrongType (found other) "string or map")

/-- The members of a kept object that count for a node, in order. -/
def keptMembers (members : List (String × Value)) : List (Bool × Value) :=
  members.filterMap fun (key, v) =>
    if key = "type" then some (true, v) else if key = "value" then some (false, v) else none

def memberName (isKind : Bool) : String := if isKind then "type" else "value"

def ofKept (child : Value → Except Mismatch Node) : NodeKind → Value → Except Mismatch Node
  | .char, v => char <$> keptVariant ClassToken.names v
  | .literal, .string text => .ok (literal text)
  | .literal, v => .error (.wrongType (found v) "a string")
  | .quantifier, v => quantifier <$> keptVariant Quantifier.names v
  | .set, .array items => set <$> items.mapM child
  | .set, v => .error (.wrongType (found v) "a sequence")

def ofValue : (fuel : Nat) → Value → Except Mismatch Node
  | 0, _ => .error (.wrongType .null expected)
  | fuel + 1, .array items =>
    match items with
    | [] => .error (.wrongLength 0 expected)
    | [kind] => do
      let _ ← keptVariant NodeKind.names kind
      throw (.wrongLength 1 expected)
    | kind :: content :: others => do
      let kind ← keptVariant NodeKind.names kind
      let node ← ofKept (ofValue fuel) kind content
      if others.isEmpty then return node
      else throw (.wrongLength (2 + others.length) "2 elements in sequence")
  | fuel + 1, .object members => do
    let complete (node : Node) (others : List (Bool × Value)) : Except Mismatch Node :=
      match others with
      | [] => return node
      | (isKind, _) :: _ => throw (.duplicateField (memberName isKind))
    match keptMembers members with
    | [] => throw (.missingField "type")
    | (true, kind) :: more =>
      let kind ← keptVariant NodeKind.names kind
      match more with
      | [] => throw (.missingField "value")
      | (true, _) :: _ => throw (.duplicateField "type")
      | (false, content) :: others => complete (← ofKept (ofValue fuel) kind content) others
    | (false, _) :: [] => throw (.missingField "type")
    | (false, _) :: (false, _) :: _ => throw (.duplicateField "value")
    | (false, content) :: (true, kind) :: others =>
      let kind ← keptVariant NodeKind.names kind
      complete (← ofKept (ofValue fuel) kind content) others
  | _ + 1, v => .error (.wrongType (found v) expected)

/-! ## Reading -/

/-- Steps to the next member that counts for a node, passing over others; says whether it is the
kind. -/
def nextMember (depth : Nat) :
    (fuel : Nat) → (first : Bool) → List Char → Except Error (Option Bool × List Char)
  | 0, _, _ => .error (.truncated .object)
  | fuel + 1, first, cs => do
    match ← Reader.nextKey first cs with
    | (none, left) => return (none, left)
    | (some key, left) =>
      if key = "type" then return (some true, left)
      else if key = "value" then return (some false, left)
      else
        let (_, left) ← Reader.skip depth (← Reader.readColon left)
        nextMember depth fuel false left

def contentReader (child : Reader Node) : NodeKind → Reader Node
  | .char => fun depth cs => do
    let (c, left) ← Reader.variant ClassToken.names depth cs
    return (char c, left)
  | .literal => fun depth cs => do
    let (text, left) ← Reader.string depth cs
    return (literal text, left)
  | .quantifier => fun depth cs => do
    let (q, left) ← Reader.variant Quantifier.names depth cs
    return (quantifier q, left)
  | .set => fun depth cs => do
    let (children, left) ← Reader.list child depth cs
    return (set children, left)

def kindReader : Reader NodeKind := Reader.variant NodeKind.names

/-- Reads the members of a node behind its opening brace. -/
def readMembers (child : Reader Node) (depth : Nat) (cs : List Char) :
    Except Error (Node × List Char) := do
  let fuel := cs.length + 1
  let complete (node : Node) (cs : List Char) : Except Error (Node × List Char) := do
    match ← nextMember depth fuel false cs with
    | (none, left) => return (node, left)
    | (some isKind, _) => throw (.mismatch (.duplicateField (memberName isKind)))
  match ← nextMember depth fuel true cs with
  | (none, _) => throw (.mismatch (.missingField "type"))
  | (some true, rest) =>
    let (kind, rest) ← kindReader depth (← Reader.readColon rest)
    match ← nextMember depth fuel false rest with
    | (none, _) => throw (.mismatch (.missingField "value"))
    | (some true, _) => throw (.mismatch (.duplicateField "type"))
    | (some false, rest) =>
      let (node, rest) ← contentReader child kind depth (← Reader.readColon rest)
      complete node rest
  | (some false, rest) =>
    let (content, rest) ← Reader.anyValue depth (← Reader.readColon rest)
    match ← nextMember depth fuel false rest with
    | (none, _) => throw (.mismatch (.missingField "type"))
    | (some false, _) => throw (.mismatch (.duplicateField "value"))
    | (some true, rest) =>
      let (kind, rest) ← kindReader depth (← Reader.readColon rest)
      match ofKept (ofValue maxDepth) kind content with
      | .error cause => throw (.mismatch cause)
      | .ok node => complete node rest

/-- Reads a node, in which others may lie as deep as the fuel allows. -/
def reader : (fuel : Nat) → Reader Node
  | 0 => fun _ _ => .error (.malformed .tooDeep)
  | fuel + 1 => fun depth cs =>
    match skipBlanks cs with
    | '[' :: rest =>
      Reader.enter depth fun depth => do
        let (more, rest) ← Reader.nextItem true rest
        if !more then throw (.mismatch (.wrongLength 0 expected))
        let (kind, rest) ← kindReader depth rest
        let (more, rest) ← Reader.nextItem false rest
        if !more then throw (.mismatch (.wrongLength 1 expected))
        let (node, rest) ← contentReader (reader fuel) kind depth rest
        return (node, ← Reader.closeArray rest)
    | '{' :: rest =>
      Reader.enter depth fun depth => do
        let (node, rest) ← readMembers (reader fuel) depth rest
        return (node, ← Reader.closeObject rest)
    | cs => wrongType expected cs

end Node

namespace SyntaxTree

def toJson (t : SyntaxTree) : Value := .object [("children", .array (Node.listToJson t.children))]

def fields : List (RecordField SyntaxTree) := [
  .needed "children" (.list (Node.reader maxDepth)) fun x _ => ⟨x⟩]

def reader : Reader SyntaxTree := Reader.record "PatternTree" fields ⟨[]⟩

def ofJson (text : String) : Except Json.Error SyntaxTree := reader.run text

end SyntaxTree

end RegexInference
