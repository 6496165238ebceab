import RegexInference.Document.SyntaxTree
import RegexInference.Proofs.Json.Objects

/-!
# Pattern trees that are read back

A node takes two levels of its document, one for the object that it is and one for the list inside
it.  A tree comes back from its text as it was, whatever its literals hold, as long as its sets do
not lie deeper in one another than the levels of a document allow.  Any other tree is refused.
-/

namespace RegexInference

open Json

namespace Node

/-! ## How deep sets lie in one another -/

mutual

/-- How many sets lie in one another in a node, counting the node itself. -/
def nesting : Node → ℕ
  | set children => listNesting children + 1
  | _ => 0

def listNesting : List Node → ℕ
  | [] => 0
  | node :: rest => max node.nesting (listNesting rest)

end

theorem listToJson_eq_map (nodes : List Node) : listToJson nodes = nodes.map toJson := by
  induction nodes with
  | nil => rfl
  | cons node rest ih => rw [listToJson, ih, List.map_cons]

/-- A node is written as an object. -/
theorem exists_writtenAs_toJson (node : Node) (style : Style) :
    ∃ cs, node.toJson.writtenAs style = '{' :: cs := by
  have hobject : ∃ members, node.toJson = .object members := by
    cases node <;> exact ⟨_, rfl⟩
  obtain ⟨members, hmembers⟩ := hobject
  obtain ⟨gap, -, htext⟩ := Value.exists_writtenAs_object style members
  exact ⟨_, hmembers ▸ htext⟩

/-! ## Contents -/

theorem variantOf_class (c : ClassToken) : Reader.variantOf ClassToken.names c.name = .ok c := by
  cases c <;> rfl

theorem variantOf_quantifier (q : Quantifier) :
    Reader.variantOf Quantifier.names q.name = .ok q := by
  cases q <;> rfl

theorem variantOf_kind (kind : NodeKind) :
    Reader.variantOf NodeKind.names kind.name = .ok kind := by
  cases kind <;> rfl

section

variable (child : Reader Node) (depth : ℕ) {gap : List Char} (hgap : Blanks gap)
include hgap

theorem char_takes (c : ClassToken) :
    (contentReader child .char).Takes depth (gap ++ writeString c.name) (.ok (char c)) :=
  (Reader.variant_takes hgap depth (variantOf_class c)).map char

theorem literal_takes (text : String) :
    (contentReader child .literal).Takes depth (gap ++ writeString text) (.ok (literal text)) :=
  (Reader.string_takes hgap depth text).map literal

theorem quantifier_takes (q : Quantifier) :
    (contentReader child .quantifier).Takes depth (gap ++ writeString q.name)
      (.ok (quantifier q)) :=
  (Reader.variant_takes hgap depth (variantOf_quantifier q)).map quantifier

end

theorem set_takes {child : Reader Node} {depth : ℕ} {text : List Char}
    {outcome : Except Json.Error (List Node)}
    (h : (Reader.list child).Takes depth text outcome) :
    (contentReader child .set).Takes depth text (outcome.map set) :=
  h.map set

/-! ## Members -/

section

variable {first : Bool} {cs left : List Char} (depth fuel : ℕ)

theorem nextMember_some (isKind : Bool)
    (h : Reader.nextKey first cs = .ok (some (memberName isKind), left)) :
    nextMember depth (fuel + 1) first cs = .ok (some isKind, left) := by
  rw [nextMember, h]
  cases isKind <;> rfl

theorem nextMember_none (h : Reader.nextKey first cs = .ok (none, left)) :
    nextMember depth (fuel + 1) first cs = .ok (none, left) := by
  rw [nextMember, h]
  rfl

end

variable {child : Reader Node} {depth : ℕ} {kind : NodeKind} {content : Value} {style : Style}
  {outcome : Except Json.Error Node}

/-- The two members of a node as they are laid out. -/
def kindText (style : Style) (kind : NodeKind) : List Char :=
  (style.member "type" (.string kind.name)).text

def contentText (style : Style) (content : Value) : List Char :=
  (style.member "value" content).text

/-- A node is read from its two members as its content is. -/
theorem readMembers_document
    (hcontent : (contentReader child kind).Takes depth (style.gap ++ content.writtenAs style.inner)
      outcome) {gap : List Char} (hgap : Blanks gap) (rest : List Char) :
    readMembers child depth
        (kindText style kind ++ ',' :: (contentText style content ++ (gap ++ '}' :: rest))) =
      outcome.map (·, '}' :: rest) := by
  let behind := gap ++ '}' :: rest
  let second := ',' :: (contentText style content ++ behind)
  have hbehind : Delimited behind := delimited_blanks_append hgap (delimited_closer true rest)
  have hsecond : Delimited second := fun c hc => Or.inr (Or.inl (Option.some_inj.mp hc).symm)
  have hkind : kindReader depth
      (style.gap ++ (Value.string kind.name).writtenAs style.inner ++ second) =
        .ok (kind, second) := by
    rw [Value.writtenAs_string]
    exact Reader.variant_takes style.blanks_gap depth (variantOf_kind kind) second hsecond
  have hfirstKey : Reader.nextKey true (kindText style kind ++ second) =
      .ok (some (memberName true),
        ':' :: (style.gap ++ (Value.string kind.name).writtenAs style.inner ++ second)) :=
    Reader.nextKey_member_first style "type" (.string kind.name) second
  have hsecondKey : Reader.nextKey false second =
      .ok (some (memberName false),
        ':' :: (style.gap ++ content.writtenAs style.inner ++ behind)) :=
    Reader.nextKey_member_comma style "value" content behind
  have hend := Reader.nextKey_close hgap false rest
  have hcolon : ∀ left, Reader.readColon (':' :: left) = .ok left :=
    fun left => readColon_blanks blanks_nil left
  change readMembers child depth (kindText style kind ++ second) = _
  unfold readMembers
  simp only [nextMember_some _ _ true hfirstKey, bind, Except.bind, hcolon, hkind,
    nextMember_some _ _ false hsecondKey, hcontent behind hbehind]
  cases outcome with
  | error cause => rfl
  | ok node =>
      simp only [Except.map, behind, nextMember_none _ _ hend]
      rfl

/-- A node takes one level, and what its content takes. -/
theorem reader_takes_document {fuel : ℕ} {depth : ℕ} (hdepth : 1 < depth)
    (hcontent : (contentReader (reader fuel) kind).Takes (depth - 1)
      (style.gap ++ content.writtenAs style.inner) outcome)
    {lead : List Char} (hlead : Blanks lead) :
    (reader (fuel + 1)).Takes depth (lead ++ (document kind content).writtenAs style) outcome := by
  intro rest _
  obtain ⟨gap, hgap, htext⟩ := Value.exists_writtenAs_object style
    [("type", .string kind.name), ("value", content)]
  let body := kindText style kind ++ ',' :: (contentText style content ++ (gap ++ '}' :: rest))
  have hbody : (document kind content).writtenAs style ++ rest = '{' :: body := by
    rw [document, htext]
    simp [objectText, enclosed, separated, opener, closer, kindText, contentText, body]
  have hlevel : ¬ depth ≤ 1 := Nat.not_le.mpr hdepth
  unfold reader
  rw [List.append_assoc, skipBlanks_append hlead, hbody, skipBlanks_cons (by decide)]
  simp only [Reader.enter, if_neg hlevel, bind, Except.bind]
  rw [readMembers_document hcontent hgap]
  cases outcome with
  | error cause => rfl
  | ok node =>
      simp only [Except.map, Reader.closeObject_cons]
      rfl

/-- Where no level is left a node is refused as soon as it begins. -/
theorem reader_tooDeep {depth : ℕ} (hdepth : depth ≤ 1) (fuel : ℕ) {lead : List Char}
    (hlead : Blanks lead) (cs : List Char) :
    (reader fuel).Takes depth (lead ++ '{' :: cs) (.error (.malformed .tooDeep)) := by
  intro rest _
  cases fuel with
  | zero => rfl
  | succ fuel =>
      unfold reader
      rw [List.append_assoc, skipBlanks_append hlead, List.cons_append, skipBlanks_cons (by decide)]
      simp only [Reader.enter, if_pos hdepth]
      rfl

/-! ## Nodes -/

/-- What is read where a node has been written, with room for some levels of sets. -/
def within (k : ℕ) (node : Node) : Except Json.Error Node :=
  if node.nesting < k then .ok node else .error (.malformed .tooDeep)

def listWithin (k : ℕ) (nodes : List Node) : Except Json.Error (List Node) :=
  if listNesting nodes < k then .ok nodes else .error (.malformed .tooDeep)

theorem within_of_nesting_eq_zero {node : Node} (h : node.nesting = 0) (k : ℕ) :
    node.within (k + 1) = .ok node := if_pos (h ▸ Nat.succ_pos k)

theorem within_set (k : ℕ) (children : List Node) :
    (set children).within (k + 1) = (listWithin k children).map set := by
  unfold within listWithin
  rw [nesting, apply_ite (Except.map set)]
  simp only [Nat.add_lt_add_iff_right]
  rfl

theorem mapM_within {k : ℕ} (hk : 0 < k) (nodes : List Node) :
    nodes.mapM (within k) = listWithin k nodes := by
  induction nodes with
  | nil => exact (if_pos hk).symm
  | cons node rest ih =>
      rw [List.mapM_cons, ih, within, listWithin, listWithin, listNesting]
      by_cases hnode : node.nesting < k
      · by_cases hrest : listNesting rest < k
        · rw [if_pos hnode, if_pos hrest, if_pos (max_lt hnode hrest)]
          rfl
        · have hmax : ¬ max node.nesting (listNesting rest) < k :=
            fun h => hrest (lt_of_le_of_lt (le_max_right _ _) h)
          rw [if_pos hnode, if_neg hrest, if_neg hmax]
          rfl
      · have hmax : ¬ max node.nesting (listNesting rest) < k :=
          fun h => hnode (lt_of_le_of_lt (le_max_left _ _) h)
        rw [if_neg hnode, if_neg hmax]
        rfl

/-- Nodes are read as a list, one level further in, as each of them is. -/
theorem list_takes_nodes {k fuel : ℕ} {nodes : List Node} {style : Style}
    (hnodes : ∀ node ∈ nodes,
      (reader fuel).Takes (2 * k) (node.toJson.writtenAs style.inner) (node.within k))
    {lead : List Char} (hlead : Blanks lead) :
    (Reader.list (reader fuel)).Takes (2 * k + 1)
      (lead ++ (Value.array (listToJson nodes)).writtenAs style) (listWithin k nodes) := by
  obtain ⟨gap, hgap, htext⟩ := Value.exists_writtenAs_array style (listToJson nodes)
  rw [htext]
  cases k with
  | zero => exact Reader.list_tooDeep hlead (Nat.le_refl 1) _
  | succ k =>
      let items : List (Reader.Item Node) :=
        nodes.map fun node => ⟨style.item node.toJson, node.within (k + 1)⟩
      have hgives : ∀ i ∈ items, i.Gives (reader fuel) (2 * (k + 1)) := by
        intro i hi
        obtain ⟨node, hnode, rfl⟩ := List.mem_map.mp hi
        obtain ⟨cs, hcs⟩ := exists_writtenAs_toJson node style.inner
        exact ⟨⟨_, cs, hcs, by decide, by decide⟩, hnodes node hnode⟩
      have hlist := Reader.list_takes hgap hlead items
        (by omega : 1 < 2 * (k + 1) + 1) hgives
      have hspaced : items.map Reader.Item.toSpaced = (listToJson nodes).map style.item := by
        simp [items, listToJson_eq_map, Function.comp_def]
      have houtcome : items.mapM Reader.Item.outcome = listWithin (k + 1) nodes := by
        rw [List.mapM_map]
        exact mapM_within (Nat.succ_pos k) nodes
      rwa [hspaced, houtcome] at hlist

/-- A node whose content is written as a string takes no room. -/
theorem reader_takes_string {k fuel : ℕ} {text : String} {node : Node} (hnode : node.nesting = 0)
    (hcontent : (contentReader (reader fuel) kind).Takes (2 * k + 1) (style.gap ++ writeString text)
      (.ok node)) {lead : List Char} (hlead : Blanks lead) :
    (reader (fuel + 1)).Takes (2 * (k + 1)) (lead ++ (document kind (.string text)).writtenAs style)
      (node.within (k + 1)) := by
  rw [within_of_nesting_eq_zero hnode]
  refine reader_takes_document (by omega) ?_ hlead
  rw [Value.writtenAs_string]
  exact hcontent

/-- A node comes back with room for its sets, and is refused with less. -/
theorem reader_takes (k : ℕ) (node : Node) {fuel : ℕ} (hfuel : k ≤ fuel) (style : Style)
    {lead : List Char} (hlead : Blanks lead) :
    (reader fuel).Takes (2 * k) (lead ++ node.toJson.writtenAs style) (node.within k) := by
  -- The induction is on the room, not on the node: it bounds the fuel and the levels alike.
  induction k generalizing node fuel style lead with
  | zero =>
      obtain ⟨cs, hcs⟩ := exists_writtenAs_toJson node style
      rw [hcs]
      exact reader_tooDeep (Nat.zero_le 1) fuel hlead cs
  | succ k ih =>
      obtain ⟨fuel, rfl⟩ := Nat.exists_eq_add_of_le' (Nat.lt_of_lt_of_le (Nat.succ_pos k) hfuel)
      have hgap := style.blanks_gap
      cases node with
      | char c => exact reader_takes_string rfl (char_takes _ _ hgap c) hlead
      | literal text => exact reader_takes_string rfl (literal_takes _ _ hgap text) hlead
      | quantifier q => exact reader_takes_string rfl (quantifier_takes _ _ hgap q) hlead
      | set children =>
          have hnodes : ∀ node ∈ children, (reader fuel).Takes (2 * k)
              (node.toJson.writtenAs style.inner.inner) (node.within k) :=
            fun node _ => ih node (Nat.le_of_succ_le_succ hfuel) style.inner.inner blanks_nil
          rw [within_set]
          exact reader_takes_document (by omega) (set_takes (list_takes_nodes hnodes hgap)) hlead

/-- Sets in one another, the innermost one without children. -/
def nested : ℕ → Node
  | 0 => set []
  | n + 1 => set [nested n]

theorem nesting_nested (n : ℕ) : (nested n).nesting = n + 1 := by
  induction n with
  | zero => rfl
  | succ n ih => rw [nested, nesting, listNesting, ih]; rfl

end Node

namespace SyntaxTree

/-- A tree comes back from its text with room for its sets, and is refused with less. -/
theorem reader_takes (t : SyntaxTree) (style : Style) :
    reader.Takes maxDepth (t.toJson.writtenAs style)
      ((Node.listWithin 63 t.children).map SyntaxTree.mk) := by
  let put : List Node → SyntaxTree → SyntaxTree := fun nodes _ => ⟨nodes⟩
  let entries : List (Reader.Entry SyntaxTree) :=
    [.putting "children" (.array (Node.listToJson t.children)) put (Node.listWithin 63 t.children)]
  -- The tree itself and its list take two of the 128 levels.
  have hnodes : ∀ node ∈ t.children, (Node.reader maxDepth).Takes (2 * 63)
      (node.toJson.writtenAs style.inner.inner) (node.within 63) :=
    fun node _ => Node.reader_takes 63 node (by decide) style.inner.inner blanks_nil
  have hgives : ∀ e ∈ entries, e.Gives fields (maxDepth - 1) style.inner :=
    List.forall_mem_singleton.mpr (Reader.Entry.putting_gives rfl fun gap hgap =>
      Node.list_takes_nodes hnodes hgap)
  have hneeded : ∀ field ∈ fields, field.required = true →
      field.name ∈ entries.map Reader.Entry.key :=
    List.forall_mem_singleton.mpr fun _ => List.mem_singleton.mpr rfl
  have hrecord := Reader.record_takes "PatternTree" ⟨[]⟩ entries (by decide) hgives
    (List.nodup_singleton _) hneeded blanks_nil
  have hentries : entries.foldlM Reader.Entry.apply ⟨[]⟩ =
      (Node.listWithin 63 t.children).map SyntaxTree.mk := by
    cases hchildren : Node.listWithin 63 t.children <;>
      simp [entries, Reader.Entry.putting, Reader.Entry.apply, hchildren, Except.map, put]
  rwa [hentries] at hrecord

/-- What is read where a tree has been written: the tree, unless more than 62 of its sets lie in one
another. -/
def reread (t : SyntaxTree) : Except Json.Error SyntaxTree :=
  if Node.listNesting t.children ≤ 62 then .ok t else .error (.malformed .tooDeep)

theorem ofJson_writtenAs (t : SyntaxTree) (style : Style) :
    ofJson (String.ofList (t.toJson.writtenAs style)) = t.reread := by
  rw [ofJson, Reader.run_of_takes (reader_takes t style), Node.listWithin, reread]
  by_cases hnesting : Node.listNesting t.children ≤ 62
  · rw [if_pos (Nat.lt_succ_of_le hnesting), if_pos hnesting]
    rfl
  · rw [if_neg fun h => hnesting (Nat.le_of_lt_succ h), if_neg hnesting]
    rfl

/-- A tree comes back from either of its texts, whatever its literals hold, and is refused as nested
too deep if its sets are. -/
theorem ofJson_written (t : SyntaxTree) :
    ofJson t.toJson.toCompact = t.reread ∧ ofJson t.toJson.toPretty = t.reread :=
  ⟨ofJson_writtenAs t .compact, ofJson_writtenAs t (.pretty 0)⟩

/-- Of 63 sets in one another none comes back. -/
theorem nested_not_readBack :
    ofJson (SyntaxTree.mk [Node.nested 62]).toJson.toCompact = .error (.malformed .tooDeep) := by
  have hnesting : ¬ Node.listNesting [Node.nested 62] ≤ 62 := by
    rw [Node.listNesting, Node.nesting_nested, Node.listNesting]
    decide
  have hread := ofJson_writtenAs ⟨[Node.nested 62]⟩ .compact
  rwa [reread, if_neg hnesting] at hread

end SyntaxTree

end RegexInference
