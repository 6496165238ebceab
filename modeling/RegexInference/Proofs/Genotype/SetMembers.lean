import RegexInference.Proofs.Genotype.Unclosed

/-!
# How the members of a set are read

Each literal, class token and inner set of a set is read as the members of a bracket class, one
behind the other.  An inner set is read as one member, the union of its own.  There is one
exception: letters that spell the name of a class between two colons, and fill an inner set, stand
for this class instead of for themselves.
-/

namespace RegexInference

open Regex
open Unicode (CodeSet)

namespace Node

/-! ## Trees of sets -/

/-- What a set may hold to be read as a bracket class: literals that are not empty, the classes for
digits, blanks and word characters, and sets of these that are not empty. -/
inductive IsMember : Node → Prop where
  | digit : IsMember (.char .digit)
  | space : IsMember (.char .space)
  | word : IsMember (.char .word)
  | literal {text : String} (htext : text ≠ "") : IsMember (.literal text)
  | set {children : List Node} (hchildren : children ≠ [])
      (hmember : ∀ node ∈ children, IsMember node) : IsMember (.set children)

/-- A literal holds the characters of its text, and a class its members. -/
def Holds (c : Char) : Node → Prop
  | literal text => c ∈ text.toList
  | char .digit => Shorthand.digit.unicodeSet.has c = true
  | char .space => Shorthand.space.unicodeSet.has c = true
  | char .word => Shorthand.word.unicodeSet.has c = true
  | _ => False

def literalText? : List Node → Option (List Char)
  | [] => some []
  | .literal text :: rest => (literalText? rest).map (text.toList ++ ·)
  | _ :: _ => none

def betweenColons? : List Char → Option (List Char)
  | ':' :: rest => if rest.getLast? = some ':' then some rest.dropLast else none
  | _ => none

/-- The class that the children of an inner set spell the name of. -/
def namedClass? (children : List Node) : Option CodeSet :=
  ((literalText? children).bind betweenColons?).bind posixClass?

mutual

/-- The character is a member of what the node is read as inside a bracket. -/
def Reads (c : Char) : Node → Prop
  | set children =>
    match namedClass? children with
    | some named => named.has c = true
    | none => ListReads c children
  | node => node.Holds c

def ListReads (c : Char) : List Node → Prop
  | [] => False
  | node :: rest => node.Reads c ∨ ListReads c rest

end

theorem listReads_iff {c : Char} {nodes : List Node} :
    ListReads c nodes ↔ ∃ node ∈ nodes, node.Reads c := by
  induction nodes with
  | nil => simp [ListReads]
  | cons node rest ih => simp [ListReads, ih]

/-! ## Named classes -/

theorem betweenColons?_eq_some_iff {cs name : List Char} :
    betweenColons? cs = some name ↔ cs = ':' :: (name ++ [':']) := by
  constructor
  · intro h
    unfold betweenColons? at h
    split at h
    · next rest =>
      split_ifs at h with hlast
      cases h
      rw [List.dropLast_append_getLast? _ hlast]
    · cases h
  · rintro rfl
    simp [betweenColons?]

theorem namedClass?_eq_some_iff {children : List Node} {named : CodeSet} :
    namedClass? children = some named ↔
      ∃ name, literalText? children = some (':' :: (name ++ [':'])) ∧
        posixClass? name = some named := by
  unfold namedClass?
  simp only [Option.bind_eq_some_iff, betweenColons?_eq_some_iff]
  constructor
  · rintro ⟨name, ⟨text, htext, rfl⟩, hname⟩
    exact ⟨name, htext, hname⟩
  · rintro ⟨name, htext, hname⟩
    exact ⟨name, ⟨_, htext, rfl⟩, hname⟩

end Node

/-! ## Names among glyphs -/

namespace Glyph

theorem splitName_eq (gs : List Glyph) : letters (splitName gs).1 ++ (splitName gs).2 = gs := by
  fun_induction splitName gs with
  | case1 gs => rfl
  | case2 c gs hc ih => exact congrArg (.sign (.letter c) :: ·) ih
  | case3 gs hletter => rfl

theorem splitName_letters {name : List Char} (hname : ':' ∉ name) (gs : List Glyph) :
    splitName (letters name ++ .sign (.letter ':') :: gs) = (name, .sign (.letter ':') :: gs) := by
  induction name with
  | nil => rfl
  | cons c name ih =>
      obtain ⟨hc, hrest⟩ := not_or.mp (mt List.mem_cons.mpr hname)
      have hstep : splitName (letters (c :: name) ++ .sign (.letter ':') :: gs) =
          if c = ':' then ([], .sign (.letter c) :: (letters name ++ .sign (.letter ':') :: gs))
          else (c :: (splitName (letters name ++ .sign (.letter ':') :: gs)).1,
            (splitName (letters name ++ .sign (.letter ':') :: gs)).2) := rfl
      rw [hstep, if_neg (Ne.symm hc), ih hrest]

theorem colon_notMem_of_posixClass? {name : List Char} {named : CodeSet}
    (h : posixClass? name = some named) : ':' ∉ name := by
  intro hmem
  have hlower := isLower_of_posixClass? h ':' hmem
  cases hlower

theorem named?_eq_some_iff {gs left : List Glyph} {named : CodeSet} :
    named? gs = some (named, left) ↔
      ∃ name, gs = letters (':' :: (name ++ [':'])) ++ .closing :: left ∧
        posixClass? name = some named := by
  constructor
  · intro h
    unfold named? at h
    split at h
    · next gs =>
      split at h
      · next name behind hsplit =>
        obtain ⟨found, hname, heq⟩ := Option.map_eq_some_iff.mp h
        cases heq
        have hgs := splitName_eq gs
        rw [hsplit] at hgs
        refine ⟨name, ?_, hname⟩
        rw [← hgs]
        simp [letters]
      · cases h
    · cases h
  · rintro ⟨name, rfl, hname⟩
    have hsplit := splitName_letters (colon_notMem_of_posixClass? hname) (.closing :: left)
    have hglyphs : letters (':' :: (name ++ [':'])) ++ .closing :: left =
        .sign (.letter ':') :: (letters name ++ .sign (.letter ':') :: .closing :: left) := by
      simp [letters]
    rw [hglyphs, named?, hsplit]
    exact congrArg (Option.map (·, left)) hname

theorem exists_of_letters_append {as cs : List Char} {gs left : List Glyph}
    (h : letters as ++ gs = letters cs ++ .closing :: left) :
    ∃ more, cs = as ++ more ∧ gs = letters more ++ .closing :: left := by
  induction as generalizing cs with
  | nil => exact ⟨cs, rfl, h⟩
  | cons a as ih =>
      cases cs with
      | nil => cases h
      | cons c cs =>
          obtain ⟨hhead, htail⟩ := List.cons.inj h
          cases hhead
          obtain ⟨more, rfl, hgs⟩ := ih htail
          exact ⟨more, rfl, hgs⟩

end Glyph

namespace Node

open Glyph (letters)

/-- Only literals are written as letters up to the next closing bracket. -/
theorem literalText?_of_listGlyphs {nodes : List Node} {cs : List Char} {gs left : List Glyph}
    (h : listGlyphs nodes ++ .closing :: gs = letters cs ++ .closing :: left) :
    literalText? nodes = some cs ∧ gs = left := by
  induction nodes generalizing cs with
  | nil =>
      cases cs with
      | nil =>
          cases h
          exact ⟨rfl, rfl⟩
      | cons c cs => cases h
  | cons node rest ih =>
      cases node with
      | literal text =>
          rw [listGlyphs, List.append_assoc] at h
          obtain ⟨more, rfl, hrest⟩ := Glyph.exists_of_letters_append h
          obtain ⟨hmore, hgs⟩ := ih hrest
          rw [literalText?, hmore]
          exact ⟨rfl, hgs⟩
      | char | quantifier | set => cases cs <;> cases h

theorem listGlyphs_of_literalText? {nodes : List Node} {cs : List Char}
    (h : literalText? nodes = some cs) : listGlyphs nodes = letters cs := by
  induction nodes generalizing cs with
  | nil =>
      cases h
      rfl
  | cons node rest ih =>
      cases node with
      | literal text =>
          obtain ⟨more, hmore, rfl⟩ := Option.map_eq_some_iff.mp h
          rw [listGlyphs, ih hmore, glyphs, letters, letters, letters, List.map_append]
      | char | quantifier | set => cases h

theorem named?_listGlyphs (children : List Node) (gs : List Glyph) :
    Glyph.named? (listGlyphs children ++ .closing :: gs) = (namedClass? children).map (·, gs) := by
  ext ⟨named, left⟩
  simp only [Glyph.named?_eq_some_iff, Option.map_eq_some_iff,
    namedClass?_eq_some_iff, Prod.mk.injEq]
  constructor
  · rintro ⟨name, hglyphs, hname⟩
    obtain ⟨htext, rfl⟩ := literalText?_of_listGlyphs hglyphs
    exact ⟨named, ⟨name, htext, hname⟩, rfl, rfl⟩
  · rintro ⟨named, ⟨name, htext, hname⟩, rfl, rfl⟩
    exact ⟨name, by rw [listGlyphs_of_literalText? htext], hname⟩

/-! ## Parts -/

/-- The part that a bracket with these members is closed as. -/
def bracketPart (parts : List ClassPart) : ClassPart :=
  let content := ({ negated := false, members := parts.reverse } : ClassFrame).union
  ⟨content.set, content.depth + 1⟩

mutual

/-- The members that a node contributes to the bracket around it. -/
def parts : Node → List ClassPart
  | char c => (Sign.token c).set?.toList.map (⟨·, 0⟩)
  | literal text => text.toList.map fun c => ⟨CodeSet.ofChar c, 0⟩
  | quantifier q => (Sign.quantifier q).set?.toList.map (⟨·, 0⟩)
  | set children =>
    match namedClass? children with
    | some named => [⟨named, 0⟩]
    | none => [bracketPart (listParts children)]

def listParts : List Node → List ClassPart
  | [] => []
  | node :: rest => node.parts ++ listParts rest

end

theorem mem_listParts {part : ClassPart} {nodes : List Node} :
    part ∈ listParts nodes ↔ ∃ node ∈ nodes, part ∈ node.parts := by
  induction nodes with
  | nil => simp [listParts]
  | cons node rest ih => simp [listParts, ih]

theorem has_union (frame : ClassFrame) (c : Char) :
    frame.union.set.has c = true ↔ ∃ part ∈ frame.members, part.set.has c = true := by
  unfold ClassFrame.union
  split
  · next hmembers => simp [hmembers, CodeSet.has, CodeSet.contains_empty]
  · next part hmembers => simp [hmembers]
  · simp [CodeSet.has, CodeSet.contains_unionAll]

theorem has_bracketPart (parts : List ClassPart) (c : Char) :
    (bracketPart parts).set.has c = true ↔ ∃ part ∈ parts, part.set.has c = true := by
  unfold bracketPart
  simp [has_union]

theorem has_bracketPart_listParts {nodes : List Node} {c : Char}
    (h : ∀ node ∈ nodes, (∃ part ∈ node.parts, part.set.has c = true) ↔ node.Reads c) :
    (bracketPart (listParts nodes)).set.has c = true ↔ ListReads c nodes := by
  simp only [has_bracketPart, mem_listParts, listReads_iff]
  constructor
  · rintro ⟨part, ⟨node, hnode, hpart⟩, hc⟩
    exact ⟨node, hnode, (h node hnode).mp ⟨part, hpart, hc⟩⟩
  · rintro ⟨node, hnode, hreads⟩
    obtain ⟨part, hpart, hc⟩ := (h node hnode).mpr hreads
    exact ⟨part, ⟨node, hnode, hpart⟩, hc⟩

theorem IsMember.has_parts {node : Node} (h : node.IsMember) (c : Char) :
    (∃ part ∈ node.parts, part.set.has c = true) ↔ node.Reads c := by
  induction h with
  | digit => simp [parts, Sign.set?, Sign.escape, Reads, Holds]
  | space => simp [parts, Sign.set?, Sign.escape, Reads, Holds]
  | word => simp [parts, Sign.set?, Sign.escape, Reads, Holds]
  | literal htext => simp [parts, Reads, Holds, CodeSet.has_ofChar]
  | set hchildren hmember ih =>
      rw [parts, Reads]
      split
      · simp
      · simp only [List.mem_singleton, exists_eq_left]
        exact has_bracketPart_listParts ih

end Node

/-! ## Reading parts -/

namespace Glyph

/-- A bracket takes these glyphs as these members, in no more steps than there are glyphs. -/
def ReadsAs (gs : List Glyph) (parts : List ClassPart) : Prop :=
  ∃ k ≤ gs.length, ∀ fuel frame outer rest,
    readClass (fuel + k) frame outer (gs ++ rest) =
      readClass fuel (parts.foldl ClassFrame.push frame) outer rest

theorem ReadsAs.append {gs hs : List Glyph} {parts parts' : List ClassPart}
    (hgs : ReadsAs gs parts) (hhs : ReadsAs hs parts') : ReadsAs (gs ++ hs) (parts ++ parts') := by
  obtain ⟨k, hk, hread⟩ := hgs
  obtain ⟨k', hk', hread'⟩ := hhs
  refine ⟨k' + k, ?_, fun fuel frame outer rest => ?_⟩
  · rw [List.length_append]
    omega
  · rw [← Nat.add_assoc, List.append_assoc, hread, hread', List.foldl_append]

theorem readsAs_nil : ReadsAs [] [] := ⟨0, Nat.le_refl 0, fun _ _ _ _ => rfl⟩

theorem readsAs_sign {s : Sign} {set : CodeSet} (hset : s.set? = some set) :
    ReadsAs [.sign s] [⟨set, 0⟩] := by
  refine ⟨1, Nat.le_refl 1, fun fuel frame outer rest => ?_⟩
  change readClass (fuel + 1) frame outer (.sign s :: rest) = _
  rw [readClass, hset]
  rfl

theorem readsAs_letters (cs : List Char) :
    ReadsAs (letters cs) (cs.map fun c => ⟨CodeSet.ofChar c, 0⟩) := by
  induction cs with
  | nil => exact readsAs_nil
  | cons c cs ih => exact (readsAs_sign (s := .letter c) rfl).append ih

/-- A bracket that was opened for these members is closed as their union. -/
theorem close?_foldl_push (parts : List ClassPart) :
    (parts.foldl ClassFrame.push { negated := false }).close? {} = some (Node.bracketPart parts) := by
  have hpush : ∀ (frame : ClassFrame), parts.foldl ClassFrame.push frame =
      { frame with members := parts.reverse ++ frame.members } := by
    induction parts with
    | nil => intro frame; rfl
    | cons part parts ih =>
        intro frame
        rw [List.foldl_cons, ih]
        simp [ClassFrame.push]
  rw [hpush, List.append_nil]
  rfl

end Glyph

namespace Node

open Glyph (ReadsAs)

theorem readsAs_listGlyphs {nodes : List Node}
    (h : ∀ node ∈ nodes, ReadsAs node.glyphs node.parts) :
    ReadsAs (listGlyphs nodes) (listParts nodes) := by
  induction nodes with
  | nil => exact Glyph.readsAs_nil
  | cons node rest ih =>
      have hrest := ih fun other hother => h other (List.mem_cons_of_mem _ hother)
      exact (h node List.mem_cons_self).append hrest

theorem IsMember.glyphs_ne_nil {node : Node} (h : node.IsMember) : node.glyphs ≠ [] := by
  cases h with
  | digit | space | word | set => simp [glyphs]
  | literal htext => simpa [glyphs, Glyph.letters] using htext

theorem listGlyphs_ne_nil {children : List Node} (hchildren : children ≠ [])
    (hmember : ∀ node ∈ children, node.IsMember) : listGlyphs children ≠ [] := by
  obtain ⟨node, rest, rfl⟩ := List.exists_cons_of_ne_nil hchildren
  rw [listGlyphs]
  exact List.append_ne_nil_of_left_ne_nil (hmember node List.mem_cons_self).glyphs_ne_nil _

theorem IsMember.readsAs {node : Node} (h : node.IsMember) : ReadsAs node.glyphs node.parts := by
  induction h with
  | digit => exact Glyph.readsAs_sign rfl
  | space => exact Glyph.readsAs_sign rfl
  | word => exact Glyph.readsAs_sign rfl
  | literal htext => exact Glyph.readsAs_letters _
  | @set children hchildren hmember ih =>
      have hwritten := listGlyphs_ne_nil hchildren hmember
      obtain ⟨k, hk, hread⟩ := readsAs_listGlyphs ih
      have hlength : (glyphs (.set children)).length = (listGlyphs children).length + 2 := by
        simp [glyphs]
      have hglyphs : ∀ rest, glyphs (.set children) ++ rest =
          .opening :: (listGlyphs children ++ .closing :: rest) := by
        simp [glyphs]
      rw [parts]
      cases hnamed : namedClass? children with
      | some named =>
          refine ⟨1, by omega, fun fuel frame outer rest => ?_⟩
          rw [hglyphs, Glyph.readClass, named?_listGlyphs, hnamed]
          rfl
      | none =>
          refine ⟨k + 2, by omega, fun fuel frame outer rest => ?_⟩
          have hopen : Glyph.readClass (fuel + (k + 2)) frame outer (glyphs (.set children) ++ rest) =
              Glyph.readClass (fuel + 1 + k) { negated := false } (frame :: outer)
                (listGlyphs children ++ .closing :: rest) := by
            rw [hglyphs, show fuel + (k + 2) = fuel + 1 + k + 1 by omega, Glyph.readClass,
              named?_listGlyphs, hnamed, enter_listGlyphs hwritten]
            rfl
          rw [hopen, hread, Glyph.readClass, Glyph.close?_foldl_push]
          rfl

end Node

end RegexInference
