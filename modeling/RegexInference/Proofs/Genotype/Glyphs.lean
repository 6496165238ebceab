import RegexInference.Genotype.SyntaxTree
import RegexInference.Proofs.Regex.Literal

/-!
# How the text of a tree is read

The text of a tree is a sequence of glyphs: brackets, letters, class tokens and quantifiers.  Since
letters are escaped where necessary, a reader that is past one glyph always faces the next one, and
no glyph begins like a range, a negation or a set operator.  So a bracket class is read glyph by
glyph.  Two things are read otherwise than the tree has them: a closing bracket right behind an
opening one is a character, and letters between colons that fill a set may name a class.
-/

namespace RegexInference

open Regex
open Unicode (CodeSet)

/-- What is read as one member of a bracket class. -/
inductive Sign where
  | letter (c : Char)
  | token (c : ClassToken)
  | quantifier (q : Quantifier)
  deriving DecidableEq

/-- A piece of the text of a tree. -/
inductive Glyph where
  | opening
  | closing
  | sign (s : Sign)
  deriving DecidableEq

/-! ## Writing -/

namespace Sign

def chars : Sign → List Char
  | letter c => escapeChar c
  | token c => c.toPattern.toList
  | quantifier q => q.toPattern.toList

/-- What a sign is read as inside a bracket; the dot and the quantifiers are characters there. -/
def escape : Sign → Escape
  | letter c => .literal ⟨c, false⟩
  | token .any => .literal ⟨'.', false⟩
  | token .boundary => .look (.word .boundary false)
  | token .digit => .set Shorthand.digit.unicodeSet
  | token .space => .set Shorthand.space.unicodeSet
  | token .word => .set Shorthand.word.unicodeSet
  | quantifier .oneOrMore => .literal ⟨'+', false⟩
  | quantifier .zeroOrMore => .literal ⟨'*', false⟩

/-- The set that a sign contributes to a bracket, in which a word boundary has no place. -/
def set? (s : Sign) : Option CodeSet :=
  match s.escape with
  | .literal l => some (CodeSet.ofChar l.char)
  | .set t => some t
  | .look _ => none

end Sign

namespace Glyph

def chars : Glyph → List Char
  | opening => ['[']
  | closing => [']']
  | sign s => s.chars

def letters (cs : List Char) : List Glyph := cs.map fun c => .sign (.letter c)

def written (gs : List Glyph) : List Char := gs.flatMap chars

@[simp] theorem written_nil : written [] = [] := rfl

@[simp] theorem written_cons (g : Glyph) (gs : List Glyph) :
    written (g :: gs) = g.chars ++ written gs := rfl

@[simp] theorem written_append (gs hs : List Glyph) :
    written (gs ++ hs) = written gs ++ written hs := List.flatMap_append

end Glyph

namespace Node

mutual

def glyphs : Node → List Glyph
  | char c => [.sign (.token c)]
  | literal text => Glyph.letters text.toList
  | quantifier q => [.sign (.quantifier q)]
  | set children => .opening :: (listGlyphs children ++ [.closing])

def listGlyphs : List Node → List Glyph
  | [] => []
  | node :: rest => node.glyphs ++ listGlyphs rest

end

mutual

theorem toList_toPattern (node : Node) : node.toPattern.toList = Glyph.written node.glyphs := by
  cases node with
  | char c => simp [toPattern, glyphs, Glyph.chars, Sign.chars]
  | literal text =>
      rw [toPattern, Regex.escaped, String.toList_ofList, glyphs, Glyph.letters, Glyph.written,
        List.flatMap_map]
      rfl
  | quantifier q => simp [toPattern, glyphs, Glyph.chars, Sign.chars]
  | set children => simp [toPattern, glyphs, toList_listToPattern children, Glyph.chars]

theorem toList_listToPattern (nodes : List Node) :
    (listToPattern nodes).toList = Glyph.written (listGlyphs nodes) := by
  cases nodes with
  | nil => rfl
  | cons node rest =>
      simp [listToPattern, listGlyphs, toList_toPattern node, toList_listToPattern rest]

end

end Node

/-! ## What a reader faces -/

namespace Glyph

/-- Characters that mean something at the front of a text and that no glyph begins with. -/
def marks : List Char := ['-', '^', '&', '~', '?', '\x7b']

/-- The text does not begin with such a character. -/
def Unmarked (cs : List Char) : Prop := ∀ c ∈ cs.head?, c ∉ marks

/-- What may stand behind the glyphs of a pattern: nothing, or what closes it between anchors. -/
def Behind (tail : List Char) : Prop := tail = [] ∨ tail = Regex.closing

theorem isMeta_of_mem_marks : ∀ c ∈ marks, isMeta c = true :=
  List.all_eq_true.mp (by decide)

theorem exists_escapeChar_eq_cons (c : Char) : ∃ d rest, escapeChar c = d :: rest ∧ d ∉ marks ∧
    d ≠ '[' ∧ d ≠ ']' := by
  unfold escapeChar
  split_ifs with hmeta
  · exact ⟨'\\', [c], rfl, by decide, by decide, by decide⟩
  · have hnot : ∀ d, isMeta d = true → c ≠ d := by
      rintro d hd rfl
      exact hmeta hd
    exact ⟨c, [], rfl, fun hmem => hmeta (isMeta_of_mem_marks c hmem), hnot _ (by decide),
      hnot _ (by decide)⟩

theorem exists_chars_eq_cons (s : Sign) : ∃ d rest, s.chars = d :: rest ∧ d ∉ marks ∧
    d ≠ '[' ∧ d ≠ ']' := by
  cases s with
  | letter c => exact exists_escapeChar_eq_cons c
  | token c => cases c <;> exact ⟨_, _, rfl, by decide, by decide, by decide⟩
  | quantifier q => cases q <;> exact ⟨_, _, rfl, by decide, by decide, by decide⟩

theorem unmarked_of_behind {tail : List Char} (h : Behind tail) : Unmarked tail := by
  rcases h with rfl | rfl
  · simp [Unmarked]
  · simp [Unmarked, Regex.closing, marks]

theorem unmarked_written (gs : List Glyph) {tail : List Char} (h : Behind tail) :
    Unmarked (written gs ++ tail) := by
  cases gs with
  | nil => exact unmarked_of_behind h
  | cons g gs =>
      cases g with
      | opening => simp [Unmarked, chars, marks]
      | closing => simp [Unmarked, chars, marks]
      | sign s =>
          obtain ⟨d, rest, hchars, hd, -⟩ := exists_chars_eq_cons s
          simpa [Unmarked, chars, hchars] using hd

theorem Unmarked.ne {c : Char} {cs : List Char} (h : Unmarked (c :: cs)) {mark : Char}
    (hmark : mark ∈ marks) : c ≠ mark := by
  rintro rfl
  exact h c rfl hmark

end Glyph

/-! ## Signs in a bracket -/

open Glyph (Unmarked)

theorem readBoundary_unmarked {rest : List Char} (h : Unmarked rest) :
    readBoundary {} rest = some (.boundary, rest) := by
  unfold readBoundary
  split
  · exact absurd rfl (h.ne (by decide))
  · rfl

theorem readEscape_boundary {rest : List Char} (h : Unmarked rest) :
    readEscape {} ('b' :: rest) = some (.look (.word .boundary false), rest) := by
  change Option.map _ (readBoundary {} rest) = _
  rw [readBoundary_unmarked h]
  rfl

theorem readMember_sign (s : Sign) {rest : List Char} (h : Unmarked rest) :
    readMember {} (s.chars ++ rest) = some (s.escape, rest) := by
  cases s with
  | letter c =>
      by_cases hmeta : isMeta c = true
      · simp only [Sign.chars, escapeChar, hmeta, if_true, List.cons_append, List.nil_append,
          readMember, readEscape_meta hmeta, Sign.escape]
      · have hplain : readMember {} (c :: rest) = some (.literal ⟨c, false⟩, rest) := by
          unfold readMember
          split
          · next heq => cases heq
          · next heq =>
            cases heq
            exact absurd (by decide) hmeta
          · next heq =>
            cases heq
            rfl
        simpa [Sign.chars, escapeChar, hmeta, Sign.escape] using hplain
  | token c =>
      cases c with
      | boundary => exact readEscape_boundary h
      | any => rfl
      | digit => rfl
      | space => rfl
      | word => rfl
  | quantifier q => cases q <;> rfl

/-- A sign is one member, as soon as anything stands behind it. -/
theorem readItem_sign (s : Sign) {c : Char} {rest : List Char} (h : Unmarked (c :: rest)) :
    readItem {} (s.chars ++ c :: rest) = s.set?.map fun set => (⟨set, 0⟩, c :: rest) := by
  have hhyphen : c ≠ '-' := h.ne (by decide)
  unfold readItem Sign.set?
  rw [readMember_sign s h]
  cases s.escape <;> simp [visible, hhyphen, Literal.member?]

theorem readItem_sign_nil (s : Sign) : readItem {} s.chars = none := by
  have hread : readMember {} (s.chars ++ []) = some (s.escape, []) :=
    readMember_sign s (by simp [Unmarked])
  rw [List.append_nil] at hread
  unfold readItem
  rw [hread]
  rfl

theorem readMembers_item (fuel : ℕ) (frame : ClassFrame) (outer : List ClassFrame) {c : Char}
    (hmark : c ∉ Glyph.marks) (hopening : c ≠ '[') (hclosing : c ≠ ']') (rest : List Char) :
    readMembers {} (fuel + 1) frame outer (c :: rest) =
      (readItem {} (c :: rest)).bind fun (part, left) =>
        readMembers {} fuel (frame.push part) outer left := by
  have hne : ∀ {mark}, mark ∈ Glyph.marks → c ≠ mark := by
    rintro mark hmem rfl
    exact hmark hmem
  rw [readMembers]
  split
  · next heq => cases heq
  · next heq => exact absurd (List.cons.inj heq).1 hopening
  · next heq => exact absurd (List.cons.inj heq).1 hclosing
  · next heq => exact absurd (List.cons.inj heq).1 (hne (by decide))
  · next heq => exact absurd (List.cons.inj heq).1 (hne (by decide))
  · next heq => exact absurd (List.cons.inj heq).1 (hne (by decide))
  · next heq =>
    obtain ⟨rfl, rfl⟩ : c = _ ∧ rest = _ := List.cons.inj heq
    cases readItem {} (c :: rest) with
    | none => rfl
    | some item => rfl

theorem readMembers_sign (s : Sign) (fuel : ℕ) (frame : ClassFrame) (outer : List ClassFrame)
    {rest : List Char} (h : Unmarked rest) :
    readMembers {} (fuel + 1) frame outer (s.chars ++ rest) =
      s.set?.bind fun set => readMembers {} fuel (frame.push ⟨set, 0⟩) outer rest := by
  obtain ⟨d, more, hchars, hmark, hopening, hclosing⟩ := Glyph.exists_chars_eq_cons s
  have hitem : readItem {} (d :: (more ++ rest)) =
      if rest = [] then none else s.set?.map fun set => (⟨set, 0⟩, rest) := by
    rw [← List.cons_append, ← hchars]
    cases rest with
    | nil => rw [List.append_nil, readItem_sign_nil, if_pos rfl]
    | cons c rest => rw [readItem_sign s h, if_neg (List.cons_ne_nil c rest)]
  rw [hchars, List.cons_append, readMembers_item fuel frame outer hmark hopening hclosing, hitem]
  split_ifs with hnil
  · subst hnil
    simp [readMembers_nil]
  · cases s.set? with
    | none => rfl
    | some set => rfl

/-! ## Named classes -/

/-- The letters in front of the first colon, and what stands behind them. -/
def Glyph.splitName : List Glyph → List Char × List Glyph
  | .sign (.letter c) :: gs =>
    if c = ':' then ([], .sign (.letter c) :: gs)
    else ((c :: (splitName gs).1), (splitName gs).2)
  | gs => ([], gs)

/-- The class that glyphs behind an opening bracket name, with the glyphs behind its bracket: letters
between two colons, and the closing bracket at once. -/
def Glyph.named? : List Glyph → Option (CodeSet × List Glyph)
  | .sign (.letter ':') :: gs =>
    match splitName gs with
    | (name, .sign (.letter ':') :: .closing :: left) => (posixClass? name).map (·, left)
    | _ => none
  | _ => none

theorem isLower_of_posixClass? {name : List Char} {set : CodeSet} (h : posixClass? name = some set) :
    ∀ c ∈ name, c.isLower = true := by
  have hname : (String.ofList name).toList = name := String.toList_ofList
  unfold posixClass? at h
  split at h
  all_goals first
    | (next heq =>
        rw [heq] at hname
        rw [← hname]
        exact List.all_eq_true.mp (by decide))
    | cases h

theorem posixClass?_eq_none {name : List Char} {c : Char} (hmem : c ∈ name)
    (hlower : c.isLower = false) : posixClass? name = none := by
  cases hclass : posixClass? name with
  | none => rfl
  | some set =>
      have hall := isLower_of_posixClass? hclass c hmem
      rw [hlower] at hall
      cases hall

theorem isLower_eq_false_of_isMeta {c : Char} (hmeta : isMeta c = true) : c.isLower = false := by
  have hpunctuation : ("\\.+*?()|[]\x7b\x7d^$#&-~".toList.all fun c => !c.isLower) = true := by
    decide
  simpa using List.all_eq_true.mp hpunctuation c (List.contains_iff_mem.mp hmeta)

/-- Letters that had to be escaped are in no name, so escaping makes no difference to names. -/
theorem posixClass?_escaped (name : List Char) :
    posixClass? (name.flatMap escapeChar) = posixClass? name := by
  by_cases hplain : ∃ c ∈ name, isMeta c = true
  · obtain ⟨c, hmem, hmeta⟩ := hplain
    have hlower := isLower_eq_false_of_isMeta hmeta
    have hescaped : c ∈ name.flatMap escapeChar :=
      List.mem_flatMap.mpr ⟨c, hmem, by simp [escapeChar, hmeta]⟩
    rw [posixClass?_eq_none hmem hlower, posixClass?_eq_none hescaped hlower]
  · have hself : ∀ c ∈ name, escapeChar c = [c] := by
      intro c hmem
      rw [escapeChar, if_neg fun hmeta => hplain ⟨c, hmem, hmeta⟩]
    rw [List.flatMap_congr hself]
    simp

namespace Glyph

/-- What stands behind the letters of a name: nothing, a colon, or a glyph that is in no name. -/
theorem splitName_behind (gs : List Glyph) :
    (splitName gs).2 = [] ∨ (∃ left, (splitName gs).2 = .sign (.letter ':') :: left) ∨
      ∃ g left d rest, (splitName gs).2 = g :: left ∧ g.chars = d :: rest ∧ d ≠ ':' ∧
        d.isLower = false := by
  fun_induction splitName gs with
  | case1 gs => exact Or.inr (Or.inl ⟨gs, rfl⟩)
  | case2 c gs hc ih => exact ih
  | case3 gs hletter =>
      cases gs with
      | nil => exact Or.inl rfl
      | cons g gs =>
          refine Or.inr (Or.inr ⟨g, gs, ?_⟩)
          cases g with
          | opening => exact ⟨_, _, rfl, rfl, by decide, by decide⟩
          | closing => exact ⟨_, _, rfl, rfl, by decide, by decide⟩
          | sign s =>
              cases s with
              | letter c => exact (hletter c gs rfl).elim
              | token c => cases c <;> exact ⟨_, _, rfl, rfl, by decide, by decide⟩
              | quantifier q => cases q <;> exact ⟨_, _, rfl, rfl, by decide, by decide⟩

theorem ne_colon_of_mem_escapeChar {c : Char} (hc : c ≠ ':') :
    ∀ d ∈ escapeChar c, (d != ':') = true := by
  unfold escapeChar
  split_ifs <;> simp [hc]

theorem takeWhile_written (gs : List Glyph) (tail : List Char) :
    (written gs ++ tail).takeWhile (· != ':') = (splitName gs).1.flatMap escapeChar ++
      (written (splitName gs).2 ++ tail).takeWhile (· != ':') := by
  fun_induction splitName gs with
  | case1 gs => rfl
  | case2 c gs hc ih =>
      rw [written_cons, List.append_assoc, chars, Sign.chars,
        List.takeWhile_append_of_pos (ne_colon_of_mem_escapeChar hc), ih, List.flatMap_cons,
        List.append_assoc]
  | case3 gs hletter => rfl

theorem dropWhile_written (gs : List Glyph) (tail : List Char) :
    (written gs ++ tail).dropWhile (· != ':') =
      (written (splitName gs).2 ++ tail).dropWhile (· != ':') := by
  fun_induction splitName gs with
  | case1 gs => rfl
  | case2 c gs hc ih =>
      rw [written_cons, List.append_assoc, chars, Sign.chars,
        List.dropWhile_append_of_pos (ne_colon_of_mem_escapeChar hc), ih]
  | case3 gs hletter => rfl

theorem written_eq_closing_cons {gs : List Glyph} {tail more : List Char} (htail : Behind tail)
    (h : written gs ++ tail = ']' :: more) : ∃ left, gs = .closing :: left := by
  cases gs with
  | nil => rcases htail with rfl | rfl <;> cases h
  | cons g gs =>
      cases g with
      | opening => cases h
      | closing => exact ⟨gs, rfl⟩
      | sign s =>
          obtain ⟨d, rest, hchars, -, -, hclosing⟩ := exists_chars_eq_cons s
          rw [written_cons, chars, hchars] at h
          exact absurd (List.cons.inj h).1 hclosing

end Glyph

theorem readPosix?_colon {rest : List Char} (h : Unmarked rest) :
    readPosix? {} (':' :: rest) =
      match rest.dropWhile (· != ':') with
      | ':' :: ']' :: left =>
        (posixClass? (rest.takeWhile (· != ':'))).map fun set => (some ⟨set, 0⟩, left)
      | _ => none := by
  have hcaret : splitCaret rest = (false, rest) := by
    unfold splitCaret
    split
    · exact absurd rfl (h.ne (by decide))
    · rfl
  unfold readPosix?
  simp only [hcaret, List.span_eq_takeWhile_dropWhile]
  split
  · next heq =>
    obtain ⟨hname, hleft⟩ := Prod.mk.inj heq
    rw [hleft, hname]
    rfl
  · next hnone =>
    split
    · next left hleft => exact (hnone _ left (Prod.ext rfl hleft)).elim
    · rfl

theorem readPosix?_written_colon (gs : List Glyph) {tail : List Char} (htail : Glyph.Behind tail) :
    readPosix? {} (':' :: (Glyph.written gs ++ tail)) =
      (Glyph.named? (.sign (.letter ':') :: gs)).map fun (set, left) =>
        (some ⟨set, 0⟩, Glyph.written left ++ tail) := by
  rw [readPosix?_colon (Glyph.unmarked_written gs htail), Glyph.takeWhile_written,
    Glyph.dropWhile_written, Glyph.named?]
  have hbehind := Glyph.splitName_behind gs
  cases hsplit : Glyph.splitName gs with
  | mk name left =>
      rw [hsplit] at hbehind
      dsimp only at hbehind ⊢
      rcases hbehind with rfl | ⟨more, rfl⟩ | ⟨g, more, d, rest, rfl, hchars, hd, hlower⟩
      · rcases htail with rfl | rfl <;> rfl
      · have hcolon : Glyph.written (.sign (.letter ':') :: more) = ':' :: Glyph.written more := rfl
        rw [hcolon, List.cons_append, List.takeWhile_cons_of_neg (by decide),
          List.dropWhile_cons_of_neg (by decide), List.append_nil, posixClass?_escaped]
        by_cases hclosing : ∃ left, more = .closing :: left
        · obtain ⟨left, rfl⟩ := hclosing
          simp [Glyph.chars, Function.comp_def]
        · split
          · next heq =>
            obtain ⟨left, rfl⟩ := Glyph.written_eq_closing_cons htail (List.cons.inj heq).2
            exact (hclosing ⟨left, rfl⟩).elim
          · split
            · next heq => exact (hclosing ⟨_, (List.cons.inj (Prod.mk.inj heq).2).2⟩).elim
            · rfl
      · -- The glyph belongs to the text in front of the colon, which is no name then.
        have hnone : posixClass? (name.flatMap escapeChar ++
            (Glyph.written (g :: more) ++ tail).takeWhile (· != ':')) = none := by
          refine posixClass?_eq_none (c := d) ?_ hlower
          simp [hchars, hd]
        rw [hnone]
        trans none
        · split <;> rfl
        · split
          · next heq =>
            obtain ⟨rfl, -⟩ := List.cons.inj (Prod.mk.inj heq).2
            exact absurd (List.cons.inj hchars).1.symm hd
          · rfl

theorem readPosix?_eq_none {c : Char} (hc : c ≠ ':') (rest : List Char) :
    readPosix? {} (c :: rest) = none := by
  unfold readPosix?
  split
  · next heq => exact absurd (List.cons.inj heq).1 hc
  · rfl

theorem Glyph.named?_eq_none {c : Char} (hc : c ≠ ':') (gs : List Glyph) :
    Glyph.named? (.sign (.letter c) :: gs) = none := by
  unfold Glyph.named?
  split
  · next heq =>
    cases heq
    exact absurd rfl hc
  · rfl

/-- The characters name a class if the glyphs do. -/
theorem readPosix?_written (gs : List Glyph) {tail : List Char} (htail : Glyph.Behind tail) :
    readPosix? {} (Glyph.written gs ++ tail) =
      (Glyph.named? gs).map fun (set, left) => (some ⟨set, 0⟩, Glyph.written left ++ tail) := by
  cases gs with
  | nil => rcases htail with rfl | rfl <;> rfl
  | cons g gs =>
      cases g with
      | opening => rfl
      | closing => rfl
      | sign s =>
          cases s with
          | token c => cases c <;> rfl
          | quantifier q => cases q <;> rfl
          | letter c =>
              by_cases hcolon : c = ':'
              · subst hcolon
                exact readPosix?_written_colon gs htail
              · obtain ⟨d, rest, hchars, -⟩ := Glyph.exists_escapeChar_eq_cons c
                have hd : d ≠ ':' := by
                  simpa using Glyph.ne_colon_of_mem_escapeChar hcolon d (by simp [hchars])
                rw [Glyph.named?_eq_none hcolon, Glyph.written_cons, Glyph.chars, Sign.chars, hchars,
                  List.append_assoc]
                exact readPosix?_eq_none hd _

/-! ## Brackets -/

namespace Glyph

/-- Enters a bracket: its frame, and the glyphs to be read in it.  A closing bracket at the front is
a member. -/
def enter : List Glyph → ClassFrame × List Glyph
  | .closing :: gs => ({ negated := false, members := [⟨CodeSet.ofChar ']', 0⟩] }, gs)
  | gs => ({ negated := false }, gs)

/-- Reads glyphs up to the bracket that closes the outermost open one. -/
def readClass :
    (fuel : ℕ) → ClassFrame → List ClassFrame → List Glyph → Option (ClassPart × List Glyph)
  | 0, _, _, _ => none
  | _ + 1, _, _, [] => none
  | fuel + 1, frame, outer, .opening :: gs =>
    match named? gs with
    | some (set, left) => readClass fuel (frame.push ⟨set, 0⟩) outer left
    | none => readClass fuel (enter gs).1 (frame :: outer) (enter gs).2
  | fuel + 1, frame, outer, .closing :: gs =>
    (frame.close? {}).bind fun part =>
      match outer with
      | [] => some (part, gs)
      | parent :: others => readClass fuel (parent.push part) others gs
  | fuel + 1, frame, outer, .sign s :: gs =>
    s.set?.bind fun set => readClass fuel (frame.push ⟨set, 0⟩) outer gs

end Glyph

theorem readNegation_unmarked {cs : List Char} (h : Unmarked cs) :
    readNegation {} cs = (false, cs) := by
  unfold readNegation
  split
  · next rest heq =>
    have hfront : cs = '^' :: rest := heq
    subst hfront
    exact absurd rfl (h.ne (by decide))
  · rfl

theorem gather_hyphens_unmarked {cs : List Char} (h : Unmarked cs) (fuel : ℕ) :
    gather {} (· == '-') fuel cs = ([], cs) := by
  cases fuel with
  | zero => rfl
  | succ fuel =>
      cases cs with
      | nil => rfl
      | cons c rest =>
          have hhyphen : c ≠ '-' := h.ne (by decide)
          rw [gather, if_neg]
          simpa using hhyphen

theorem openBracket_written (gs : List Glyph) {tail : List Char} (htail : Glyph.Behind tail) :
    openBracket {} (Glyph.written gs ++ tail) =
      ((Glyph.enter gs).1, Glyph.written (Glyph.enter gs).2 ++ tail) := by
  have hunmarked := Glyph.unmarked_written gs htail
  unfold openBracket
  rw [readNegation_unmarked hunmarked]
  dsimp only
  rw [gather_hyphens_unmarked hunmarked]
  dsimp only
  split
  · next rest _ heq =>
    obtain ⟨left, rfl⟩ := Glyph.written_eq_closing_cons htail heq
    cases heq
    rfl
  · next hclosing =>
    unfold Glyph.enter
    split
    · exact (hclosing _ rfl rfl).elim
    · rfl

theorem readMembers_closing (fuel : ℕ) (frame : ClassFrame) (outer : List ClassFrame) :
    readMembers {} fuel frame outer closing = none := by
  rcases fuel with _ | _ | fuel <;> rfl

theorem readMembers_opening (fuel : ℕ) (frame : ClassFrame) (outer : List ClassFrame)
    (rest : List Char) :
    readMembers {} (fuel + 1) frame outer ('[' :: rest) =
      match readPosix? {} rest with
      | some (some part, left) => readMembers {} fuel (frame.push part) outer left
      | some (none, _) => none
      | none =>
        readMembers {} fuel (openBracket {} rest).1 (frame :: outer) (openBracket {} rest).2 := rfl

theorem readMembers_close (fuel : ℕ) (frame : ClassFrame) (outer : List ClassFrame)
    (rest : List Char) :
    readMembers {} (fuel + 1) frame outer (']' :: rest) =
      match frame.close? {}, outer with
      | none, _ => none
      | some part, [] => some (part, rest)
      | some part, parent :: others => readMembers {} fuel (parent.push part) others rest := rfl

/-- Characters are read like the glyphs that they write. -/
theorem readMembers_written {tail : List Char} (htail : Glyph.Behind tail) (fuel : ℕ)
    (frame : ClassFrame) (outer : List ClassFrame) (gs : List Glyph) :
    readMembers {} fuel frame outer (Glyph.written gs ++ tail) =
      (Glyph.readClass fuel frame outer gs).map fun (part, left) =>
        (part, Glyph.written left ++ tail) := by
  induction fuel generalizing frame outer gs with
  | zero => rfl
  | succ fuel ih =>
      rcases gs with _ | ⟨_ | _ | s, gs⟩
      · rcases htail with rfl | rfl
        · exact readMembers_nil {} _ frame outer
        · exact readMembers_closing _ frame outer
      · change readMembers {} (fuel + 1) frame outer ('[' :: (Glyph.written gs ++ tail)) = _
        rw [readMembers_opening, readPosix?_written gs htail, openBracket_written gs htail,
          Glyph.readClass]
        cases Glyph.named? gs with
        | none => exact ih _ _ _
        | some named => exact ih _ _ _
      · change readMembers {} (fuel + 1) frame outer (']' :: (Glyph.written gs ++ tail)) = _
        rw [readMembers_close, Glyph.readClass]
        cases frame.close? {} with
        | none => rfl
        | some part =>
            cases outer with
            | nil => rfl
            | cons parent others => exact ih _ _ _
      · rw [Glyph.written_cons, Glyph.chars, List.append_assoc,
          readMembers_sign s fuel frame outer (Glyph.unmarked_written gs htail), Glyph.readClass]
        cases s.set? with
        | none => rfl
        | some set => exact ih _ _ _

theorem readBracket_written {tail : List Char} (htail : Glyph.Behind tail) (gs : List Glyph) :
    readBracket {} (Glyph.written gs ++ tail) =
      (Glyph.readClass ((Glyph.written (Glyph.enter gs).2 ++ tail).length + 1) (Glyph.enter gs).1 []
        (Glyph.enter gs).2).map fun (part, left) => (part, Glyph.written left ++ tail) := by
  unfold readBracket
  rw [openBracket_written gs htail]
  exact readMembers_written htail _ _ _ _

/-! ## Glyphs outside brackets -/

/-- The token of a bracket class. -/
def classToken (part : ClassPart) : Token := .item (.chars part.set .character) part.depth

theorem readTokens_bracket (fuel : ℕ) (rest : List Char) :
    readTokens (fuel + 1) {} ('[' :: rest) =
      (readBracket {} rest).bind fun (part, left) =>
        (readTokens fuel {} left).map (classToken part :: ·) := by
  have hvisible : visible ({} : ScanState).flags ('[' :: rest) = '[' :: rest := rfl
  have hread : readToken {} '[' rest =
      (readBracket {} rest).map fun found => (classToken found.1, {}, found.2) := by
    unfold readToken
    cases readBracket {} rest <;> rfl
  cases hbracket : readBracket {} rest with
  | none =>
      rw [hbracket, Option.map_none] at hread
      rw [readTokens, hvisible]
      dsimp only
      rw [hread]
      rfl
  | some found =>
      rw [hbracket] at hread
      exact readTokens_cons rfl hread

theorem readTokens_opening {tail : List Char} (htail : Glyph.Behind tail) (fuel : ℕ)
    (gs : List Glyph) :
    readTokens (fuel + 1) {} (Glyph.written (.opening :: gs) ++ tail) =
      (Glyph.readClass ((Glyph.written (Glyph.enter gs).2 ++ tail).length + 1) (Glyph.enter gs).1 []
        (Glyph.enter gs).2).bind fun (part, left) =>
          (readTokens fuel {} (Glyph.written left ++ tail)).map (classToken part :: ·) := by
  change readTokens (fuel + 1) {} ('[' :: (Glyph.written gs ++ tail)) = _
  rw [readTokens_bracket, readBracket_written htail]
  cases Glyph.readClass _ _ _ _ with
  | none => rfl
  | some found => rfl

/-- What a sign is read as outside brackets. -/
def Sign.toToken : Sign → Token
  | letter c => letterToken c
  | token .any => .item (.chars (CodeSet.ofChar '\n').compl .character) 0
  | token .boundary => .item (.look (.word .boundary false)) 0
  | token .digit => .item (.chars Shorthand.digit.unicodeSet .character) 0
  | token .space => .item (.chars Shorthand.space.unicodeSet .character) 0
  | token .word => .item (.chars Shorthand.word.unicodeSet .character) 0
  | quantifier .oneOrMore => .rounds 1 none true
  | quantifier .zeroOrMore => .rounds 0 none true

theorem splitLazy_unmarked {rest : List Char} (h : Unmarked rest) :
    splitLazy rest = (false, rest) := by
  unfold splitLazy
  split
  · exact absurd rfl (h.ne (by decide))
  · rfl

theorem readToken_boundary {rest : List Char} (h : Unmarked rest) :
    readToken {} '\\' ('b' :: rest) = some (.item (.look (.word .boundary false)) 0, {}, rest) := by
  change Option.bind (readEscape {} ('b' :: rest)) _ = _
  rw [readEscape_boundary h]
  rfl

/-- A quantifier repeats what stands before it as often as possible. -/
theorem readToken_suffix (q : Quantifier) {rest : List Char} (h : Unmarked rest) :
    ∃ c, q.toPattern.toList = [c] ∧
      readToken {} c rest = some ((Sign.quantifier q).toToken, {}, rest) := by
  cases q with
  | oneOrMore =>
      have hread : readToken {} '+' rest =
          some (roundsToken {} 1 none (splitLazy rest).1, {}, (splitLazy rest).2) := rfl
      rw [splitLazy_unmarked h] at hread
      exact ⟨'+', rfl, hread⟩
  | zeroOrMore =>
      have hread : readToken {} '*' rest =
          some (roundsToken {} 0 none (splitLazy rest).1, {}, (splitLazy rest).2) := rfl
      rw [splitLazy_unmarked h] at hread
      exact ⟨'*', rfl, hread⟩

/-- Outside brackets a sign is a token by itself. -/
theorem readTokens_sign (s : Sign) {rest : List Char} (h : Unmarked rest) (fuel : ℕ) :
    readTokens (fuel + 1) {} (s.chars ++ rest) =
      (readTokens fuel {} rest).map (s.toToken :: ·) := by
  cases s with
  | letter c => exact readTokens_escapeChar c fuel rest
  | token c =>
      cases c with
      | boundary => exact readTokens_cons rfl (readToken_boundary h)
      | any | digit | space | word => exact readTokens_cons rfl rfl
  | quantifier q =>
      obtain ⟨c, hchars, hread⟩ := readToken_suffix q h
      rw [Sign.chars, hchars]
      exact readTokens_cons rfl hread

/-- Every glyph but an opening one is a token by itself. -/
theorem exists_readTokens_glyph {g : Glyph} (hg : g ≠ .opening) {rest : List Char}
    (h : Unmarked rest) :
    ∃ token, ∀ fuel, readTokens (fuel + 1) {} (g.chars ++ rest) =
      (readTokens fuel {} rest).map (token :: ·) := by
  cases g with
  | opening => exact absurd rfl hg
  | closing => exact ⟨letterToken ']', fun fuel => readTokens_cons rfl rfl⟩
  | sign s => exact ⟨s.toToken, readTokens_sign s h⟩

end RegexInference
