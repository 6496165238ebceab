import Mathlib.Data.List.TakeDrop
import Mathlib.Data.Nat.Notation
import Mathlib.Tactic.SplitIfs
import RegexInference.Regex.Token

/-!
# Text pasted behind a pattern

To anchor a pattern a closing parenthesis and a dollar are pasted behind its text.  What a reader
makes of the pattern is then the same as before, with the closing text left behind.  There is one
exception: in verbose mode the pattern may end in a comment, which swallows the closing text.  A
reader that faces nothing more may therefore face the closing text or nothing again.
-/

namespace RegexInference.Regex

/-- The text behind an anchored pattern. -/
def closing : List Char := [')', '$']

/-- No line ends behind the last hash of a text, so what follows may belong to a comment. -/
def MayEndInComment (source : List Char) : Prop :=
  ∃ comment, '#' :: comment <:+ source ∧ '\n' ∉ comment

/-- What a reader of some source faces when the closing text was pasted behind it, beside what it
faced before. -/
inductive Pasted (source : List Char) : List Char → List Char → Prop where
  | behind (cs : List Char) (h : cs <:+ source) : Pasted source cs (cs ++ closing)
  /-- A comment has swallowed the closing text. -/
  | hidden (h : MayEndInComment source) : Pasted source [] []

variable {source : List Char}

namespace Pasted

variable {c : Char} {cs cs' : List Char}

theorem of_cons (h : Pasted source (c :: cs) cs') : ∃ rest, cs' = c :: rest ∧ Pasted source cs rest := by
  cases h with
  | behind _ hsuffix =>
      exact ⟨cs ++ closing, rfl, behind cs ((List.suffix_cons c cs).trans hsuffix)⟩

theorem of_nil (h : Pasted source [] cs') :
    cs' = closing ∨ (cs' = [] ∧ MayEndInComment source) := by
  cases h with
  | behind => exact Or.inl rfl
  | hidden hmay => exact Or.inr ⟨rfl, hmay⟩

/-- Any other character that stands in front stood there before. -/
theorem of_cons_right {rest' : List Char} (h : Pasted source cs (c :: rest')) (hc : c ≠ ')') :
    ∃ rest, cs = c :: rest ∧ Pasted source rest rest' := by
  cases cs with
  | nil =>
      rcases h.of_nil with heq | ⟨heq, -⟩
      · cases heq
        exact absurd rfl hc
      · cases heq
  | cons d cs =>
      obtain ⟨rest, heq, hrest⟩ := h.of_cons
      cases heq
      exact ⟨cs, rfl, hrest⟩

/-- Only a closing parenthesis can stand in front where another character did not. -/
theorem ne_cons (h : Pasted source cs cs') (hc : c ≠ ')') (hne : ∀ rest, cs = c :: rest → False) :
    ∀ rest, cs' = c :: rest → False := by
  rintro rest rfl
  obtain ⟨rest', rfl, -⟩ := h.of_cons_right hc
  exact hne rest' rfl

/-- No text without a closing parenthesis stands in front that did not stand there before. -/
theorem isPrefixOf {mark : List Char} (h : Pasted source cs cs') (hmark : ')' ∉ mark) :
    mark.isPrefixOf cs' = mark.isPrefixOf cs := by
  induction mark generalizing cs cs' with
  | nil => simp
  | cons c mark ih =>
      obtain ⟨hc, hmark⟩ := not_or.mp (mt List.mem_cons.mpr hmark)
      cases cs with
      | nil =>
          rcases h.of_nil with rfl | ⟨rfl, -⟩
          · simp [closing, List.isPrefixOf, Ne.symm hc]
          · rfl
      | cons d cs =>
          obtain ⟨rest, rfl, hrest⟩ := h.of_cons
          simp only [List.isPrefixOf, ih hrest hmark]

theorem length_le (h : Pasted source cs cs') : cs.length ≤ cs'.length := by
  cases h with
  | behind => simp
  | hidden => exact Nat.le_refl _

end Pasted

/-- A reader reads the same when the closing text is pasted behind. -/
def Keeps {α : Type} (read : List Char → Option (α × List Char)) : Prop :=
  ∀ ⦃source cs cs' x left⦄, Pasted source cs cs' → read cs = some (x, left) →
    ∃ left', read cs' = some (x, left') ∧ Pasted source left left'

theorem Keeps.map {α β : Type} {read : List Char → Option (α × List Char)} (h : Keeps read)
    (f : α → β) : Keeps fun cs => (read cs).map fun (x, left) => (f x, left) := by
  intro source cs cs' y left hpasted hread
  obtain ⟨⟨x, rest⟩, hx, heq⟩ := Option.map_eq_some_iff.mp hread
  obtain ⟨left', hx', hleft⟩ := h hpasted hx
  cases heq
  refine ⟨left', ?_, hleft⟩
  change (read cs').map _ = _
  rw [hx']
  rfl

/-! ## Blanks and comments -/

/-- Inside a comment the text that has been passed since its hash is known. -/
theorem skipIgnored_pasted {cs cs' : List Char} (h : Pasted source cs cs') (inComment : Bool)
    (hcomment : inComment = true → ∃ passed, '#' :: (passed ++ cs) <:+ source ∧ '\n' ∉ passed) :
    Pasted source (skipIgnored inComment cs) (skipIgnored inComment cs') := by
  induction cs generalizing cs' inComment with
  | nil =>
      cases h with
      | behind _ hsuffix =>
          cases inComment with
          | true =>
              obtain ⟨passed, hpassed, hline⟩ := hcomment rfl
              rw [List.append_nil] at hpassed
              exact .hidden ⟨passed, hpassed, hline⟩
          | false => exact .behind [] hsuffix
      | hidden hmay =>
          cases inComment with
          | true => exact .hidden hmay
          | false => exact .hidden hmay
  | cons c cs ih =>
      obtain ⟨rest, rfl, hrest⟩ := h.of_cons
      cases inComment with
      | true =>
          refine ih hrest _ fun hstays => ?_
          obtain ⟨passed, hpassed, hline⟩ := hcomment rfl
          refine ⟨passed ++ [c], ?_, ?_⟩
          · rwa [List.append_assoc, List.singleton_append]
          · have hc : c ≠ '\n' := bne_iff_ne.mp hstays
            simp [hline, Ne.symm hc]
      | false =>
          unfold skipIgnored
          split_ifs with hblank hhash
          · exact ih hrest false (by simp)
          · refine ih hrest true fun _ => ⟨[], ?_, List.not_mem_nil⟩
            cases h with
            | behind _ hsuffix => exact hhash ▸ hsuffix
          · exact h

theorem visible_pasted {cs cs' : List Char} (h : Pasted source cs cs') (flags : Flags) :
    Pasted source (visible flags cs) (visible flags cs') := by
  unfold visible
  split_ifs
  · exact skipIgnored_pasted h false (by simp)
  · exact h

theorem visible_nil (flags : Flags) : visible flags [] = [] := by
  unfold visible
  split_ifs
  · rfl
  · rfl

theorem visible_cons_pasted {flags : Flags} {cs cs' rest : List Char} {c : Char}
    (h : Pasted source cs cs') (hopen : visible flags cs = c :: rest) :
    ∃ rest', visible flags cs' = c :: rest' ∧ Pasted source rest rest' := by
  have hvisible := visible_pasted h flags
  rw [hopen] at hvisible
  exact hvisible.of_cons

theorem visible_pair_pasted {flags : Flags} {cs cs' rest : List Char} {c d : Char}
    (h : Pasted source cs cs') (hopen : visible flags cs = c :: d :: rest) :
    ∃ rest', visible flags cs' = c :: d :: rest' ∧ Pasted source rest rest' := by
  obtain ⟨more', hopen', hmore⟩ := visible_cons_pasted h hopen
  obtain ⟨rest', rfl, hrest⟩ := hmore.of_cons
  exact ⟨rest', hopen', hrest⟩

theorem length_skipIgnored_le (inComment : Bool) (cs : List Char) :
    (skipIgnored inComment cs).length ≤ cs.length := by
  induction cs generalizing inComment with
  | nil => simp [skipIgnored]
  | cons c cs ih =>
      cases inComment with
      | true => exact Nat.le_succ_of_le (ih _)
      | false =>
          unfold skipIgnored
          split_ifs
          · exact Nat.le_succ_of_le (ih _)
          · exact Nat.le_succ_of_le (ih _)
          · exact Nat.le_refl _

theorem length_visible_le (flags : Flags) (cs : List Char) :
    (visible flags cs).length ≤ cs.length := by
  unfold visible
  split_ifs
  · exact length_skipIgnored_le false cs
  · exact Nat.le_refl _

/-- A run of characters that ends before another one ends there again. -/
theorem gather_pasted {flags : Flags} {p : Char → Bool} {fuel fuel' : ℕ}
    {cs cs' taken left : List Char} {d : Char} (h : Pasted source cs cs') (hlength : cs.length ≤ fuel)
    (hfuel : fuel ≤ fuel') (hgather : gather flags p fuel cs = (taken, d :: left)) :
    ∃ left', gather flags p fuel' cs' = (taken, left') ∧ Pasted source (d :: left) left' := by
  induction fuel generalizing cs cs' fuel' taken with
  | zero =>
      obtain rfl : cs = [] := List.length_eq_zero_iff.mp (by omega)
      cases hgather
  | succ fuel ih =>
      obtain ⟨fuel', rfl⟩ : ∃ k, fuel' = k + 1 := ⟨fuel' - 1, by omega⟩
      cases cs with
      | nil => cases hgather
      | cons c cs =>
          obtain ⟨rest, rfl, hrest⟩ := h.of_cons
          unfold gather at hgather ⊢
          by_cases hp : p c = true
          · rw [if_pos hp] at hgather ⊢
            have hlength : (visible flags cs).length ≤ fuel := by
              have := length_visible_le flags cs
              rw [List.length_cons] at hlength
              omega
            cases hrun : gather flags p fuel (visible flags cs) with
            | mk run behind =>
                rw [hrun] at hgather
                cases hgather
                obtain ⟨left', hleft', hpasted⟩ :=
                  ih (visible_pasted hrest flags) hlength (Nat.le_of_succ_le_succ hfuel) hrun
                exact ⟨left', by rw [hleft'], hpasted⟩
          · rw [if_neg hp] at hgather ⊢
            cases hgather
            exact ⟨_, rfl, h⟩

/-- The same for a run read off the visible text, with fuel enough for all of it. -/
theorem gather_visible_pasted {flags : Flags} {p : Char → Bool} {cs cs' taken left : List Char}
    {d : Char} (h : Pasted source cs cs')
    (hgather : gather flags p cs.length.succ (visible flags cs) = (taken, d :: left)) :
    ∃ left', gather flags p cs'.length.succ (visible flags cs') = (taken, d :: left') ∧
      Pasted source left left' := by
  have hvisible := length_visible_le flags cs
  have hlength := h.length_le
  obtain ⟨left', hgather', hpasted⟩ :=
    gather_pasted (visible_pasted h flags) (Nat.le_succ_of_le hvisible)
      (Nat.succ_le_succ hlength) hgather
  obtain ⟨left', rfl, hleft⟩ := hpasted.of_cons
  exact ⟨left', hgather', hleft⟩

/-! ## Escapes -/

theorem hexDigits_keeps (flags : Flags) (n : ℕ) : Keeps (hexDigits flags n) := by
  induction n with
  | zero =>
      intro source cs cs' x left h hread
      cases hread
      exact ⟨cs', rfl, h⟩
  | succ n ih =>
      intro source cs cs' x left h hread
      cases cs with
      | nil => cases hread
      | cons c cs =>
          obtain ⟨rest, rfl, hrest⟩ := h.of_cons
          unfold hexDigits at hread ⊢
          by_cases hdigit : (hexValue? c).isSome = true
          · rw [if_pos hdigit] at hread ⊢
            exact (ih.map (c :: ·)) (visible_pasted hrest flags) hread
          · rw [if_neg hdigit] at hread
            cases hread

theorem readHex_keeps (flags : Flags) (width : ℕ) : Keeps (readHex flags width) := by
  intro source cs cs' x left h hread
  unfold readHex at hread ⊢
  split at hread
  · next rest hopen =>
    obtain ⟨rest', hopen', hrest⟩ := visible_cons_pasted h hopen
    split at hread
    · cases hread
    · next digits behind hdigits hgather =>
      obtain ⟨left', hgather', hleft⟩ := gather_visible_pasted hrest hgather
      obtain ⟨c, hc, heq⟩ := Option.map_eq_some_iff.mp hread
      cases heq
      cases digits with
      | nil => exact absurd rfl hdigits
      | cons d ds => exact ⟨left', by simp [hopen', hgather', hc], hleft⟩
    · cases hread
  · next hopen =>
    have hvisible := visible_pasted h flags
    split
    · next hopen' => exact absurd hopen' (hvisible.ne_cons (by decide) hopen _)
    · obtain ⟨⟨digits, behind⟩, hdigits, hread⟩ := Option.bind_eq_some_iff.mp hread
      obtain ⟨c, hc, heq⟩ := Option.bind_eq_some_iff.mp hread
      obtain ⟨left', hdigits', hleft⟩ := hexDigits_keeps flags width hvisible hdigits
      cases heq
      exact ⟨left', by simp [hdigits', hc], hleft⟩

theorem readPropertyName_keeps (flags : Flags) : Keeps (readPropertyName flags) := by
  intro source cs cs' x left h hread
  unfold readPropertyName at hread ⊢
  split at hread
  · cases hread
  · next rest hopen =>
    obtain ⟨rest', hopen', hrest⟩ := visible_cons_pasted h hopen
    split at hread
    · next name behind hgather =>
      obtain ⟨left', hgather', hleft⟩ := gather_visible_pasted hrest hgather
      cases hread
      exact ⟨left', by simp [hopen', hgather'], hleft⟩
    · cases hread
  · cases hread
  · next c rest hbrace hbackslash hopen =>
    obtain ⟨rest', hopen', hrest⟩ := visible_cons_pasted h hopen
    cases hread
    refine ⟨visible flags rest', ?_, visible_pasted hrest flags⟩
    rw [hopen']
    split
    · next heq => cases heq
    · next heq =>
      cases heq
      exact (hbrace rfl).elim
    · next heq =>
      cases heq
      exact (hbackslash rfl).elim
    · next heq =>
      cases heq
      rfl

theorem readProperty_keeps (flags : Flags) (negated : Bool) :
    Keeps (readProperty flags negated) := by
  intro source cs cs' x left h hread
  obtain ⟨⟨name, behind⟩, hname, hread⟩ := Option.bind_eq_some_iff.mp hread
  obtain ⟨set, hset, heq⟩ := Option.bind_eq_some_iff.mp hread
  obtain ⟨left', hname', hleft⟩ := readPropertyName_keeps flags h hname
  cases heq
  exact ⟨left', by simp [readProperty, hname', hset], hleft⟩

theorem readBoundary_keeps (flags : Flags) : Keeps (readBoundary flags) := by
  intro source cs cs' x left h hread
  unfold readBoundary at hread ⊢
  split at hread
  · next rest =>
    obtain ⟨rest', rfl, hrest⟩ := h.of_cons
    have hvisible := visible_pasted hrest flags
    split at hread
    · cases hread
    · next c more hmore =>
      rw [hmore] at hvisible
      obtain ⟨more', hmore', -⟩ := hvisible.of_cons
      rw [hmore'] at hvisible
      dsimp only at hread
      split_ifs at hread with hname
      · split at hread
        · next name behind hgather =>
          have hlength := hvisible.length_le
          obtain ⟨_, hgather', hpasted⟩ :=
            gather_pasted hvisible (Nat.le_succ _) (Nat.succ_le_succ hlength) hgather
          obtain ⟨left', rfl, hleft⟩ := hpasted.of_cons
          obtain ⟨kind, hkind, heq⟩ := Option.map_eq_some_iff.mp hread
          cases heq
          refine ⟨left', ?_, hleft⟩
          simp only [hmore', hname, if_true, hgather', hkind, Option.map_some]
        · cases hread
      · cases hread
        refine ⟨'{' :: rest', ?_, h⟩
        simp only [hmore', hname]
        rfl
  · next hopen =>
    cases hread
    refine ⟨cs', ?_, h⟩
    split
    · next rest' => exact absurd rfl (h.ne_cons (by decide) hopen rest')
    · rfl

theorem readEscape_keeps (flags : Flags) : Keeps (readEscape flags) := by
  intro source cs cs' x left h hread
  cases cs with
  | nil => cases hread
  | cons c rest =>
      obtain ⟨rest', rfl, hrest⟩ := h.of_cons
      unfold readEscape at hread ⊢
      dsimp only at hread ⊢
      cases hshort : Shorthand.ofChar? c with
      | some shorthand =>
          simp only [hshort] at hread ⊢
          obtain ⟨set, hset, heq⟩ := Option.map_eq_some_iff.mp hread
          cases heq
          exact ⟨rest', by rw [hset]; rfl, hrest⟩
      | none =>
          simp only [hshort] at hread ⊢
          by_cases hplain : (isMeta c || isEscapable c) = true
          · rw [if_pos hplain] at hread ⊢
            cases hread
            exact ⟨rest', rfl, hrest⟩
          · rw [if_neg hplain] at hread ⊢
            split at hread
            · exact (readHex_keeps flags 2).map _ hrest hread
            · exact (readHex_keeps flags 4).map _ hrest hread
            · exact (readHex_keeps flags 8).map _ hrest hread
            · exact (readProperty_keeps flags false).map _ hrest hread
            · exact (readProperty_keeps flags true).map _ hrest hread
            case h_14 =>
              exact (readBoundary_keeps flags).map
                (fun kind => Escape.look (.word kind (!flags.unicode))) hrest hread
            all_goals cases hread
            all_goals exact ⟨rest', rfl, hrest⟩

/-! ## Brackets -/

theorem dropWhile_cons_pasted {p : Char → Bool} {cs cs' left : List Char} {d : Char}
    (h : Pasted source cs cs') (hdrop : cs.dropWhile p = d :: left) :
    Pasted source (d :: left) (cs'.dropWhile p) := by
  cases h with
  | hidden => cases hdrop
  | behind _ hsuffix =>
      have hleft : d :: left <:+ cs := hdrop ▸ List.dropWhile_suffix p
      rw [List.dropWhile_append, hdrop]
      exact .behind (d :: left) (hleft.trans hsuffix)

/-- What is not in the closing text is not found there. -/
theorem dropWhile_nil_pasted {p : Char → Bool} {cs cs' : List Char} (h : Pasted source cs cs')
    (hdrop : cs.dropWhile p = []) :
    cs'.dropWhile p = closing.dropWhile p ∨ cs'.dropWhile p = [] := by
  cases h with
  | hidden => exact Or.inr hdrop
  | behind =>
      left
      rw [List.dropWhile_append, hdrop]
      rfl

theorem takeWhile_pasted {p : Char → Bool} {cs cs' left : List Char} {d : Char}
    (h : Pasted source cs cs') (hdrop : cs.dropWhile p = d :: left) :
    cs'.takeWhile p = cs.takeWhile p := by
  cases h with
  | hidden => rfl
  | behind =>
      rw [List.takeWhile_append, if_neg]
      intro hlength
      have hwhole := congrArg List.length (List.takeWhile_append_dropWhile (p := p) (l := cs))
      rw [hdrop, List.length_append, List.length_cons] at hwhole
      omega

theorem splitCaret_pasted {cs cs' : List Char} (h : Pasted source cs cs') :
    (splitCaret cs').1 = (splitCaret cs).1 ∧ Pasted source (splitCaret cs).2 (splitCaret cs').2 := by
  unfold splitCaret
  split
  · obtain ⟨rest, rfl, hrest⟩ := h.of_cons_right (by decide)
    exact ⟨rfl, hrest⟩
  · next hcaret =>
    split
    · obtain ⟨rest', rfl, -⟩ := h.of_cons
      exact (hcaret rest' rfl).elim
    · exact ⟨rfl, h⟩

/-- The closing text makes no named class where there was none. -/
theorem readPosix?_pasted (flags : Flags) {cs cs' : List Char} (h : Pasted source cs cs') :
    (readPosix? flags cs = none ∧ readPosix? flags cs' = none) ∨
      ∃ part left left', readPosix? flags cs = some (part, left) ∧
        readPosix? flags cs' = some (part, left') ∧ Pasted source left left' := by
  by_cases hcolon : ∃ rest, cs = ':' :: rest
  · obtain ⟨rest, rfl⟩ := hcolon
    obtain ⟨rest', rfl, hrest⟩ := h.of_cons
    obtain ⟨hnegated, hname⟩ := splitCaret_pasted hrest
    unfold readPosix?
    simp only [List.span_eq_takeWhile_dropWhile, hnegated]
    by_cases hend : ∃ left, (splitCaret rest).2.dropWhile (· != ':') = ':' :: ']' :: left
    · obtain ⟨left, hend⟩ := hend
      have htake := takeWhile_pasted hname hend
      obtain ⟨more', hend', hmore⟩ := (dropWhile_cons_pasted hname hend).of_cons
      obtain ⟨left', rfl, hleft⟩ := hmore.of_cons
      simp only [hend, hend', htake]
      cases posixClass? ((splitCaret rest).2.takeWhile (· != ':')) with
      | none => exact Or.inl ⟨rfl, rfl⟩
      | some set => exact Or.inr ⟨_, left, left', rfl, rfl, hleft⟩
    · left
      constructor
      · split
        · next name left heq => exact absurd ⟨left, (Prod.mk.inj heq).2⟩ hend
        · rfl
      · split
        · next name left' heq =>
          have hend' := (Prod.mk.inj heq).2
          cases hdrop : (splitCaret rest).2.dropWhile (· != ':') with
          | nil =>
              have hnone : closing.dropWhile (· != ':') = [] := by decide
              rcases dropWhile_nil_pasted hname hdrop with hnil | hnil
              · cases hend'.symm.trans (hnil.trans hnone)
              · cases hend'.symm.trans hnil
          | cons d left =>
              obtain ⟨more', hdrop', hmore⟩ := (dropWhile_cons_pasted hname hdrop).of_cons
              cases hend'.symm.trans hdrop'
              obtain ⟨left, rfl, -⟩ := hmore.of_cons_right (by decide)
              exact absurd ⟨left, hdrop⟩ hend
        · rfl
  · left
    unfold readPosix?
    constructor
    · split
      · next rest => exact absurd ⟨rest, rfl⟩ hcolon
      · rfl
    · split
      · obtain ⟨rest, rfl, -⟩ := h.of_cons_right (by decide)
        exact absurd ⟨rest, rfl⟩ hcolon
      · rfl

theorem readNegation_pasted (flags : Flags) {cs cs' : List Char} (h : Pasted source cs cs') :
    (readNegation flags cs').1 = (readNegation flags cs).1 ∧
      Pasted source (readNegation flags cs).2 (readNegation flags cs').2 := by
  have hvisible := visible_pasted h flags
  unfold readNegation
  split
  · next rest' heq' =>
    rw [heq'] at hvisible
    obtain ⟨rest, heq, hrest⟩ := hvisible.of_cons_right (by decide)
    rw [heq]
    exact ⟨rfl, visible_pasted hrest flags⟩
  · next hcaret =>
    split
    · next rest heq =>
      obtain ⟨rest', heq', -⟩ := visible_cons_pasted h heq
      exact (hcaret rest' heq').elim
    · exact ⟨rfl, hvisible⟩

/-- A bracket that is opened in front of another character is opened the same way. -/
theorem openBracket_pasted (flags : Flags) {cs cs' left : List Char} {frame : ClassFrame} {d : Char}
    (h : Pasted source cs cs') (hopen : openBracket flags cs = (frame, d :: left)) :
    ∃ left', openBracket flags cs' = (frame, left') ∧ Pasted source (d :: left) left' := by
  obtain ⟨hnegated, hafter⟩ := readNegation_pasted flags h
  unfold openBracket at hopen ⊢
  dsimp only at hopen ⊢
  rw [hnegated]
  cases hgather : gather flags (· == '-') (readNegation flags cs).2.length
      (readNegation flags cs).2 with
  | mk hyphens behind =>
      rw [hgather] at hopen
      cases behind with
      | nil => cases hyphens <;> cases hopen
      | cons e behind =>
          obtain ⟨_, hgather', hpasted⟩ :=
            gather_pasted hafter (Nat.le_refl _) hafter.length_le hgather
          obtain ⟨behind', rfl, hbehind⟩ := hpasted.of_cons
          rw [hgather']
          dsimp only at hopen ⊢
          split at hopen
          · next heq =>
            cases heq
            obtain ⟨rfl, hleft⟩ := Prod.mk.inj hopen
            have hvisible := visible_pasted hbehind flags
            rw [hleft] at hvisible
            exact ⟨visible flags behind', rfl, hvisible⟩
          · next hbracket =>
            obtain ⟨rfl, hleft⟩ := Prod.mk.inj hopen
            cases hleft
            refine ⟨_, ?_, hpasted⟩
            split
            · next heq =>
              cases heq
              exact (hbracket _ rfl rfl).elim
            · rfl

theorem readMember_keeps (flags : Flags) : Keeps (readMember flags) := by
  intro source cs cs' x left h hread
  unfold readMember at hread
  split at hread
  · cases hread
  · obtain ⟨rest', rfl, hrest⟩ := h.of_cons
    exact readEscape_keeps flags hrest hread
  · next c rest hbackslash =>
    obtain ⟨rest', rfl, hrest⟩ := h.of_cons
    cases hread
    refine ⟨rest', ?_, hrest⟩
    unfold readMember
    split
    · next heq => cases heq
    · next heq =>
      cases heq
      exact (hbackslash rfl).elim
    · next heq =>
      cases heq
      rfl

/-- A text that has only blanks in front of its end, or of a comment, begins with nothing else. -/
theorem head?_ne_of_dropWhile {cs : List Char} {k : Char} (hblank : isBlank k = false)
    (hcomment : k ≠ '#')
    (hdrop : cs.dropWhile isBlank = [] ∨ ∃ rest, cs.dropWhile isBlank = '#' :: rest) :
    cs.head? ≠ some k := by
  intro hhead
  cases cs with
  | nil => cases hhead
  | cons c cs =>
      cases hhead
      rw [List.dropWhile_cons_of_neg (by simp [hblank])] at hdrop
      rcases hdrop with hnil | ⟨rest, hcons⟩
      · cases hnil
      · cases hcons
        exact hcomment rfl

/-- Blanks in front of the closing text do not hide it. -/
theorem dropWhile_isBlank_pasted {cs cs' : List Char} (h : Pasted source cs cs') :
    Pasted source (cs.dropWhile isBlank) (cs'.dropWhile isBlank) := by
  cases hdrop : cs.dropWhile isBlank with
  | nil =>
      cases h with
      | hidden hmay => exact .hidden hmay
      | behind _ hsuffix =>
          have hclosing : closing.dropWhile isBlank = closing := rfl
          rw [List.dropWhile_append, hdrop, List.isEmpty_nil, if_pos rfl, hclosing]
          exact .behind [] List.nil_suffix
  | cons d left => exact dropWhile_cons_pasted h hdrop

/-- Whether a certain character stands behind the first one is seen in the pattern itself. -/
theorem peekBehind_pasted (flags : Flags) {c k : Char} {cs cs' : List Char} (h : Pasted source cs cs')
    (hblank : isBlank k = false) (hcomment : k ≠ '#') (hclosing : k ≠ ')') :
    peekBehind flags (c :: cs') = some k ↔ peekBehind flags (c :: cs) = some k := by
  have hdrop := dropWhile_isBlank_pasted h
  have hparenthesis : some ')' ≠ some k := fun heq => hclosing (Option.some.inj heq).symm
  unfold peekBehind
  dsimp only
  split_ifs with hverbose
  · cases hrest : cs.dropWhile isBlank with
    | nil =>
        rw [hrest] at hdrop
        have hhead := head?_ne_of_dropWhile hblank hcomment (Or.inl hrest)
        rcases hdrop.of_nil with hrest' | ⟨hrest', -⟩
        · simp [hrest', closing, hhead, hparenthesis]
        · simp [hrest', hhead, head?_ne_of_dropWhile hblank hcomment (Or.inl hrest')]
    | cons d rest =>
        rw [hrest] at hdrop
        obtain ⟨rest', hrest', hmore⟩ := hdrop.of_cons
        by_cases hd : d = '#'
        · subst hd
          have hhead := head?_ne_of_dropWhile hblank hcomment (Or.inr ⟨rest, hrest⟩)
          have hhead' := head?_ne_of_dropWhile hblank hcomment (Or.inr ⟨rest', hrest'⟩)
          have hmore := dropWhile_isBlank_pasted hmore
          cases hbehind : rest.dropWhile isBlank with
          | nil =>
              rw [hbehind] at hmore
              rcases hmore.of_nil with hbehind' | ⟨hbehind', -⟩
              · simp [hrest', hbehind, hbehind', closing, hhead, hparenthesis]
              · simp [hrest', hbehind, hbehind', hhead, hhead']
          | cons e behind =>
              rw [hbehind] at hmore
              obtain ⟨behind', hbehind', -⟩ := hmore.of_cons
              simp [hrest', hbehind, hbehind']
        · rw [hrest']
          split
          · next heq => cases heq
          · next heq => exact absurd (List.cons.inj heq).1 hd
          · next heq =>
            cases heq
            rfl
  · cases cs with
    | nil =>
        rcases h.of_nil with rfl | ⟨rfl, -⟩
        · simp [closing, Ne.symm hclosing]
        · rfl
    | cons d cs =>
        obtain ⟨rest', rfl, -⟩ := h.of_cons
        rfl

theorem readItem_keeps (flags : Flags) : Keeps (readItem flags) := by
  intro source cs cs' x left h hread
  obtain ⟨⟨first, rest⟩, hfirst, hread⟩ := Option.bind_eq_some_iff.mp hread
  obtain ⟨rest', hfirst', hrest⟩ := readMember_keeps flags h hfirst
  have hvisible := visible_pasted hrest flags
  dsimp only at hread
  unfold readItem
  simp only [hfirst', Option.bind_eq_bind, Option.bind_some]
  split at hread
  · cases hread
  · next c more hopen =>
    rw [hopen] at hvisible
    obtain ⟨more', hopen', hmore⟩ := hvisible.of_cons
    rw [hopen'] at hvisible
    have hbracket := peekBehind_pasted (k := ']') (c := c) flags hmore rfl
      (by decide) (by decide)
    have hhyphen := peekBehind_pasted (k := '-') (c := c) flags hmore rfl
      (by decide) (by decide)
    have hcondition : (c != '-' || peekBehind flags (c :: more') == some ']' ||
        peekBehind flags (c :: more') == some '-') =
        (c != '-' || peekBehind flags (c :: more) == some ']' ||
          peekBehind flags (c :: more) == some '-') := by
      rw [Bool.eq_iff_iff]
      simp only [Bool.or_eq_true, beq_iff_eq, hbracket, hhyphen]
    simp only [hopen', hcondition]
    split_ifs at hread ⊢ with hrange
    · cases first with
      | literal l =>
          obtain ⟨c', hc', heq⟩ := Option.map_eq_some_iff.mp hread
          cases heq
          exact ⟨c :: more', by simp only [hc', Option.map_some], hvisible⟩
      | set s =>
          cases hread
          exact ⟨c :: more', rfl, hvisible⟩
      | look l => cases hread
    · obtain ⟨⟨last, behind⟩, hlast, hread⟩ := Option.bind_eq_some_iff.mp hread
      obtain ⟨behind', hlast', hbehind⟩ :=
        readMember_keeps flags (visible_pasted hmore flags) hlast
      cases first with
      | literal l =>
          cases last with
          | literal l' =>
              obtain ⟨low, hlow, hread⟩ := Option.bind_eq_some_iff.mp hread
              obtain ⟨high, hhigh, hread⟩ := Option.bind_eq_some_iff.mp hread
              split_ifs at hread with hle
              cases hread
              exact ⟨behind', by simp [hlast', hlow, hhigh, hle], hbehind⟩
          | set | look => cases hread
      | set | look => cases hread

theorem readMembers_nil (flags : Flags) (fuel : ℕ) (frame : ClassFrame)
    (outer : List ClassFrame) : readMembers flags fuel frame outer [] = none := by
  cases fuel with
  | zero => rfl
  | succ fuel =>
      unfold readMembers
      rw [visible_nil]

/-- What is neither a bracket nor an operator is a member. -/
theorem readMembers_item {flags : Flags} {fuel : ℕ} (frame : ClassFrame) (outer : List ClassFrame)
    {c : Char} {cs rest left : List Char} {part : ClassPart} (hopen : visible flags cs = c :: rest)
    (hbracket : c = '[' → False) (hclose : c = ']' → False)
    (hinter : ∀ more, c = '&' → rest = '&' :: more → False)
    (hdiff : ∀ more, c = '-' → rest = '-' :: more → False)
    (hsymm : ∀ more, c = '~' → rest = '~' :: more → False)
    (hitem : readItem flags (visible flags cs) = some (part, left)) :
    readMembers flags (fuel + 1) frame outer cs =
      readMembers flags fuel (frame.push part) outer left := by
  rw [readMembers]
  split
  · next heq => exact absurd (hopen.symm.trans heq) (by simp)
  · next heq => exact (hbracket (List.cons.inj (hopen.symm.trans heq)).1).elim
  · next heq => exact (hclose (List.cons.inj (hopen.symm.trans heq)).1).elim
  · next heq =>
    obtain ⟨hc, hrest⟩ := List.cons.inj (hopen.symm.trans heq)
    exact (hinter _ hc hrest).elim
  · next heq =>
    obtain ⟨hc, hrest⟩ := List.cons.inj (hopen.symm.trans heq)
    exact (hdiff _ hc hrest).elim
  · next heq =>
    obtain ⟨hc, hrest⟩ := List.cons.inj (hopen.symm.trans heq)
    exact (hsymm _ hc hrest).elim
  · next heq => rw [← heq, hitem]

theorem readMembers_pasted (flags : Flags) {fuel fuel' : ℕ} (hfuel : fuel ≤ fuel')
    (frame : ClassFrame) (outer : List ClassFrame) {cs cs' left : List Char} {part : ClassPart}
    (h : Pasted source cs cs') (hread : readMembers flags fuel frame outer cs = some (part, left)) :
    ∃ left', readMembers flags fuel' frame outer cs' = some (part, left') ∧ Pasted source left left' := by
  induction fuel generalizing fuel' frame outer cs cs' with
  | zero => cases hread
  | succ fuel ih =>
      obtain ⟨fuel', rfl⟩ : ∃ k, fuel' = k + 1 := ⟨fuel' - 1, by omega⟩
      have hfuel := Nat.le_of_succ_le_succ hfuel
      rw [readMembers] at hread
      split at hread
      · cases hread
      · next rest hopen =>
        obtain ⟨rest', hopen', hrest⟩ := visible_cons_pasted h hopen
        simp only [readMembers, hopen']
        rcases readPosix?_pasted flags hrest with
          ⟨hposix, hposix'⟩ | ⟨named, left, left', hposix, hposix', hleft⟩
        · simp only [hposix, hposix'] at hread ⊢
          cases hinner : openBracket flags rest with
          | mk inner behind =>
              rw [hinner] at hread
              cases behind with
              | nil =>
                  rw [readMembers_nil] at hread
                  cases hread
              | cons d behind =>
                  obtain ⟨behind', hinner', hbehind⟩ := openBracket_pasted flags hrest hinner
                  rw [hinner']
                  exact ih hfuel _ _ hbehind hread
        · simp only [hposix, hposix'] at hread ⊢
          cases named with
          | none => cases hread
          | some part => exact ih hfuel _ _ hleft hread
      · next rest hopen =>
        obtain ⟨rest', hopen', hrest⟩ := visible_cons_pasted h hopen
        simp only [readMembers, hopen']
        cases hclose : frame.close? flags with
        | none =>
            rw [hclose] at hread
            cases hread
        | some closed =>
            rw [hclose] at hread
            cases outer with
            | nil =>
                cases hread
                exact ⟨rest', rfl, hrest⟩
            | cons parent others => exact ih hfuel _ _ hrest hread
      · next rest hopen =>
        obtain ⟨rest', hopen', hrest⟩ := visible_pair_pasted h hopen
        simp only [readMembers, hopen']
        exact ih hfuel _ _ hrest hread
      · next rest hopen =>
        obtain ⟨rest', hopen', hrest⟩ := visible_pair_pasted h hopen
        simp only [readMembers, hopen']
        exact ih hfuel _ _ hrest hread
      · next rest hopen =>
        obtain ⟨rest', hopen', hrest⟩ := visible_pair_pasted h hopen
        simp only [readMembers, hopen']
        exact ih hfuel _ _ hrest hread
      · next c rest hbracket hclose hinter hdiff hsymm hopen =>
        have hvisible := visible_pasted h flags
        rw [hopen] at hvisible
        obtain ⟨rest', hopen', hrest⟩ := hvisible.of_cons
        rw [hopen'] at hvisible
        cases hitem : readItem flags (c :: rest) with
        | none =>
            rw [hitem] at hread
            cases hread
        | some item =>
            obtain ⟨behind', hitem', hbehind⟩ := readItem_keeps flags hvisible hitem
            rw [hitem] at hread
            rw [← hopen'] at hitem'
            rw [readMembers_item frame outer hopen' hbracket hclose
              (fun more hc => hrest.ne_cons (by decide) (fun more => hinter more hc) more)
              (fun more hc => hrest.ne_cons (by decide) (fun more => hdiff more hc) more)
              (fun more hc => hrest.ne_cons (by decide) (fun more => hsymm more hc) more) hitem']
            exact ih hfuel _ _ hbehind hread

theorem readBracket_keeps (flags : Flags) : Keeps (readBracket flags) := by
  intro source cs cs' part left h hread
  unfold readBracket at hread ⊢
  cases hopen : openBracket flags cs with
  | mk frame rest =>
      rw [hopen] at hread
      dsimp only at hread
      cases rest with
      | nil =>
          rw [readMembers_nil] at hread
          cases hread
      | cons d rest =>
          obtain ⟨rest', hopen', hrest⟩ := openBracket_pasted flags h hopen
          rw [hopen']
          exact readMembers_pasted flags (Nat.succ_le_succ hrest.length_le) _ _ hrest hread

end RegexInference.Regex
