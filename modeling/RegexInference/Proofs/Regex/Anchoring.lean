import RegexInference.Proofs.Regex.Language
import RegexInference.Proofs.Regex.Pasting
import RegexInference.Regex.Parse

/-!
# Anchored patterns

To anchor a pattern its text is put between `^(?:` and `)$`.  Unless the pattern ends in a comment,
this text is read as the start of the text, one group that holds what the pattern itself is read
as, and the end of the text.  If it does end in a comment, the group is never closed and the text is
no pattern.
-/

namespace RegexInference.Regex

variable {source : List Char}

/-! ## Groups -/

theorem readFlags_pasted {seen changes : List (Flag × Bool)} {negated justNegated : Bool}
    {cs cs' left : List Char} {close : Char} (h : Pasted source cs cs')
    (hread : readFlags seen negated justNegated cs = some (changes, close, left)) :
    ∃ left', readFlags seen negated justNegated cs' = some (changes, close, left') ∧
      Pasted source left left' := by
  induction cs generalizing cs' seen negated justNegated with
  | nil => cases hread
  | cons c cs ih =>
      obtain ⟨rest, rfl, hrest⟩ := h.of_cons
      unfold readFlags at hread ⊢
      split_ifs at hread ⊢
      · cases hread
        exact ⟨rest, rfl, hrest⟩
      · exact ih hrest hread
      · cases hflag : Flag.ofChar c with
        | none =>
            rw [hflag] at hread
            cases hread
        | some flag =>
            simp only [hflag] at hread ⊢
            split_ifs at hread ⊢
            exact ih hrest hread

theorem readName?_keeps : Keeps readName? := by
  intro source cs cs' name left h hread
  unfold readName? at hread ⊢
  rw [List.span_eq_takeWhile_dropWhile] at hread ⊢
  split at hread
  · next first others rest heq =>
    obtain ⟨htake, hdrop⟩ := Prod.mk.inj heq
    have htake' := takeWhile_pasted h hdrop
    obtain ⟨rest', hdrop', hrest⟩ := (dropWhile_cons_pasted h hdrop).of_cons
    split_ifs at hread with hname
    cases hread
    exact ⟨rest', by simp only [htake', htake, hdrop', hname, if_true], hrest⟩
  · cases hread

/-- The scanner's state inside further groups, which return to these flags. -/
def ScanState.under (base : List Flags) (state : ScanState) : ScanState :=
  { state with outer := state.outer ++ base }

section

variable {state next : ScanState} {cs cs' left : List Char} {token : Token}

theorem ScanState.enterNamed?_under {name : List Char}
    (h : state.enterNamed? name = some next) (base : List Flags) :
    (state.under base).enterNamed? name = some (next.under base) := by
  unfold ScanState.enterNamed? at h ⊢
  have hnames : (state.under base).names = state.names := rfl
  rw [hnames]
  split_ifs at h ⊢
  cases h
  rfl

theorem readNamed_pasted (h : Pasted source cs cs')
    (hread : readNamed state cs = some (token, next, left)) :
    ∃ left', Pasted source left left' ∧
      ∀ base, readNamed (state.under base) cs' = some (token, next.under base, left') := by
  obtain ⟨⟨name, behind⟩, hname, hread⟩ := Option.bind_eq_some_iff.mp hread
  obtain ⟨entered, hentered, hread⟩ := Option.bind_eq_some_iff.mp hread
  obtain ⟨behind', hname', hbehind⟩ := readName?_keeps h hname
  cases hread
  refine ⟨behind', hbehind, fun base => ?_⟩
  simp [readNamed, hname', ScanState.enterNamed?_under hentered base]

theorem readFlagged_pasted (h : Pasted source cs cs')
    (hread : readFlagged state cs = some (token, next, left)) :
    ∃ left', Pasted source left left' ∧
      ∀ base, readFlagged (state.under base) cs' = some (token, next.under base, left') := by
  unfold readFlagged at hread ⊢
  cases hflags : readFlags [] false false cs with
  | none =>
      rw [hflags] at hread
      cases hread
  | some found =>
      obtain ⟨changes, close, behind⟩ := found
      obtain ⟨behind', hflags', hbehind⟩ := readFlags_pasted h hflags
      simp only [hflags, hflags'] at hread ⊢
      split_ifs at hread ⊢
      · cases hread
        exact ⟨behind', hbehind, fun base => rfl⟩
      · cases hread
        exact ⟨behind', hbehind, fun base => rfl⟩

theorem readExtension_pasted (h : Pasted source cs cs')
    (hread : readExtension state cs = some (token, next, left)) :
    ∃ left', Pasted source left left' ∧
      ∀ base, readExtension (state.under base) cs' = some (token, next.under base, left') := by
  have hlook : isLookaround cs' = isLookaround cs := by
    simp [isLookaround, h.isPrefixOf]
  unfold readExtension at hread ⊢
  rw [hlook]
  split_ifs at hread ⊢
  split at hread
  · obtain ⟨more', rfl, hmore⟩ := h.of_cons
    obtain ⟨rest', rfl, hrest⟩ := hmore.of_cons
    exact readNamed_pasted hrest hread
  · obtain ⟨rest', rfl, hrest⟩ := h.of_cons
    exact readNamed_pasted hrest hread
  · next hlong hshort =>
    obtain ⟨left', hleft, hread'⟩ := readFlagged_pasted h hread
    refine ⟨left', hleft, fun base => ?_⟩
    split
    · obtain ⟨more, rfl, hmore⟩ := h.of_cons_right (by decide)
      obtain ⟨rest, rfl, -⟩ := hmore.of_cons_right (by decide)
      exact (hlong rest rfl).elim
    · obtain ⟨rest, rfl, -⟩ := h.of_cons_right (by decide)
      exact (hshort rest rfl).elim
    · exact hread' base

theorem readGroup_pasted (h : Pasted source cs cs')
    (hread : readGroup state cs = some (token, next, left)) :
    ∃ left', Pasted source left left' ∧
      ∀ base, readGroup (state.under base) cs' = some (token, next.under base, left') := by
  have hflags : ∀ base, (state.under base).flags = state.flags := fun base => rfl
  unfold readGroup at hread ⊢
  simp only [hflags]
  split at hread
  · next rest hopen =>
    obtain ⟨rest', hopen', hrest⟩ := visible_cons_pasted h hopen
    simp only [hopen']
    exact readExtension_pasted hrest hread
  · next hopen =>
    have hvisible := visible_pasted h state.flags
    cases hread
    refine ⟨visible state.flags cs', hvisible, fun base => ?_⟩
    split
    · next hopen' => exact (hvisible.ne_cons (by decide) hopen _ hopen').elim
    · rfl

end

/-! ## Repetitions -/

theorem splitLazy_pasted {cs cs' : List Char} (h : Pasted source cs cs') :
    (splitLazy cs').1 = (splitLazy cs).1 ∧ Pasted source (splitLazy cs).2 (splitLazy cs').2 := by
  unfold splitLazy
  split
  · obtain ⟨rest, rfl, hrest⟩ := h.of_cons_right (by decide)
    exact ⟨rfl, hrest⟩
  · next hmark =>
    split
    · obtain ⟨rest', rfl, -⟩ := h.of_cons
      exact (hmark rest' rfl).elim
    · exact ⟨rfl, h⟩

/-- A count is read the same if something that is not swallowed stands behind it. -/
theorem readCount_pasted (flags : Flags) {cs cs' left : List Char} {count : Option ℕ} {d : Char}
    (h : Pasted source cs cs') (hread : readCount flags cs = (count, d :: left)) :
    ∃ left', readCount flags cs' = (count, left') ∧ Pasted source (d :: left) left' := by
  have hdrop := dropWhile_isBlank_pasted h
  unfold readCount at hread ⊢
  cases hgather : gather flags Char.isDigit cs.length.succ (cs.dropWhile isBlank) with
  | mk digits rest =>
      rw [hgather] at hread
      have hbehind : visible flags (rest.dropWhile isBlank) = d :: left := by
        cases digits with
        | nil => exact (Prod.mk.inj hread).2
        | cons _ _ => exact (Prod.mk.inj hread).2
      cases rest with
      | nil =>
          rw [List.dropWhile_nil, visible_nil] at hbehind
          cases hbehind
      | cons e rest =>
          have hlength := (List.dropWhile_suffix isBlank (l := cs)).length_le
          obtain ⟨rest', hgather', hrest⟩ :=
            gather_pasted hdrop (Nat.le_succ_of_le hlength) (Nat.succ_le_succ h.length_le) hgather
          have hleft := visible_pasted (dropWhile_isBlank_pasted hrest) flags
          rw [hbehind] at hleft
          rw [hgather']
          refine ⟨_, ?_, hleft⟩
          cases digits with
          | nil => rw [← (Prod.mk.inj hread).1]
          | cons _ _ => rw [← (Prod.mk.inj hread).1]

theorem readUpperBound_pasted (flags : Flags) {cs cs' left : List Char} {min : ℕ}
    {max : Option ℕ} {d : Char} (h : Pasted source cs cs')
    (hread : readUpperBound flags min cs = some (max, d :: left)) :
    ∃ left', readUpperBound flags min cs' = some (max, left') ∧ Pasted source (d :: left) left' := by
  unfold readUpperBound at hread ⊢
  split at hread
  · next more =>
    obtain ⟨more', rfl, hmore⟩ := h.of_cons
    have hvisible := visible_pasted hmore flags
    split at hread
    · next rest hopen =>
      rw [hopen] at hvisible
      obtain ⟨rest', hopen', hrest⟩ := hvisible.of_cons
      cases hread
      rw [hopen'] at hvisible
      exact ⟨'}' :: rest', by simp only [hopen'], hvisible⟩
    · next hopen =>
      cases hcount : readCount flags (visible flags more) with
      | mk count behind =>
          rw [hcount] at hread
          cases count with
          | none => cases hread
          | some count =>
              cases hread
              obtain ⟨left', hcount', hleft⟩ := readCount_pasted flags hvisible hcount
              refine ⟨left', ?_, hleft⟩
              split
              · next heq =>
                cases heq
                split
                · next hopen' => exact (hvisible.ne_cons (by decide) hopen _ hopen').elim
                · rw [hcount']
              · next hcomma => exact (hcomma more' rfl).elim
  · next hcomma =>
    cases hread
    refine ⟨cs', ?_, h⟩
    split
    · obtain ⟨rest, heq, -⟩ := h.of_cons_right (by decide)
      exact (hcomma rest heq).elim
    · rfl

theorem readCounts_keeps (flags : Flags) : Keeps (readCounts flags) := by
  intro source cs cs' token left h hread
  unfold readCounts at hread ⊢
  cases hfirst : readCount flags (visible flags cs) with
  | mk first rest =>
      rw [hfirst] at hread
      obtain ⟨min, hmin, hmore⟩ := Option.bind_eq_some_iff.mp hread
      obtain ⟨⟨max, bounded⟩, hbound, hend⟩ := Option.bind_eq_some_iff.mp hmore
      obtain rfl : first = some min := hmin
      dsimp only at hend
      split at hend
      · next behind =>
        split_ifs at hend with hle
        cases hend
        cases rest with
        | nil => cases hbound
        | cons d rest =>
            obtain ⟨rest', hfirst', hrest⟩ :=
              readCount_pasted flags (visible_pasted h flags) hfirst
            obtain ⟨bounded', hbound', hbounded⟩ := readUpperBound_pasted flags hrest hbound
            obtain ⟨behind', rfl, hbehind⟩ := hbounded.of_cons
            obtain ⟨hmarked, hleft⟩ := splitLazy_pasted (visible_pasted hbehind flags)
            refine ⟨_, ?_, hleft⟩
            simp [hfirst', hbound', hle, hmarked]
      · cases hend

/-! ## Tokens -/

section

variable {state next : ScanState} {rest rest' left : List Char} {token : Token}

/-- A token is read the same in any group around it. -/
theorem readToken_pasted {c : Char} (h : Pasted source rest rest')
    (hread : readToken state c rest = some (token, next, left)) :
    ∃ left', Pasted source left left' ∧
      ∀ base, readToken (state.under base) c rest' = some (token, next.under base, left') := by
  have hflags : ∀ base, (state.under base).flags = state.flags := fun base => rfl
  unfold readToken at hread ⊢
  dsimp only at hread ⊢
  simp only [hflags]
  split at hread
  · exact readGroup_pasted h hread
  · cases houter : state.outer with
    | nil =>
        rw [houter] at hread
        cases hread
    | cons flags outer =>
        rw [houter] at hread
        cases hread
        refine ⟨rest', h, fun base => ?_⟩
        simp [ScanState.under, houter]
  · cases hread
    exact ⟨rest', h, fun base => rfl⟩
  · obtain ⟨⟨part, behind⟩, hpart, hitem⟩ := Option.bind_eq_some_iff.mp hread
    obtain ⟨behind', hpart', hbehind⟩ := readBracket_keeps state.flags h hpart
    cases hitem
    exact ⟨behind', hbehind, fun base => by simp [hpart']⟩
  · obtain ⟨hmarked, hleft⟩ := splitLazy_pasted h
    cases hread
    exact ⟨_, hleft, fun base => by rw [hmarked]⟩
  · obtain ⟨hmarked, hleft⟩ := splitLazy_pasted h
    cases hread
    exact ⟨_, hleft, fun base => by rw [hmarked]⟩
  · obtain ⟨hmarked, hleft⟩ := splitLazy_pasted h
    cases hread
    exact ⟨_, hleft, fun base => by rw [hmarked]⟩
  · obtain ⟨⟨counted, behind⟩, hcounted, htoken⟩ := Option.map_eq_some_iff.mp hread
    obtain ⟨behind', hcounted', hbehind⟩ := readCounts_keeps state.flags h hcounted
    cases htoken
    exact ⟨behind', hbehind, fun base => by rw [hcounted']; rfl⟩
  · obtain ⟨⟨escape, behind⟩, hescape, hrest⟩ := Option.bind_eq_some_iff.mp hread
    obtain ⟨r, hr, hitem⟩ := Option.bind_eq_some_iff.mp hrest
    obtain ⟨behind', hescape', hbehind⟩ := readEscape_keeps state.flags h hescape
    cases hitem
    exact ⟨behind', hbehind, fun base => by simp [hescape', hr]⟩
  · obtain ⟨r, hr, hitem⟩ := Option.bind_eq_some_iff.mp hread
    cases hitem
    exact ⟨rest', h, fun base => by rw [hr]; rfl⟩
  · cases hread
    exact ⟨rest', h, fun base => rfl⟩
  · cases hread
    exact ⟨rest', h, fun base => rfl⟩
  · obtain ⟨r, hr, hitem⟩ := Option.bind_eq_some_iff.mp hread
    cases hitem
    exact ⟨rest', h, fun base => by rw [hr]; rfl⟩

/-- The tokens behind a pattern between anchors. -/
def closingTokens : List Token := [.groupEnd, .item (.look .textEnd) 0]

theorem ScanState.under_nil (state : ScanState) : state.under [] = state := by
  unfold ScanState.under
  rw [List.append_nil]

theorem visible_closing (flags : Flags) : visible flags closing = closing := by
  have hblank : isBlank ')' = false := rfl
  unfold visible
  split_ifs
  · simp [closing, skipIgnored, hblank]
  · rfl

theorem readTokens_congr (fuel : ℕ) (state : ScanState) {cs ds : List Char}
    (h : visible state.flags cs = visible state.flags ds) :
    readTokens fuel state cs = readTokens fuel state ds := by
  cases fuel with
  | zero => rfl
  | succ fuel => rw [readTokens, readTokens, h]

theorem readTokens_nil (fuel : ℕ) (state : ScanState) :
    readTokens (fuel + 1) state [] = if state.outer.isEmpty then some [] else none := by
  rw [readTokens, visible_nil]

theorem readTokens_cons {fuel : ℕ} {c : Char} {cs : List Char}
    (hvisible : visible state.flags cs = c :: rest)
    (hread : readToken state c rest = some (token, next, left)) :
    readTokens (fuel + 1) state cs = (readTokens fuel next left).map (token :: ·) := by
  rw [readTokens, hvisible]
  dsimp only
  rw [hread]

/-- Behind a pattern that is in no group the closing parenthesis is out of place. -/
theorem readTokens_closing (fuel : ℕ) (houter : state.outer = []) :
    readTokens (fuel + 1) state closing = none := by
  rw [readTokens, visible_closing]
  unfold closing readToken
  simp [houter]

/-- Behind a pattern in a group the closing text ends the group and the text. -/
theorem readTokens_closing_under (fuel : ℕ) (houter : state.outer = []) :
    readTokens (fuel + 3) (state.under [{}]) closing = some closingTokens := by
  have hend : readToken (state.under [{}]) ')' ['$'] =
      some (.groupEnd, ⟨{}, [], state.names⟩, ['$']) := by
    unfold readToken
    simp [ScanState.under, houter]
  have hdollar : readToken ⟨{}, [], state.names⟩ '$' [] =
      some (.item (.look .textEnd) 0, ⟨{}, [], state.names⟩, []) := rfl
  rw [readTokens_cons (visible_closing _) hend, readTokens_cons rfl hdollar, readTokens_nil]
  rfl

/-- Whoever faces the closing text reads it if a group is open around the pattern. -/
theorem readTokens_shown {cs : List Char} (fuel : ℕ) (houter : state.outer = [])
    (hvisible : visible state.flags cs = closing) :
    readTokens (fuel + 3) state cs = none ∧
      readTokens (fuel + 3) (state.under [{}]) cs = some closingTokens := by
  have hclosing : visible state.flags cs = visible state.flags closing :=
    hvisible.trans (visible_closing _).symm
  constructor
  · rw [readTokens_congr _ state hclosing]
    exact readTokens_closing (fuel + 2) houter
  · rw [readTokens_congr _ (state.under [{}]) hclosing]
    exact readTokens_closing_under fuel houter

/-- Whoever faces nothing has read all if no group is open. -/
theorem readTokens_hidden {cs : List Char} (fuel : ℕ) (houter : state.outer = [])
    (hvisible : visible state.flags cs = []) :
    readTokens (fuel + 1) state cs = some [] ∧
      readTokens (fuel + 1) (state.under [{}]) cs = none := by
  have hnil : visible state.flags cs = visible state.flags [] :=
    hvisible.trans (visible_nil _).symm
  constructor
  · rw [readTokens_congr _ state hnil, readTokens_nil, houter]
    rfl
  · rw [readTokens_congr _ (state.under [{}]) hnil, readTokens_nil, if_neg]
    simp [ScanState.under]

/-- What is read of a pattern is read again when the closing text stands behind it.  Then either
the closing text is not read at all, for which there has to be a hash, or it closes the group around
the pattern. -/
theorem readTokens_pasted {fuel : ℕ} {cs cs' : List Char} {tokens : List Token}
    (h : Pasted source cs cs') (hread : readTokens fuel state cs = some tokens) :
    (MayEndInComment source ∧ ∀ fuel' ≥ fuel + 2, readTokens fuel' state cs' = some tokens ∧
      readTokens fuel' (state.under [{}]) cs' = none) ∨
    (∀ fuel' ≥ fuel + 2, readTokens fuel' state cs' = none ∧
      readTokens fuel' (state.under [{}]) cs' = some (tokens ++ closingTokens)) := by
  induction fuel generalizing state cs cs' tokens with
  | zero => cases hread
  | succ fuel ih =>
      have hpasted := visible_pasted h state.flags
      rw [readTokens] at hread
      cases hvisible : visible state.flags cs with
      | nil =>
          rw [hvisible] at hread hpasted
          dsimp only at hread
          split_ifs at hread with hempty
          cases hread
          have houter : state.outer = [] := List.isEmpty_iff.mp hempty
          rcases hpasted.of_nil with hvisible' | ⟨hvisible', hmay⟩
          · right
            intro fuel' hfuel'
            obtain ⟨k, rfl⟩ : ∃ k, fuel' = k + 3 := ⟨fuel' - 3, by omega⟩
            exact readTokens_shown k houter hvisible'
          · left
            refine ⟨hmay, fun fuel' hfuel' => ?_⟩
            obtain ⟨k, rfl⟩ : ∃ k, fuel' = k + 1 := ⟨fuel' - 1, by omega⟩
            exact readTokens_hidden k houter hvisible'
      | cons c rest =>
          rw [hvisible] at hread hpasted
          obtain ⟨rest', hvisible', hrest⟩ := hpasted.of_cons
          dsimp only at hread
          cases htoken : readToken state c rest with
          | none =>
              rw [htoken] at hread
              cases hread
          | some found =>
              obtain ⟨token, next, left⟩ := found
              rw [htoken] at hread
              obtain ⟨more, hmore, rfl⟩ := Option.map_eq_some_iff.mp hread
              obtain ⟨left', hleft, htoken'⟩ := readToken_pasted hrest htoken
              have hplain := htoken' []
              rw [ScanState.under_nil, ScanState.under_nil] at hplain
              have hunder : visible (state.under [{}]).flags cs' = c :: rest' := hvisible'
              rcases ih hleft hmore with ⟨hmay, hhidden⟩ | hshown
              · left
                refine ⟨hmay, fun fuel' hfuel' => ?_⟩
                obtain ⟨k, rfl⟩ : ∃ k, fuel' = k + 1 := ⟨fuel' - 1, by omega⟩
                obtain ⟨hsome, hnone⟩ := hhidden k (by omega)
                rw [readTokens_cons hvisible' hplain, readTokens_cons hunder (htoken' _), hsome,
                  hnone]
                exact ⟨rfl, rfl⟩
              · right
                intro fuel' hfuel'
                obtain ⟨k, rfl⟩ : ∃ k, fuel' = k + 1 := ⟨fuel' - 1, by omega⟩
                obtain ⟨hnone, hsome⟩ := hshown k (by omega)
                rw [readTokens_cons hvisible' hplain, readTokens_cons hunder (htoken' _), hsome,
                  hnone]
                exact ⟨rfl, rfl⟩

end

/-- The text of a pattern between its anchors. -/
def between (source : List Char) : List Char :=
  ['^', '(', '?', ':'] ++ source ++ closing

/-- The text ends in a comment: whatever is pasted behind it goes unread, even a closing parenthesis
that nothing opens. -/
def endsInComment (source : List Char) : Bool := (tokens? (source ++ closing)).isSome

/-- Only a pattern in which no line ends behind the last hash may end in a comment. -/
theorem mayEndInComment {tokens : List Token} (hread : tokens? source = some tokens)
    (hcomment : endsInComment source = true) : MayEndInComment source := by
  have hlength : (source ++ closing).length + 1 = source.length + 1 + 2 := by
    simp [closing]
  unfold endsInComment tokens? at hcomment
  rw [hlength] at hcomment
  unfold tokens? at hread
  rcases readTokens_pasted (.behind source (List.suffix_refl source)) hread with
    ⟨hmay, -⟩ | hshown
  · exact hmay
  · rw [(hshown _ (Nat.le_refl _)).1] at hcomment
    cases hcomment

theorem readTokens_between (fuel : ℕ) (cs : List Char) :
    readTokens (fuel + 2) {} ('^' :: '(' :: '?' :: ':' :: cs) =
      (readTokens fuel (ScanState.under [{}] {}) cs).map
        ([.item (.look .textStart) 0, .groupStart false] ++ ·) := by
  have hcaret : readToken {} '^' ('(' :: '?' :: ':' :: cs) =
      some (.item (.look .textStart) 0, {}, '(' :: '?' :: ':' :: cs) := rfl
  have hgroup : readToken {} '(' ('?' :: ':' :: cs) =
      some (.groupStart false, ScanState.under [{}] {}, cs) := by
    rfl
  rw [readTokens_cons rfl hcaret, readTokens_cons rfl hgroup, Option.map_map]
  rfl

theorem tokens?_between {source : List Char} {tokens : List Token}
    (hread : tokens? source = some tokens) :
    tokens? (between source) =
      if endsInComment source then none
      else some ([.item (.look .textStart) 0, .groupStart false] ++ (tokens ++ closingTokens)) := by
  have hlength : (between source).length + 1 = source.length + 5 + 2 := by
    simp [between, closing]
  have hprobe : (source ++ closing).length + 1 = source.length + 1 + 2 := by
    simp [closing]
  unfold tokens? at hread
  unfold endsInComment tokens?
  rw [hlength, hprobe]
  rcases readTokens_pasted (.behind source (List.suffix_refl source)) hread with
    ⟨-, hhidden⟩ | hshown
  · rw [(hhidden _ (Nat.le_refl _)).1]
    have hnone := (hhidden (source.length + 5) (by omega)).2
    change readTokens _ {} ('^' :: '(' :: '?' :: ':' :: (source ++ closing)) = _
    rw [readTokens_between, hnone]
    rfl
  · rw [(hshown _ (Nat.le_refl _)).1]
    have hsome := (hshown (source.length + 5) (by omega)).2
    change readTokens _ {} ('^' :: '(' :: '?' :: ':' :: (source ++ closing)) = _
    rw [readTokens_between, hsome]
    rfl

/-! ## Items -/

/-- The open groups inside of further ones. -/
def ParseState.under (base : List GroupFrame) (state : ParseState) : ParseState :=
  { state with outer := state.outer ++ base }

def ParseState.bottom (state : ParseState) : GroupFrame := state.outer.getLastD state.top

theorem captures_getLastD {frame frame' : GroupFrame} (outer : List GroupFrame)
    (h : frame.captures = frame'.captures) :
    (outer.getLastD frame).captures = (outer.getLastD frame').captures := by
  cases outer with
  | nil => exact h
  | cons parent outer => rfl

/-- A token is taken in the same way inside further groups, and leaves the kind of the outermost
group alone. -/
theorem ParseState.step_under {state next : ParseState} {token : Token}
    (h : state.step token = some next) :
    (∀ base, (state.under base).step token = some (next.under base)) ∧
      next.bottom.captures = state.bottom.captures := by
  cases token with
  | item r depth =>
      cases h
      exact ⟨fun base => rfl, captures_getLastD _ rfl⟩
  | flags =>
      cases h
      exact ⟨fun base => rfl, captures_getLastD _ rfl⟩
  | groupStart captures =>
      cases h
      refine ⟨fun base => rfl, ?_⟩
      unfold bottom
      rw [List.getLastD_cons]
  | groupEnd =>
      unfold step at h
      cases houter : state.outer with
      | nil =>
          rw [houter] at h
          cases h
      | cons parent outer =>
          rw [houter] at h
          cases h
          constructor
          · intro base
            simp only [step, under, houter, List.cons_append]
          · unfold bottom
            rw [houter, List.getLastD_cons]
            exact captures_getLastD _ rfl
  | bar =>
      cases h
      exact ⟨fun base => rfl, captures_getLastD _ rfl⟩
  | rounds min max greedy =>
      unfold step at h
      obtain ⟨top, htop, heq⟩ := Option.map_eq_some_iff.mp h
      cases heq
      constructor
      · intro base
        simp only [step, under, htop, Option.map_some]
      · apply captures_getLastD
        unfold GroupFrame.repeatLast? at htop
        split at htop
        · cases htop
        · split_ifs at htop
          cases htop
          rfl

theorem foldlM_step_under {state next : ParseState} {tokens : List Token}
    (h : tokens.foldlM ParseState.step state = some next) :
    (∀ base, tokens.foldlM ParseState.step (state.under base) = some (next.under base)) ∧
      next.bottom.captures = state.bottom.captures := by
  induction tokens generalizing state with
  | nil =>
      cases h
      exact ⟨fun base => rfl, rfl⟩
  | cons token tokens ih =>
      rw [List.foldlM_cons] at h
      obtain ⟨mid, hmid, h⟩ := Option.bind_eq_some_iff.mp h
      obtain ⟨hstep, hcaptures⟩ := ParseState.step_under hmid
      obtain ⟨hfold, hcaptures'⟩ := ih h
      refine ⟨fun base => ?_, hcaptures'.trans hcaptures⟩
      rw [List.foldlM_cons, hstep base]
      exact hfold base

/-- The tokens of a pattern between its anchors make the anchored expression, two levels deeper. -/
theorem ofTokens?_between {tokens : List Token} {item : Item} (h : ofTokens? tokens = some item) :
    ofTokens? ([.item (.look .textStart) 0, .groupStart false] ++ (tokens ++ closingTokens)) =
      some ⟨item.regex.anchored, item.depth + 2, true⟩ := by
  unfold ofTokens? at h
  obtain ⟨state, hstate, hitem⟩ := Option.bind_eq_some_iff.mp h
  split_ifs at hitem with hempty
  cases hitem
  obtain ⟨hfold, hcaptures⟩ := foldlM_step_under hstate
  obtain ⟨top, outer⟩ := state
  obtain rfl : outer = [] := List.isEmpty_iff.mp hempty
  have hplain : top.captures = false := hcaptures
  have hclose : top.close = ⟨top.content.regex, top.content.depth + 1, true⟩ := by
    simp [GroupFrame.close, hplain]
  have hopening : [Token.item (.look .textStart) 0, .groupStart false].foldlM ParseState.step {} =
      some (ParseState.under [{ items := [⟨.look .textStart, 0, true⟩] }] {}) := rfl
  have hclosing : closingTokens.foldlM ParseState.step
      (ParseState.under [{ items := [⟨.look .textStart, 0, true⟩] }] ⟨top, []⟩) =
      some ⟨{ items := [⟨.look .textEnd, 0, true⟩, top.close, ⟨.look .textStart, 0, true⟩] }, []⟩ :=
    rfl
  have hall : ([Token.item (.look .textStart) 0, .groupStart false] ++
      (tokens ++ closingTokens)).foldlM ParseState.step {} =
      some ⟨{ items := [⟨.look .textEnd, 0, true⟩, top.close, ⟨.look .textStart, 0, true⟩] }, []⟩ := by
    rw [List.foldlM_append, hopening, Option.bind_eq_bind, Option.bind_some, List.foldlM_append,
      hfold, Option.bind_eq_bind, Option.bind_some, hclosing]
  unfold ofTokens?
  rw [hall, hclose, Option.bind_eq_bind, Option.bind_some]
  have hdepth : 1 + deepest [⟨.look .textEnd, 0, true⟩,
      ⟨top.content.regex, top.content.depth + 1, true⟩, ⟨.look .textStart, 0, true⟩] =
      top.content.depth + 2 := by
    simp only [deepest, List.map_cons, List.map_nil, List.foldl_cons, List.foldl_nil,
      Nat.max_eq_max]
    omega
  exact congrArg (fun depth => some (⟨top.content.regex.anchored, depth, true⟩ : Item)) hdepth

/-- The item that a pattern is read as. -/
def item? (source : List Char) : Option Item := (tokens? source).bind ofTokens?

theorem parse?_eq_item? (source : List Char) :
    parse? source = (item? source).bind fun item =>
      if item.depth ≤ nestLimit then some item.regex else none := by
  unfold parse? item?
  rw [Option.bind_assoc]
  rfl

/-- A pattern between its anchors is read as the anchored expression, unless it ends in a comment
or is nested too deeply for two more levels. -/
theorem parse?_between {source : List Char} {item : Item} (h : item? source = some item) :
    parse? (between source) =
      if endsInComment source = false ∧ item.depth + 2 ≤ nestLimit then some item.regex.anchored
      else none := by
  obtain ⟨tokens, htokens, hitem⟩ := Option.bind_eq_some_iff.mp h
  rw [parse?_eq_item?]
  unfold item?
  rw [tokens?_between htokens]
  cases endsInComment source with
  | true => simp
  | false =>
      rw [if_neg (by decide), Option.bind_some, ofTokens?_between hitem]
      simp

end RegexInference.Regex
