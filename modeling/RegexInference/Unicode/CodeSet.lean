/-!
# Sets of code points

A set of code points is kept as the ascending list of the places where membership changes: the
first entry begins the first run of members, the second entry ends it, and so on.  A set has only
one such list, so two sets are equal exactly when they have the same members, and every Boolean
combination of two sets is found in one walk along both lists.

The main statement is `contains_combine`: a combination holds a code point exactly when the two
memberships, combined in the same way, say so.
-/

namespace RegexInference.Unicode

/-- Each entry is greater than the one before it. -/
def isAscending : List Nat → Bool
  | a :: b :: rest => a < b && isAscending (b :: rest)
  | _ => true

/-- Whether an odd number of entries of an ascending list lies at or below `code`. -/
def isWithin : List Nat → Nat → Bool
  | [], _ => false
  | bound :: rest, code => bound ≤ code && !isWithin rest code

/-- A set of code points, given by the places where membership changes. -/
structure CodeSet where
  bounds : List Nat
  ascending : isAscending bounds = true
  deriving DecidableEq

/-! ## Ascending lists -/

theorem isAscending_cons {a : Nat} {l : List Nat} :
    isAscending (a :: l) = true ↔ (∀ b ∈ l, a < b) ∧ isAscending l = true := by
  induction l generalizing a with
  | nil => simp [isAscending]
  | cons b rest ih =>
    simp only [isAscending, Bool.and_eq_true, decide_eq_true_eq, List.mem_cons, forall_eq_or_imp]
    constructor
    · rintro ⟨hab, h⟩
      exact ⟨⟨hab, fun c hc => Nat.lt_trans hab ((ih.1 h).1 c hc)⟩, h⟩
    · rintro ⟨⟨hab, _⟩, h⟩
      exact ⟨hab, h⟩

theorem isWithin_eq_false {l : List Nat} {code : Nat} (h : ∀ b ∈ l, code < b) :
    isWithin l code = false := by
  cases l with
  | nil => rfl
  | cons b rest => simp [isWithin, Nat.not_le.2 (h b List.mem_cons_self)]

/-! ## Walking along two lists -/

/-- Steps past the entry `place` if the list begins with it, which changes whether the walk is
inside the set. -/
def crossed (place : Nat) (inside : Bool) : List Nat → Bool × List Nat
  | [] => (inside, [])
  | bound :: rest => if bound = place then (!inside, rest) else (inside, bound :: rest)

/-- What is left to do when only one list has entries: they count if `g` depends on whether the walk
is inside that set. -/
def remaining (g : Bool → Bool) (l : List Nat) : List Nat := if g true = g false then [] else l

/-- Walks along two ascending lists and keeps the places where the value of `f` changes; `inS` and
`inT` say whether the walk is inside the two sets. -/
def mergeBounds (f : Bool → Bool → Bool) :
    (fuel : Nat) → (inS inT : Bool) → (s t : List Nat) → List Nat
  | 0, _, _, _, _ => []
  | _ + 1, inS, _, [], t => remaining (f inS) t
  | _ + 1, _, inT, s, [] => remaining (f · inT) s
  | fuel + 1, inS, inT, a :: s, b :: t =>
    let place := Nat.min a b
    let s' := crossed place inS (a :: s)
    let t' := crossed place inT (b :: t)
    let rest := mergeBounds f fuel s'.1 t'.1 s'.2 t'.2
    if f s'.1 t'.1 = f inS inT then rest else place :: rest

section

variable {place : Nat} {inside : Bool} {l : List Nat}

theorem crossed_subset : ∀ b ∈ (crossed place inside l).2, b ∈ l := by
  intro b hb
  cases l with
  | nil => simp [crossed] at hb
  | cons a rest =>
    by_cases h : a = place
    · simp only [crossed, h, if_true] at hb
      exact List.mem_cons_of_mem _ hb
    · simpa [crossed, h] using hb

theorem crossed_length_le : (crossed place inside l).2.length ≤ l.length := by
  cases l with
  | nil => simp [crossed]
  | cons a rest => by_cases h : a = place <;> simp [crossed, h]

theorem crossed_length_lt {rest : List Nat} :
    (crossed place inside (place :: rest)).2.length < (place :: rest).length := by
  simp [crossed]

theorem crossed_ascending (h : isAscending l = true) :
    isAscending (crossed place inside l).2 = true := by
  cases l with
  | nil => rfl
  | cons a rest =>
    by_cases ha : a = place
    · simpa [crossed, ha] using (isAscending_cons.1 h).2
    · simpa [crossed, ha] using h

/-- Behind a place that no entry precedes, only greater entries are left. -/
theorem crossed_lt (h : isAscending l = true) (hle : ∀ b ∈ l, place ≤ b) :
    ∀ b ∈ (crossed place inside l).2, place < b := by
  intro b hb
  cases l with
  | nil => simp [crossed] at hb
  | cons a rest =>
    by_cases ha : a = place
    · simp only [crossed, ha, if_true] at hb
      exact ha ▸ (isAscending_cons.1 h).1 b hb
    · simp only [crossed, ha, if_false] at hb
      have hpa : place < a := by
        have := hle a List.mem_cons_self
        omega
      rcases List.mem_cons.1 hb with rfl | hb
      · exact hpa
      · exact Nat.lt_trans hpa ((isAscending_cons.1 h).1 b hb)

/-- Stepping past an entry accounts for what it changes further up. -/
theorem crossed_isWithin {code : Nat} (hcode : place ≤ code) :
    ((crossed place inside l).1 != isWithin (crossed place inside l).2 code) =
      (inside != isWithin l code) := by
  cases l with
  | nil => rfl
  | cons a rest =>
    by_cases ha : a = place
    · subst ha
      simp only [crossed, if_true, isWithin, decide_eq_true hcode, Bool.true_and]
      cases inside <;> cases isWithin rest code <;> rfl
    · simp [crossed, ha]

end

/-- No entry of an ascending list lies before a place that its first entry does not precede. -/
theorem le_of_ascending {place a : Nat} {rest : List Nat} (h : isAscending (a :: rest) = true)
    (hplace : place ≤ a) : ∀ b ∈ a :: rest, place ≤ b := by
  intro b hb
  rcases List.mem_cons.1 hb with rfl | hb
  · exact hplace
  · exact Nat.le_of_lt (Nat.lt_of_le_of_lt hplace ((isAscending_cons.1 h).1 b hb))

theorem remaining_subset {g : Bool → Bool} {l : List Nat} : ∀ b ∈ remaining g l, b ∈ l := by
  intro b hb
  unfold remaining at hb
  split at hb
  · simp at hb
  · exact hb

theorem remaining_ascending {g : Bool → Bool} {l : List Nat} (h : isAscending l = true) :
    isAscending (remaining g l) = true := by
  unfold remaining
  split
  · rfl
  · exact h

theorem remaining_isWithin (g : Bool → Bool) (inside : Bool) (l : List Nat) (code : Nat) :
    (g inside != isWithin (remaining g l) code) = g (inside != isWithin l code) := by
  unfold remaining
  split
  · next h => cases inside <;> cases isWithin l code <;> simp [isWithin, h]
  · next h =>
    cases hon : g true <;> cases hoff : g false <;> cases inside <;> cases isWithin l code <;>
      simp_all

section

variable {f : Bool → Bool → Bool} {fuel : Nat} {inS inT : Bool} {s t : List Nat}

theorem mem_mergeBounds {lower : Nat} (hs : ∀ b ∈ s, lower < b) (ht : ∀ b ∈ t, lower < b) :
    ∀ b ∈ mergeBounds f fuel inS inT s t, lower < b := by
  fun_induction mergeBounds f fuel inS inT s t with
  | case1 => simp
  | case2 => exact fun b hb => ht b (remaining_subset b hb)
  | case3 => exact fun b hb => hs b (remaining_subset b hb)
  | case4 fuel inS inT a s b t place s' t' rest _ ih =>
    exact ih (fun c hc => hs c (crossed_subset c hc)) (fun c hc => ht c (crossed_subset c hc))
  | case5 fuel inS inT a s b t place s' t' rest _ ih =>
    intro c hc
    rcases List.mem_cons.1 hc with rfl | hc
    · have ha := hs a List.mem_cons_self
      have hb := ht b List.mem_cons_self
      exact Nat.lt_min.2 ⟨ha, hb⟩
    · exact ih (fun c hc => hs c (crossed_subset c hc)) (fun c hc => ht c (crossed_subset c hc))
        c hc

theorem mergeBounds_ascending (hs : isAscending s = true) (ht : isAscending t = true) :
    isAscending (mergeBounds f fuel inS inT s t) = true := by
  fun_induction mergeBounds f fuel inS inT s t with
  | case1 => rfl
  | case2 => exact remaining_ascending ht
  | case3 => exact remaining_ascending hs
  | case4 fuel inS inT a s b t place s' t' rest _ ih =>
    exact ih (crossed_ascending hs) (crossed_ascending ht)
  | case5 fuel inS inT a s b t place s' t' rest _ ih =>
    have hs' := @crossed_lt _ inS _ hs (le_of_ascending hs (Nat.min_le_left a b))
    have ht' := @crossed_lt _ inT _ ht (le_of_ascending ht (Nat.min_le_right a b))
    exact isAscending_cons.2
      ⟨mem_mergeBounds hs' ht', ih (crossed_ascending hs) (crossed_ascending ht)⟩

theorem mergeBounds_isWithin (hs : isAscending s = true) (ht : isAscending t = true)
    (hfuel : s.length + t.length ≤ fuel) (code : Nat) :
    (f inS inT != isWithin (mergeBounds f fuel inS inT s t) code) =
      f (inS != isWithin s code) (inT != isWithin t code) := by
  induction fuel generalizing inS inT s t with
  | zero =>
    have hs0 : s = [] := List.length_eq_zero_iff.1 (by omega)
    have ht0 : t = [] := List.length_eq_zero_iff.1 (by omega)
    simp [hs0, ht0, mergeBounds, isWithin]
  | succ fuel ih =>
    match s, t with
    | [], t => simpa [mergeBounds, isWithin] using remaining_isWithin (f inS) inT t code
    | a :: s, [] =>
      simpa [mergeBounds, isWithin] using remaining_isWithin (f · inT) inS (a :: s) code
    | a :: s, b :: t =>
      have leS : ∀ c ∈ a :: s, Nat.min a b ≤ c := le_of_ascending hs (Nat.min_le_left a b)
      have leT : ∀ c ∈ b :: t, Nat.min a b ≤ c := le_of_ascending ht (Nat.min_le_right a b)
      have shorter : (crossed (Nat.min a b) inS (a :: s)).2.length +
          (crossed (Nat.min a b) inT (b :: t)).2.length ≤ fuel := by
        have h₁ := @crossed_length_le (Nat.min a b) inS (a :: s)
        have h₂ := @crossed_length_le (Nat.min a b) inT (b :: t)
        rcases Nat.le_total a b with hab | hab
        · have := @crossed_length_lt a inS s
          rw [show Nat.min a b = a from Nat.min_eq_left hab] at h₁ h₂ ⊢
          omega
        · have := @crossed_length_lt b inT t
          rw [show Nat.min a b = b from Nat.min_eq_right hab] at h₁ h₂ ⊢
          omega
      have rest := @ih (crossed (Nat.min a b) inS (a :: s)).1 (crossed (Nat.min a b) inT (b :: t)).1
        (crossed (Nat.min a b) inS (a :: s)).2 (crossed (Nat.min a b) inT (b :: t)).2
        (crossed_ascending hs) (crossed_ascending ht) shorter
      rw [mergeBounds]
      generalize Nat.min a b = place at *
      by_cases hcode : place ≤ code
      · rw [crossed_isWithin hcode, crossed_isWithin hcode] at rest
        rw [← rest]
        split
        · next h => rw [h]
        · next h =>
          simp only [isWithin, decide_eq_true hcode, Bool.true_and]
          revert h
          generalize f _ _ = x
          generalize f _ _ = y
          cases x <;> cases y <;> simp
      · have below : ∀ {l : List Nat}, (∀ b ∈ l, place ≤ b) → isWithin l code = false :=
          fun h => isWithin_eq_false fun b hb => by have := h b hb; omega
        rw [show isWithin (a :: s) code = false from below leS,
          show isWithin (b :: t) code = false from below leT]
        have outside : isWithin (mergeBounds f fuel (crossed place inS (a :: s)).1
            (crossed place inT (b :: t)).1 (crossed place inS (a :: s)).2
            (crossed place inT (b :: t)).2) code = false :=
          isWithin_eq_false fun b hb => by
            have := mem_mergeBounds (crossed_lt hs leS) (crossed_lt ht leT) b hb
            omega
        split
        · simp [outside]
        · simp [isWithin, hcode]

end

/-! ## Sets -/

namespace CodeSet

def contains (s : CodeSet) (code : Nat) : Bool := isWithin s.bounds code

def empty : CodeSet := ⟨[], rfl⟩

def range (first last : Nat) : CodeSet :=
  if h : first < last + 1 then ⟨[first, last + 1], by simp [isAscending, h]⟩ else empty

def single (code : Nat) : CodeSet := range code code

/-- The code points that `f` says belong to the combination, by whether they belong to `s` and
`t`. -/
def combine (f : Bool → Bool → Bool) (s t : CodeSet) : CodeSet :=
  ⟨mergeBounds f (s.bounds.length + t.bounds.length) false false s.bounds t.bounds,
    mergeBounds_ascending s.ascending t.ascending⟩

def union : CodeSet → CodeSet → CodeSet := combine or

def inter : CodeSet → CodeSet → CodeSet := combine and

def diff : CodeSet → CodeSet → CodeSet := combine fun x y => x && !y

def symmDiff : CodeSet → CodeSet → CodeSet := combine xor

def unionAll (sets : List CodeSet) : CodeSet := sets.foldr union empty

/-- The code points of all characters. -/
def full : CodeSet := ⟨[0, 0xD800, 0xE000, 0x110000], by decide⟩

def compl (s : CodeSet) : CodeSet := full.diff s

/-- The runs of members, each by its first and last code point. -/
def runs (s : CodeSet) : List (Nat × Nat) := go s.bounds
where
  go : List Nat → List (Nat × Nat)
    | low :: high :: rest => (low, high - 1) :: go rest
    | _ => []

def codes (s : CodeSet) : List Nat :=
  s.runs.flatMap fun (low, high) => List.range' low (high + 1 - low)

def ofCodes (codes : List Nat) : CodeSet :=
  let bounds := (codes.mergeSort fun a b => a ≤ b).foldr extend []
  if h : isAscending bounds = true then ⟨bounds, h⟩ else empty
where
  /-- Puts a code point in front of a list of bounds none of which lies before it. -/
  extend (code : Nat) : List Nat → List Nat
    | [] => [code, code + 1]
    | low :: rest =>
      if low = code then low :: rest
      else if low = code + 1 then code :: rest
      else code :: (code + 1) :: low :: rest

/-! ## Membership -/

@[simp] theorem contains_empty (code : Nat) : empty.contains code = false := rfl

@[simp] theorem contains_range (first last code : Nat) :
    (range first last).contains code = (decide (first ≤ code) && decide (code ≤ last)) := by
  by_cases h : first < last + 1
  · simp only [range, h, dite_true, contains, isWithin, Bool.not_false, Bool.and_true]
    rw [← decide_not]
    congr 1
    exact decide_eq_decide.2 (by omega)
  · simp only [range, h, dite_false, contains_empty]
    symm
    simp only [Bool.and_eq_false_iff, decide_eq_false_iff_not]
    omega

theorem contains_combine {f : Bool → Bool → Bool} (hf : f false false = false) (s t : CodeSet)
    (code : Nat) : (combine f s t).contains code = f (s.contains code) (t.contains code) := by
  have h := @mergeBounds_isWithin f _ false false _ _ s.ascending t.ascending
    (Nat.le_refl _) code
  simpa [hf, combine, contains] using h

@[simp] theorem contains_union (s t : CodeSet) (code : Nat) :
    (s.union t).contains code = (s.contains code || t.contains code) :=
  contains_combine rfl s t code

@[simp] theorem contains_inter (s t : CodeSet) (code : Nat) :
    (s.inter t).contains code = (s.contains code && t.contains code) :=
  contains_combine rfl s t code

@[simp] theorem contains_diff (s t : CodeSet) (code : Nat) :
    (s.diff t).contains code = (s.contains code && !t.contains code) :=
  contains_combine rfl s t code

@[simp] theorem contains_symmDiff (s t : CodeSet) (code : Nat) :
    (s.symmDiff t).contains code = (s.contains code ^^ t.contains code) :=
  contains_combine rfl s t code

@[simp] theorem contains_compl (s : CodeSet) (code : Nat) :
    s.compl.contains code = (full.contains code && !s.contains code) :=
  contains_diff full s code

theorem contains_unionAll (sets : List CodeSet) (code : Nat) :
    (unionAll sets).contains code = sets.any (·.contains code) := by
  induction sets with
  | nil => rfl
  | cons s rest ih => simp [unionAll, List.any_cons, ← ih]

end CodeSet

end RegexInference.Unicode
