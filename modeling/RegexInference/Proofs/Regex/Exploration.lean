import Mathlib.Data.Finset.Card
import Mathlib.Data.Finset.Prod
import RegexInference.Proofs.Regex.Machine

/-!
# The search finds a match when there is one

The search drops every thread that it met before.  This loses nothing: whatever a thread on record
leads to is on record too or still on the stack, so once the stack is empty no thread on record
accepts.  The fuel suffices, because every thread is put on record once and puts two on the stack
at most.
-/

namespace RegexInference.Regex

/-- The threads that a step leaves behind. -/
def Effect.threads : Effect → List Thread
  | dies => []
  | moves t => [t]
  | forks first second => [first, second]
  | accepts => []

theorem Effect.length_threads_le (e : Effect) : e.threads.length ≤ 2 := by
  cases e with
  | dies | moves | forks | accepts => simp [Effect.threads]

namespace Program

variable {p : Program} {text : Array Char} {t : Thread} {seen : Seen} {stack : List Thread}

theorem leads_succ {stop n : ℕ} :
    p.Leads text stop (n + 1) t ↔
      (p.step text t = .accepts ∧ t.place = stop) ∨
        ∃ u ∈ (p.step text t).threads, p.Leads text stop n u := by
  rw [Leads]
  cases hstep : p.step text t with
  | dies | moves | forks | accepts => simp [Effect.threads]

/-- Threads come from addresses of the program and keep within the text. -/
theorem step_threads {u : Thread} (hu : u ∈ (p.step text t).threads) :
    t.address < p.code.size ∧ (t.place ≤ text.size → u.place ≤ text.size) := by
  unfold step at hu
  cases hcode : p.code[t.address]? with
  | none => simp [hcode, Effect.threads] at hu
  | some instr =>
      refine ⟨(Array.getElem?_eq_some_iff.mp hcode).1, fun hplace => ?_⟩
      cases instr with
      | char set next =>
          cases htext : text[t.place]? with
          | none => simp [hcode, htext, Effect.threads] at hu
          | some c =>
              have hlt := (Array.getElem?_eq_some_iff.mp htext).1
              by_cases hhas : set.has c = true
              · simp only [hcode, htext, hhas, if_true, Effect.threads, List.mem_singleton] at hu
                subst hu
                exact hlt
              · simp [hcode, htext, hhas, Effect.threads] at hu
      | check look next =>
          by_cases hholds : look.holds text t.place = true
          · simp only [hcode, hholds, if_true, Effect.threads, List.mem_singleton] at hu
            subst hu
            exact hplace
          · simp [hcode, hholds, Effect.threads] at hu
      | fork first second =>
          simp only [hcode, Effect.threads, List.mem_cons, List.not_mem_nil, or_false] at hu
          rcases hu with rfl | rfl
          · exact hplace
          · exact hplace
      | jump next =>
          simp only [hcode, Effect.threads, List.mem_singleton] at hu
          subst hu
          exact hplace
      | accept => simp [hcode, Effect.threads] at hu

/-! ## One step of the search -/

theorem explore_of_mem (fuel : ℕ) (hmem : t ∈ seen) :
    p.explore text (fuel + 1) (t :: stack) seen = p.explore text fuel stack seen := by
  rw [explore, if_pos (Std.HashSet.mem_iff_contains.mp hmem)]

theorem explore_of_accepts (fuel : ℕ) (hmem : t ∉ seen) (hstep : p.step text t = .accepts) :
    p.explore text (fuel + 1) (t :: stack) seen = (some t.place, seen) := by
  rw [explore, if_neg (mt Std.HashSet.mem_iff_contains.mpr hmem), hstep]

theorem explore_of_not_accepts (fuel : ℕ) (hmem : t ∉ seen) (hstep : p.step text t ≠ .accepts) :
    p.explore text (fuel + 1) (t :: stack) seen =
      p.explore text fuel ((p.step text t).threads ++ stack) (seen.insert t) := by
  rw [explore, if_neg (mt Std.HashSet.mem_iff_contains.mpr hmem)]
  cases heffect : p.step text t with
  | accepts => exact absurd heffect hstep
  | dies | moves | forks => rfl

/-! ## What is found -/

/-- A place that the search returns is one where a thread on the stack accepts. -/
theorem explore_sound (fuel : ℕ) (stack : List Thread) (seen : Seen) {stop : ℕ}
    (hfound : (p.explore text fuel stack seen).1 = some stop) :
    ∃ t ∈ stack, ∃ n, p.Leads text stop n t := by
  induction fuel generalizing stack seen with
  | zero => simp [explore] at hfound
  | succ fuel ih =>
      cases stack with
      | nil => simp [explore] at hfound
      | cons t stack =>
          by_cases hmem : t ∈ seen
          · rw [explore_of_mem fuel hmem] at hfound
            obtain ⟨u, hu, hleads⟩ := ih stack seen hfound
            exact ⟨u, List.mem_cons_of_mem t hu, hleads⟩
          · by_cases hstep : p.step text t = .accepts
            · rw [explore_of_accepts fuel hmem hstep] at hfound
              refine ⟨t, List.mem_cons_self, 1, leads_succ.mpr (Or.inl ⟨hstep, ?_⟩)⟩
              exact Option.some.inj hfound
            · rw [explore_of_not_accepts fuel hmem hstep] at hfound
              obtain ⟨u, hu, n, hleads⟩ := ih _ _ hfound
              rcases List.mem_append.mp hu with hu | hu
              · exact ⟨t, List.mem_cons_self, n + 1, leads_succ.mpr (Or.inr ⟨u, hu, hleads⟩)⟩
              · exact ⟨u, List.mem_cons_of_mem t hu, n, hleads⟩

/-! ## What is not missed -/

/-- No thread on record accepts, and what a thread on record leaves behind is on record or still on
the stack. -/
def Settled (p : Program) (text : Array Char) (seen : Seen) (stack : List Thread) : Prop :=
  ∀ t ∈ seen, p.step text t ≠ .accepts ∧ ∀ u ∈ (p.step text t).threads, u ∈ seen ∨ u ∈ stack

theorem settled_empty : p.Settled text ∅ stack :=
  fun _ ht => absurd ht Std.HashSet.not_mem_empty

theorem Settled.mono {stack' : List Thread} (h : p.Settled text seen stack)
    (hstack : ∀ u ∈ stack, u ∈ seen ∨ u ∈ stack') : p.Settled text seen stack' := by
  intro t ht
  obtain ⟨haccepts, hthreads⟩ := h t ht
  refine ⟨haccepts, fun u hu => ?_⟩
  rcases hthreads u hu with hseen | hu
  · exact Or.inl hseen
  · exact hstack u hu

theorem Settled.insert (h : p.Settled text seen (t :: stack))
    (hstep : p.step text t ≠ .accepts) :
    p.Settled text (seen.insert t) ((p.step text t).threads ++ stack) := by
  intro u hu
  rw [Std.HashSet.mem_insert, beq_iff_eq] at hu
  rcases hu with rfl | hu
  · exact ⟨hstep, fun v hv => Or.inr (List.mem_append_left _ hv)⟩
  · obtain ⟨haccepts, hthreads⟩ := h u hu
    refine ⟨haccepts, fun v hv => ?_⟩
    rw [Std.HashSet.mem_insert, beq_iff_eq]
    rcases hthreads v hv with hseen | hv
    · exact Or.inl (Or.inr hseen)
    · rcases List.mem_cons.mp hv with rfl | hv
      · exact Or.inl (Or.inl rfl)
      · exact Or.inr (List.mem_append_right _ hv)

/-- Once the stack is empty, no thread on record leads anywhere. -/
theorem Settled.not_leads (h : p.Settled text seen []) {stop n : ℕ} (ht : t ∈ seen) :
    ¬ p.Leads text stop n t := by
  induction n generalizing t with
  | zero => exact not_leads_zero
  | succ n ih =>
      obtain ⟨haccepts, hthreads⟩ := h t ht
      rw [leads_succ]
      rintro (⟨hstep, -⟩ | ⟨u, hu, hleads⟩)
      · exact haccepts hstep
      · exact ih ((hthreads u hu).resolve_right List.not_mem_nil) hleads

/-- The threads within the program and the text that are not yet on record. -/
def unseen (p : Program) (text : Array Char) (seen : Seen) : Finset (ℕ × ℕ) :=
  (Finset.range p.code.size ×ˢ Finset.range (text.size + 1)).filter fun q => ⟨q.1, q.2⟩ ∉ seen

theorem card_unseen_le (p : Program) (text : Array Char) (seen : Seen) :
    (p.unseen text seen).card ≤ p.code.size * (text.size + 1) := by
  refine (Finset.card_filter_le _ _).trans ?_
  rw [Finset.card_product, Finset.card_range, Finset.card_range]

theorem unseen_insert_subset : p.unseen text (seen.insert t) ⊆ p.unseen text seen := by
  intro q hq
  obtain ⟨hrange, hnew⟩ := Finset.mem_filter.mp hq
  refine Finset.mem_filter.mpr ⟨hrange, fun hseen => hnew ?_⟩
  exact Std.HashSet.mem_insert.mpr (Or.inr hseen)

theorem card_unseen_insert_lt (haddress : t.address < p.code.size) (hplace : t.place ≤ text.size)
    (hmem : t ∉ seen) : (p.unseen text (seen.insert t)).card < (p.unseen text seen).card := by
  apply Finset.card_lt_card
  refine ⟨unseen_insert_subset, fun hsubset => ?_⟩
  have hold : (t.address, t.place) ∈ p.unseen text seen := by
    simp only [unseen, Finset.mem_filter, Finset.mem_product, Finset.mem_range]
    exact ⟨⟨haddress, by omega⟩, hmem⟩
  obtain ⟨-, hnew⟩ := Finset.mem_filter.mp (hsubset hold)
  exact hnew (Std.HashSet.mem_insert_self)

/-- A step puts at most two threads on the stack, and only when it takes one off those unseen. -/
theorem stack_add_unseen_lt (p : Program) (stack : List Thread) (hplace : t.place ≤ text.size)
    (hmem : t ∉ seen) :
    ((p.step text t).threads ++ stack).length + 2 * (p.unseen text (seen.insert t)).card <
      (t :: stack).length + 2 * (p.unseen text seen).card := by
  rw [List.length_append, List.length_cons]
  cases hthreads : (p.step text t).threads with
  | nil =>
      have hcard : (p.unseen text (seen.insert t)).card ≤ (p.unseen text seen).card :=
        Finset.card_le_card unseen_insert_subset
      rw [List.length_nil]
      omega
  | cons u us =>
      have hu : u ∈ (p.step text t).threads := hthreads ▸ List.mem_cons_self
      have haddress := (step_threads hu).1
      have := card_unseen_insert_lt haddress hplace hmem
      have := (p.step text t).length_threads_le
      rw [hthreads] at this
      omega

/-- A search that comes to nothing settles all threads on its stack. -/
theorem explore_settled (fuel : ℕ) (stack : List Thread) (seen : Seen)
    (hfuel : stack.length + 2 * (p.unseen text seen).card < fuel)
    (hplace : ∀ t ∈ stack, t.place ≤ text.size) (hsettled : p.Settled text seen stack)
    (hnone : (p.explore text fuel stack seen).1 = none) :
    p.Settled text (p.explore text fuel stack seen).2 [] ∧
      ∀ t, t ∈ seen ∨ t ∈ stack → t ∈ (p.explore text fuel stack seen).2 := by
  induction fuel generalizing stack seen with
  | zero => omega
  | succ fuel ih =>
      cases stack with
      | nil =>
          rw [explore]
          exact ⟨hsettled, fun t ht => ht.resolve_right List.not_mem_nil⟩
      | cons t stack =>
          obtain ⟨hplace, hstack⟩ := List.forall_mem_cons.mp hplace
          by_cases hmem : t ∈ seen
          · rw [explore_of_mem fuel hmem] at hnone ⊢
            rw [List.length_cons] at hfuel
            have hrest : p.Settled text seen stack := by
              refine hsettled.mono fun u hu => ?_
              rcases List.mem_cons.mp hu with rfl | hu
              · exact Or.inl hmem
              · exact Or.inr hu
            obtain ⟨hfinal, hkept⟩ := ih stack seen (by omega) hstack hrest hnone
            refine ⟨hfinal, fun u hu => hkept u ?_⟩
            rcases hu with hu | hu
            · exact Or.inl hu
            · rcases List.mem_cons.mp hu with rfl | hu
              · exact Or.inl hmem
              · exact Or.inr hu
          · by_cases hstep : p.step text t = .accepts
            · rw [explore_of_accepts fuel hmem hstep] at hnone
              cases hnone
            · rw [explore_of_not_accepts fuel hmem hstep] at hnone ⊢
              have hless := stack_add_unseen_lt p stack hplace hmem
              have hplaces : ∀ u ∈ (p.step text t).threads ++ stack, u.place ≤ text.size := by
                intro u hu
                rcases List.mem_append.mp hu with hu | hu
                · exact (step_threads hu).2 hplace
                · exact hstack u hu
              obtain ⟨hfinal, hkept⟩ :=
                ih _ _ (by omega) hplaces (hsettled.insert hstep) hnone
              refine ⟨hfinal, fun u hu => hkept u ?_⟩
              rw [Std.HashSet.mem_insert, beq_iff_eq]
              rcases hu with hu | hu
              · exact Or.inl (Or.inr hu)
              · rcases List.mem_cons.mp hu with rfl | hu
                · exact Or.inl (Or.inl rfl)
                · exact Or.inr (List.mem_append_right _ hu)

/-! ## Looking for a start -/

theorem length_add_unseen_lt_fuel (t : Thread) (seen : Seen) :
    [t].length + 2 * (p.unseen text seen).card < p.fuel text := by
  have := card_unseen_le p text seen
  unfold fuel
  rw [List.length_singleton]
  omega

/-- A start from which nothing is found is settled for good. -/
theorem explore_start {start : ℕ} (hstart : start ≤ text.size) (hsettled : p.Settled text seen [])
    (hnone : (p.explore text (p.fuel text) [⟨0, start⟩] seen).1 = none) :
    p.Settled text (p.explore text (p.fuel text) [⟨0, start⟩] seen).2 [] ∧
      ∀ stop n, ¬ p.Leads text stop n ⟨0, start⟩ := by
  obtain ⟨hfinal, hkept⟩ :=
    explore_settled (p.fuel text) [⟨0, start⟩] seen (length_add_unseen_lt_fuel _ seen)
      (fun t ht => List.mem_singleton.mp ht ▸ hstart)
      (hsettled.mono fun u hu => absurd hu List.not_mem_nil) hnone
  exact ⟨hfinal, fun stop n => hfinal.not_leads (hkept _ (Or.inr List.mem_cons_self))⟩

theorem searchFrom_eq_some (count start : ℕ) (seen : Seen) {i j : ℕ}
    (hfound : p.searchFrom text count start seen = some (i, j)) :
    i ≤ start + count ∧ ∃ n, p.Leads text j n ⟨0, i⟩ := by
  have hhere : ∀ {start seen stop},
      (p.explore text (p.fuel text) [⟨0, start⟩] seen).1 = some stop →
        ∃ n, p.Leads text stop n ⟨0, start⟩ := by
    intro start seen stop h
    obtain ⟨t, ht, n, hleads⟩ := explore_sound _ _ _ h
    exact ⟨n, List.mem_singleton.mp ht ▸ hleads⟩
  induction count generalizing start seen with
  | zero =>
      rw [searchFrom, Option.map_eq_some_iff] at hfound
      obtain ⟨stop, hstop, hpair⟩ := hfound
      cases hpair
      exact ⟨Nat.le_refl _, hhere hstop⟩
  | succ count ih =>
      rw [searchFrom] at hfound
      cases hexplore : p.explore text (p.fuel text) [⟨0, start⟩] seen with
      | mk found seen' =>
          rw [hexplore] at hfound
          cases found with
          | none =>
              obtain ⟨hle, hleads⟩ := ih (start + 1) seen' hfound
              exact ⟨by omega, hleads⟩
          | some stop =>
              cases hfound
              exact ⟨by omega, hhere (congrArg Prod.fst hexplore)⟩

theorem searchFrom_eq_none (count start : ℕ) (seen : Seen) (hend : start + count ≤ text.size)
    (hsettled : p.Settled text seen []) (hnone : p.searchFrom text count start seen = none)
    {i : ℕ} (hstart : start ≤ i) (hi : i ≤ start + count) (stop n : ℕ) :
    ¬ p.Leads text stop n ⟨0, i⟩ := by
  induction count generalizing start seen with
  | zero =>
      obtain rfl : start = i := by omega
      rw [searchFrom, Option.map_eq_none_iff] at hnone
      exact (explore_start (by omega) hsettled hnone).2 stop n
  | succ count ih =>
      rw [searchFrom] at hnone
      cases hexplore : p.explore text (p.fuel text) [⟨0, start⟩] seen with
      | mk found seen' =>
          rw [hexplore] at hnone
          cases found with
          | some stop => cases hnone
          | none =>
              obtain ⟨hfinal, hhere⟩ :=
                explore_start (by omega : start ≤ text.size) hsettled (congrArg Prod.fst hexplore)
              rw [hexplore] at hfinal
              rcases Nat.eq_or_lt_of_le hstart with rfl | hlt
              · exact hhere stop n
              · exact ih (start + 1) seen' (by omega) hfinal hnone hlt (by omega)

end Program

/-! ## The program of an expression -/

variable {r : Regex} {text : Array Char}

theorem find?_eq_some {start i j : ℕ} (hfound : r.toProgram.find? text start = some (i, j)) :
    i ≤ text.size ∧ r.Matches text i j := by
  unfold Program.find? at hfound
  split_ifs at hfound with hstart
  obtain ⟨hle, hleads⟩ := Program.searchFrom_eq_some _ _ _ hfound
  exact ⟨by omega, (leads_toProgram r).mp hleads⟩

/-- A program accepts the texts of which the expression matches some part. -/
theorem accepts_iff :
    r.toProgram.accepts text = true ↔ ∃ i j, i ≤ text.size ∧ r.Matches text i j := by
  unfold Program.accepts
  cases hfind : r.toProgram.find? text 0 with
  | some found => exact ⟨fun _ => ⟨found.1, found.2, find?_eq_some hfind⟩, fun _ => rfl⟩
  | none =>
      simp only [Option.isSome_none, Bool.false_eq_true, false_iff]
      rintro ⟨i, j, hi, hmatches⟩
      obtain ⟨n, hleads⟩ := (leads_toProgram r).mpr hmatches
      unfold Program.find? at hfind
      rw [if_pos (Nat.zero_le _)] at hfind
      exact Program.searchFrom_eq_none _ _ _ (by omega) Program.settled_empty hfind
        (Nat.zero_le i) (by omega) j n hleads

/-- Between its anchors an expression is accepted where it matches the whole text. -/
theorem accepts_anchored_iff :
    r.anchored.toProgram.accepts text = true ↔ r.Matches text 0 text.size := by
  rw [accepts_iff]
  constructor
  · rintro ⟨i, j, -, hmatches⟩
    exact ((matches_anchored r).mp hmatches).2.2
  · intro h
    exact ⟨0, text.size, Nat.zero_le _, (matches_anchored r).mpr ⟨rfl, rfl, h⟩⟩

end RegexInference.Regex
