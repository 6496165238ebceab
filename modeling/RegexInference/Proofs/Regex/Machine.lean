import Mathlib.Data.Nat.Init
import Mathlib.Order.Basic
import RegexInference.Proofs.Regex.Language
import RegexInference.Regex.Search

/-!
# The machine matches what the expression matches

A thread leads to a place if some way of following it accepts there.  A block of code turns the
question for its first address into one for the address it is left for, and the places change as
the expression says.  All blocks are shown to do so by one induction over expressions; in the loops
it is the number of steps left that falls.
-/

namespace RegexInference.Regex

/-! ## Code in its place -/

/-- The program holds the code from an address on. -/
def Program.CodeAt (p : Program) (start : ℕ) (code : List Instr) : Prop :=
  ∀ k instr, code[k]? = some instr → p.code[start + k]? = some instr

namespace Program.CodeAt

variable {p : Program} {start : ℕ} {instr : Instr} {code more : List Instr}

theorem head (h : p.CodeAt start (instr :: code)) : p.code[start]? = some instr := by
  simpa using h 0 instr rfl

theorem tail (h : p.CodeAt start (instr :: code)) : p.CodeAt (start + 1) code := by
  intro k i hk
  have := h (k + 1) i (by simpa using hk)
  rwa [Nat.add_assoc, Nat.add_comm 1 k]

theorem left (h : p.CodeAt start (code ++ more)) : p.CodeAt start code := by
  intro k i hk
  obtain ⟨hlt, -⟩ := List.getElem?_eq_some_iff.mp hk
  exact h k i (by rwa [List.getElem?_append_left hlt])

theorem right (h : p.CodeAt start (code ++ more)) : p.CodeAt (start + code.length) more := by
  intro k i hk
  have := h (code.length + k) i (by simpa [List.getElem?_append_right] using hk)
  rwa [Nat.add_assoc]

end Program.CodeAt

theorem inARow_succ (block : (start next : ℕ) → List Instr) (size n start : ℕ) :
    inARow block size (n + 1) start =
      block start (start + size) ++ inARow block size n (start + size) := by
  unfold inARow
  have hshift : ∀ i, start + (i + 1) * size = start + size + i * size := by
    intro i
    rw [Nat.succ_mul]
    omega
  rw [List.range_succ_eq_map, List.flatMap_cons, List.flatMap_map]
  simp only [Nat.succ_eq_add_one, hshift, Nat.zero_mul, Nat.add_zero]

theorem length_inARow {block : (start next : ℕ) → List Instr} {size : ℕ}
    (hsize : ∀ start next, (block start next).length = size) (n start : ℕ) :
    (inARow block size n start).length = n * size := by
  induction n generalizing start with
  | zero => simp [inARow]
  | succ n ih =>
      rw [inARow_succ, List.length_append, hsize, ih, Nat.succ_mul]
      omega

/-- Every block has the size that addresses are computed with. -/
theorem length_code (r : Regex) (start next : ℕ) : (r.code start next).length = r.codeSize := by
  induction r generalizing start next with
  | empty | chars | look => rfl
  | seq r s ihr ihs => simp [code, codeSize, ihr, ihs]
  | alt r s ihr ihs =>
      simp only [code, codeSize, List.length_cons, List.length_append, ihr, ihs]
      omega
  | rounds r min max greedy ih =>
      cases max with
      | none =>
          cases min with
          | zero =>
              cases hadvances : r.alwaysAdvances with
              | true => simp [code, codeSize, hadvances, ih]
              | false => simp [code, codeSize, hadvances, ih, loop]
          | succ n =>
              simp only [code, codeSize, loop, List.length_append, length_inARow ih, ih,
                List.length_singleton, Nat.succ_ne_zero, if_false, Nat.succ_mul]
              omega
      | some max =>
          have hround : ∀ start behind,
              (choice greedy (start + 1) next :: r.code (start + 1) behind).length =
                r.codeSize + 1 := by
            intro start behind
            rw [List.length_cons, ih]
          simp only [code, codeSize, upTo, List.length_append, length_inARow ih,
            length_inARow hround, List.length_singleton]
          omega
  | group r ih => exact ih start next

/-! ## Threads that accept -/

namespace Program

/-- Within so many steps the thread accepts at place `stop`. -/
def Leads (p : Program) (text : Array Char) (stop : ℕ) : ℕ → Thread → Prop
  | 0, _ => False
  | n + 1, t =>
    match p.step text t with
    | .dies => False
    | .moves next => p.Leads text stop n next
    | .forks first second => p.Leads text stop n first ∨ p.Leads text stop n second
    | .accepts => t.place = stop

variable {p : Program} {text : Array Char} {stop n a i : ℕ}

theorem not_leads_zero {t : Thread} : ¬ p.Leads text stop 0 t := id

theorem leads_char {set : Unicode.CodeSet} {next : ℕ}
    (hcode : p.code[a]? = some (.char set next)) :
    p.Leads text stop (n + 1) ⟨a, i⟩ ↔
      (∃ c, text[i]? = some c ∧ set.has c = true) ∧ p.Leads text stop n ⟨next, i + 1⟩ := by
  rw [Leads]
  simp only [step, hcode]
  cases text[i]? with
  | none => simp
  | some c =>
      by_cases hhas : set.has c = true
      · simp [hhas]
      · simp [hhas]

theorem leads_check {look : Look} {next : ℕ} (hcode : p.code[a]? = some (.check look next)) :
    p.Leads text stop (n + 1) ⟨a, i⟩ ↔
      look.holds text i = true ∧ p.Leads text stop n ⟨next, i⟩ := by
  rw [Leads]
  simp only [step, hcode]
  by_cases hholds : look.holds text i = true
  · simp [hholds]
  · simp [hholds]

theorem leads_jump {next : ℕ} (hcode : p.code[a]? = some (.jump next)) :
    p.Leads text stop (n + 1) ⟨a, i⟩ ↔ p.Leads text stop n ⟨next, i⟩ := by
  rw [Leads]
  simp only [step, hcode]

theorem leads_fork {first second : ℕ} (hcode : p.code[a]? = some (.fork first second)) :
    p.Leads text stop (n + 1) ⟨a, i⟩ ↔
      p.Leads text stop n ⟨first, i⟩ ∨ p.Leads text stop n ⟨second, i⟩ := by
  rw [Leads]
  simp only [step, hcode]

/-- Greed decides between two ways, but takes none away. -/
theorem leads_choice {greedy : Bool} {go leave : ℕ}
    (hcode : p.code[a]? = some (choice greedy go leave)) :
    p.Leads text stop (n + 1) ⟨a, i⟩ ↔
      p.Leads text stop n ⟨go, i⟩ ∨ p.Leads text stop n ⟨leave, i⟩ := by
  cases greedy with
  | true => exact leads_fork hcode
  | false => exact (leads_fork hcode).trans or_comm

theorem leads_accept (hcode : p.code[a]? = some .accept) :
    p.Leads text stop (n + 1) ⟨a, i⟩ ↔ i = stop := by
  rw [Leads]
  simp only [step, hcode]

/-! ## Blocks -/

/-- A thread at `start` accepts where a thread at `next` does that is related to it.  The way from
the one to the other takes its share of the steps. -/
structure Runs (p : Program) (text : Array Char) (start next : ℕ) (R : ℕ → ℕ → Prop) : Prop where
  sound : ∀ {stop n i}, p.Leads text stop n ⟨start, i⟩ →
    ∃ m ≤ n, ∃ j, R i j ∧ p.Leads text stop m ⟨next, j⟩
  complete : ∀ {stop n i j}, R i j → p.Leads text stop n ⟨next, j⟩ →
    ∃ m, p.Leads text stop m ⟨start, i⟩

namespace Runs

variable {start mid next : ℕ} {R S : ℕ → ℕ → Prop}

/-- A block that is entered by one step, behind which both sides are known. -/
theorem of_step (hstep : ∀ {stop n i}, p.Leads text stop (n + 1) ⟨start, i⟩ ↔
      ∃ j, R i j ∧ p.Leads text stop n ⟨next, j⟩) :
    p.Runs text start next R where
  sound := by
    intro stop n i h
    cases n with
    | zero => exact absurd h not_leads_zero
    | succ n =>
        obtain ⟨j, hR, hj⟩ := hstep.mp h
        exact ⟨n, Nat.le_succ n, j, hR, hj⟩
  complete := by
    intro stop n i j hR hj
    exact ⟨n + 1, hstep.mpr ⟨j, hR, hj⟩⟩

theorem congr (h : p.Runs text start next R) (hRS : ∀ i j, R i j ↔ S i j) :
    p.Runs text start next S := by
  obtain rfl : R = S := by
    funext i j
    exact propext (hRS i j)
  exact h

theorem refl : p.Runs text start start Eq where
  sound := fun h => ⟨_, Nat.le_refl _, _, rfl, h⟩
  complete := by
    rintro stop n i j rfl h
    exact ⟨n, h⟩

theorem trans (hR : p.Runs text start mid R) (hS : p.Runs text mid next S) :
    p.Runs text start next (fun i j => ∃ k, R i k ∧ S k j) where
  sound := by
    intro stop n i h
    obtain ⟨m, hm, k, hik, hk⟩ := hR.sound h
    obtain ⟨l, hl, j, hkj, hj⟩ := hS.sound hk
    exact ⟨l, Nat.le_trans hl hm, j, ⟨k, hik, hkj⟩, hj⟩
  complete := by
    rintro stop n i j ⟨k, hik, hkj⟩ hj
    obtain ⟨m, hm⟩ := hS.complete hkj hj
    exact hR.complete hik hm

/-- A choice between two blocks that are left for the same address. -/
theorem fork {first second : ℕ} (hcode : p.code[start]? = some (.fork first second))
    (hR : p.Runs text first next R) (hS : p.Runs text second next S) :
    p.Runs text start next (fun i j => R i j ∨ S i j) where
  sound := by
    intro stop n i h
    cases n with
    | zero => exact absurd h not_leads_zero
    | succ n =>
        rcases (leads_fork hcode).mp h with h | h
        · obtain ⟨m, hm, j, hij, hj⟩ := hR.sound h
          exact ⟨m, Nat.le_succ_of_le hm, j, Or.inl hij, hj⟩
        · obtain ⟨m, hm, j, hij, hj⟩ := hS.sound h
          exact ⟨m, Nat.le_succ_of_le hm, j, Or.inr hij, hj⟩
  complete := by
    rintro stop n i j (hij | hij) hj
    · obtain ⟨m, hm⟩ := hR.complete hij hj
      exact ⟨m + 1, (leads_fork hcode).mpr (Or.inl hm)⟩
    · obtain ⟨m, hm⟩ := hS.complete hij hj
      exact ⟨m + 1, (leads_fork hcode).mpr (Or.inr hm)⟩

theorem choice {greedy : Bool} {go : ℕ}
    (hcode : p.code[start]? = some (Regex.choice greedy go next))
    (hR : p.Runs text go next R) : p.Runs text start next (fun i j => R i j ∨ i = j) := by
  cases greedy with
  | true => exact fork hcode hR refl
  | false => exact (fork hcode refl hR).congr fun i j => or_comm

/-- A choice behind a block that leads back to it makes for any number of rounds, one at least. -/
theorem loop {greedy : Bool} (hR : p.Runs text start mid R)
    (hcode : p.code[mid]? = some (Regex.choice greedy start next)) :
    p.Runs text start next (fun i j => ∃ n, 1 ≤ n ∧ Iterate R n i j) where
  sound := by
    intro stop n i h
    induction n using Nat.strongRecOn generalizing i with
    | _ n ih =>
        obtain ⟨m, hm, k, hik, hk⟩ := hR.sound h
        cases m with
        | zero => exact absurd hk not_leads_zero
        | succ m =>
            rcases (leads_choice hcode).mp hk with hk | hk
            · obtain ⟨l, hl, j, ⟨rounds, hrounds, hkj⟩, hj⟩ := ih m (by omega) hk
              exact ⟨l, by omega, j, ⟨rounds + 1, by omega, k, hik, hkj⟩, hj⟩
            · exact ⟨m, by omega, k, ⟨1, Nat.le_refl 1, iterate_one.mpr hik⟩, hk⟩
  complete := by
    rintro stop n i j ⟨rounds, hrounds, hij⟩ hj
    induction rounds, hrounds using Nat.le_induction generalizing i with
    | base =>
        exact hR.complete (iterate_one.mp hij) ((leads_choice hcode).mpr (Or.inr hj))
    | succ rounds hrounds ih =>
        obtain ⟨k, hik, hkj⟩ := hij
        obtain ⟨m, hm⟩ := ih hkj
        exact hR.complete hik ((leads_choice hcode).mpr (Or.inl hm))

/-- A choice before a block that leads back to it makes for any number of rounds. -/
theorem star {greedy : Bool} {go : ℕ}
    (hcode : p.code[start]? = some (Regex.choice greedy go next))
    (hR : p.Runs text go start R) :
    p.Runs text start next (fun i j => ∃ n, Iterate R n i j) where
  sound := by
    intro stop n i h
    induction n using Nat.strongRecOn generalizing i with
    | _ n ih =>
        cases n with
        | zero => exact absurd h not_leads_zero
        | succ n =>
            rcases (leads_choice hcode).mp h with h | h
            · obtain ⟨m, hm, k, hik, hk⟩ := hR.sound h
              obtain ⟨l, hl, j, ⟨rounds, hkj⟩, hj⟩ := ih m (by omega) hk
              exact ⟨l, by omega, j, ⟨rounds + 1, k, hik, hkj⟩, hj⟩
            · exact ⟨n, by omega, i, ⟨0, rfl⟩, h⟩
  complete := by
    rintro stop n i j ⟨rounds, hij⟩ hj
    induction rounds generalizing i with
    | zero =>
        obtain rfl : i = j := hij
        exact ⟨n + 1, (leads_choice hcode).mpr (Or.inr hj)⟩
    | succ rounds ih =>
        obtain ⟨k, hik, hkj⟩ := hij
        obtain ⟨m, hm⟩ := ih hkj
        obtain ⟨l, hl⟩ := hR.complete hik hm
        exact ⟨l + 1, (leads_choice hcode).mpr (Or.inl hl)⟩

section

variable {block : (start next : ℕ) → List Instr} {size : ℕ}
  (hblock : ∀ start next, p.CodeAt start (block start next) → p.Runs text start next R)
  (hsize : ∀ start next, (block start next).length = size)

include hblock hsize

theorem inARow (rounds start : ℕ) (hcode : p.CodeAt start (inARow block size rounds start)) :
    p.Runs text start (start + rounds * size) (Iterate R rounds) := by
  induction rounds generalizing start with
  | zero =>
      rw [Nat.zero_mul]
      exact refl
  | succ rounds ih =>
      rw [inARow_succ] at hcode
      have hrest := hcode.right
      rw [hsize] at hrest
      have hend : start + (rounds + 1) * size = start + size + rounds * size := by
        rw [Nat.succ_mul]
        omega
      rw [hend]
      exact (hblock _ _ hcode.left).trans (ih _ hrest)

theorem upTo {greedy : Bool} (rounds start : ℕ)
    (hcode : p.CodeAt start (upTo block size greedy next rounds start)) :
    p.Runs text start next (fun i j => ∃ n ≤ rounds, Iterate R n i j) := by
  unfold Regex.upTo at hcode
  induction rounds generalizing start with
  | zero =>
      have hjump : p.code[start]? = some (.jump next) := hcode.head
      refine of_step fun {stop n i} => (leads_jump hjump).trans ?_
      constructor
      · intro h
        exact ⟨i, ⟨0, Nat.le_refl 0, rfl⟩, h⟩
      · rintro ⟨j, ⟨n, hn, hij⟩, h⟩
        obtain rfl : n = 0 := by omega
        obtain rfl : i = j := hij
        exact h
  | succ rounds ih =>
      rw [inARow_succ, List.append_assoc] at hcode
      have hrest := hcode.right
      rw [List.length_cons, hsize] at hrest
      refine (choice hcode.head ((hblock _ _ hcode.left.tail).trans (ih _ hrest))).congr ?_
      intro i j
      constructor
      · rintro (⟨k, hik, n, hn, hkj⟩ | rfl)
        · exact ⟨n + 1, by omega, k, hik, hkj⟩
        · exact ⟨0, by omega, rfl⟩
      · rintro ⟨n, hn, hij⟩
        cases n with
        | zero => exact Or.inr hij
        | succ n =>
            obtain ⟨k, hik, hkj⟩ := hij
            exact Or.inl ⟨k, hik, n, by omega, hkj⟩

end

section

variable {r : Regex} {greedy : Bool}
  (ih : ∀ start next, p.CodeAt start (r.code start next) →
    p.Runs text start next (r.Matches text))

include ih

/-- Without rounds that have to take place the loop may be left at once. -/
theorem rounds_any (hcode : p.CodeAt start ((rounds r 0 none greedy).code start next)) :
    p.Runs text start next ((rounds r 0 none greedy).Matches text) := by
  unfold Regex.code at hcode
  cases hadvances : r.alwaysAdvances with
  | true =>
      rw [hadvances, if_pos rfl] at hcode
      refine (star hcode.head (ih _ _ hcode.tail)).congr ?_
      simp [matches_rounds_none]
  | false =>
      rw [hadvances, if_neg (by decide)] at hcode
      have hbody := hcode.tail
      unfold Regex.loop at hbody
      have hback := hbody.right.head
      rw [length_code] at hback
      refine (choice hcode.head (loop (ih _ _ hbody.left) hback)).congr ?_
      intro i j
      simp only [matches_rounds_none, Nat.zero_le, true_and]
      constructor
      · rintro (⟨n, -, hij⟩ | hij)
        · exact ⟨n, hij⟩
        · exact ⟨0, hij⟩
      · rintro ⟨n, hij⟩
        cases n with
        | zero => exact Or.inr hij
        | succ n => exact Or.inl ⟨n + 1, by omega, hij⟩

/-- The last round that has to take place is the one that is repeated. -/
theorem rounds_atLeast {min : ℕ}
    (hcode : p.CodeAt start ((rounds r (min + 1) none greedy).code start next)) :
    p.Runs text start next ((rounds r (min + 1) none greedy).Matches text) := by
  unfold Regex.code Regex.loop at hcode
  have hbody := hcode.right
  rw [length_inARow (length_code r)] at hbody
  have hback := hbody.right.head
  rw [length_code] at hback
  refine ((inARow ih (length_code r) _ _ hcode.left).trans
    (loop (ih _ _ hbody.left) hback)).congr ?_
  intro i j
  rw [matches_rounds_none, iterate_behind]
  constructor
  · rintro ⟨n, hn, hij⟩
    exact ⟨min + n, by omega, hij⟩
  · rintro ⟨n, hn, hij⟩
    obtain ⟨m, rfl⟩ : ∃ m, n = min + m := ⟨n - min, by omega⟩
    exact ⟨m, by omega, hij⟩

theorem rounds_atMost {min max : ℕ}
    (hcode : p.CodeAt start ((rounds r min (some max) greedy).code start next)) :
    p.Runs text start next ((rounds r min (some max) greedy).Matches text) := by
  unfold Regex.code at hcode
  have hmore := hcode.right
  rw [length_inARow (length_code r)] at hmore
  refine ((inARow ih (length_code r) _ _ hcode.left).trans
    (upTo ih (length_code r) _ _ hmore)).congr ?_
  intro i j
  rw [matches_rounds_some, iterate_behind]
  constructor
  · rintro ⟨n, hn, hij⟩
    exact ⟨min + n, by omega, by omega, hij⟩
  · rintro ⟨n, hmin, hmax, hij⟩
    obtain ⟨m, rfl⟩ : ∃ m, n = min + m := ⟨n - min, by omega⟩
    exact ⟨m, by omega, hij⟩

end

/-- The code of an expression runs as the expression matches. -/
theorem code (r : Regex) (start next : ℕ) (hcode : p.CodeAt start (r.code start next)) :
    p.Runs text start next (r.Matches text) := by
  induction r generalizing start next with
  | empty =>
      have hjump : p.code[start]? = some (.jump next) := hcode.head
      refine of_step fun {stop n i} => (leads_jump hjump).trans ?_
      simp [Matches]
  | chars set unit =>
      have hchar : p.code[start]? = some (.char set next) := hcode.head
      refine of_step fun {stop n i} => (leads_char hchar).trans ?_
      simp [Matches, and_assoc]
  | look l =>
      have hcheck : p.code[start]? = some (.check l next) := hcode.head
      refine of_step fun {stop n i} => (leads_check hcheck).trans ?_
      simp [Matches, and_assoc]
  | seq r s ihr ihs =>
      have hs := hcode.right
      rw [length_code] at hs
      exact (ihr _ _ hcode.left).trans (ihs _ _ hs)
  | alt r s ihr ihs =>
      have hs := hcode.tail.right
      rw [length_code] at hs
      exact fork hcode.head (ihr _ _ hcode.tail.left) (ihs _ _ hs)
  | rounds r min max greedy ih =>
      cases max with
      | none =>
          cases min with
          | zero => exact rounds_any ih hcode
          | succ min => exact rounds_atLeast ih hcode
      | some max => exact rounds_atMost ih hcode
  | group r ih => exact ih start next hcode

end Runs

end Program

/-- The program of an expression accepts from a place where the expression matches from there. -/
theorem leads_toProgram (r : Regex) {text : Array Char} {i stop : ℕ} :
    (∃ n, r.toProgram.Leads text stop n ⟨0, i⟩) ↔ r.Matches text i stop := by
  have hcode : r.toProgram.CodeAt 0 (r.code 0 r.codeSize ++ [.accept]) := by
    intro k instr hk
    simpa [toProgram] using hk
  have hruns : r.toProgram.Runs text 0 r.codeSize (r.Matches text) :=
    Program.Runs.code r 0 r.codeSize hcode.left
  have haccept : r.toProgram.code[r.codeSize]? = some .accept := by
    have := hcode.right.head
    rwa [length_code, Nat.zero_add] at this
  constructor
  · rintro ⟨n, hn⟩
    obtain ⟨m, -, j, hij, hj⟩ := hruns.sound hn
    cases m with
    | zero => exact absurd hj Program.not_leads_zero
    | succ m =>
        obtain rfl := (Program.leads_accept haccept).mp hj
        exact hij
  · intro h
    exact hruns.complete h (n := 1) ((Program.leads_accept haccept).mpr rfl)

end RegexInference.Regex
