import RegexInference.Proofs.Regex.Exploration

/-!
# The length of matches

Every match that is found ends within the text, so the longest one is no longer than the text.  If
all matches have one length, the longest one has it as well.
-/

namespace RegexInference.Regex.Program

variable {p : Program} {text : Array Char}

theorem leads_le {stop n : ℕ} {t : Thread} (hleads : p.Leads text stop n t)
    (hplace : t.place ≤ text.size) : stop ≤ text.size := by
  induction n generalizing t with
  | zero => exact absurd hleads not_leads_zero
  | succ n ih =>
      rcases leads_succ.mp hleads with ⟨-, rfl⟩ | ⟨u, hu, hleads⟩
      · exact hplace
      · exact ih hleads ((step_threads hu).2 hplace)

theorem find?_le {start i j : ℕ} (hfound : p.find? text start = some (i, j)) : j ≤ text.size := by
  unfold find? at hfound
  split_ifs at hfound with hstart
  obtain ⟨hle, n, hleads⟩ := searchFrom_eq_some _ _ _ hfound
  exact leads_le hleads (by dsimp only; omega)

/-- What holds of every match that a search comes to holds of all that are gathered. -/
theorem forall_mem_matchesFrom {P : ℕ × ℕ → Prop}
    (hfind : ∀ start m, p.find? text start = some m → P m) (fuel start : ℕ) (last : Option ℕ)
    (found : List (ℕ × ℕ)) (hfound : ∀ m ∈ found, P m) :
    ∀ m ∈ p.matchesFrom text fuel start last found, P m := by
  induction fuel generalizing start last found with
  | zero => exact hfound
  | succ fuel ih =>
      unfold matchesFrom
      cases hnext : p.find? text start with
      | none => exact hfound
      | some next =>
          obtain ⟨low, high⟩ := next
          dsimp only
          split_ifs with hempty
          · exact ih _ _ _ hfound
          · exact ih _ _ _ (List.forall_mem_cons.mpr ⟨hfind start _ hnext, hfound⟩)

theorem subset_matchesFrom (fuel start : ℕ) (last : Option ℕ) (found : List (ℕ × ℕ)) :
    found ⊆ p.matchesFrom text fuel start last found := by
  induction fuel generalizing start last found with
  | zero => exact List.Subset.refl found
  | succ fuel ih =>
      unfold matchesFrom
      cases hnext : p.find? text start with
      | none => exact List.Subset.refl found
      | some next =>
          dsimp only
          split_ifs with hempty
          · exact ih _ _ _
          · exact List.Subset.trans (List.subset_cons_self _ _) (ih _ _ _)

theorem forall_mem_findAll {P : ℕ × ℕ → Prop}
    (hfind : ∀ start m, p.find? text start = some m → P m) : ∀ m ∈ p.findAll text, P m := by
  intro m hm
  have hempty : ∀ m ∈ ([] : List (ℕ × ℕ)), P m := fun m hm => absurd hm List.not_mem_nil
  exact forall_mem_matchesFrom hfind _ _ _ [] hempty m (List.mem_reverse.mp hm)

/-- The first match is among those gathered. -/
theorem mem_findAll {m : ℕ × ℕ} (hfirst : p.find? text 0 = some m) : m ∈ p.findAll text := by
  unfold findAll
  rw [List.mem_reverse, matchesFrom, hfirst]
  dsimp only
  rw [if_neg (fun hempty => by cases hempty.2)]
  exact subset_matchesFrom _ _ _ _ List.mem_cons_self

theorem findAll_eq_nil (hnone : p.find? text 0 = none) : p.findAll text = [] := by
  unfold findAll
  rw [matchesFrom, hnone]
  rfl

theorem foldl_max_le {bound : ℕ} (ns : List ℕ) (least : ℕ) (hleast : least ≤ bound)
    (hns : ∀ n ∈ ns, n ≤ bound) : ns.foldl Nat.max least ≤ bound := by
  induction ns generalizing least with
  | nil => exact hleast
  | cons n ns ih =>
      obtain ⟨hn, hns⟩ := List.forall_mem_cons.mp hns
      exact ih _ (Nat.max_le.mpr ⟨hleast, hn⟩) hns

theorem le_foldl_max (ns : List ℕ) (least : ℕ) :
    least ≤ ns.foldl Nat.max least ∧ ∀ n ∈ ns, n ≤ ns.foldl Nat.max least := by
  induction ns generalizing least with
  | nil => exact ⟨Nat.le_refl least, fun n hn => absurd hn List.not_mem_nil⟩
  | cons n ns ih =>
      obtain ⟨hle, hns⟩ := ih (Nat.max least n)
      have hleast : least ≤ ns.foldl Nat.max (Nat.max least n) :=
        (Nat.le_max_left least n).trans hle
      have hn : n ≤ ns.foldl Nat.max (Nat.max least n) := (Nat.le_max_right least n).trans hle
      exact ⟨hleast, List.forall_mem_cons.mpr ⟨hn, hns⟩⟩

/-- No match is longer than the text. -/
theorem longestMatch_le (p : Program) (text : Array Char) : p.longestMatch text ≤ text.size := by
  unfold longestMatch
  apply foldl_max_le _ _ (Nat.zero_le _)
  intro n hn
  obtain ⟨m, hm, rfl⟩ := List.mem_map.mp hn
  have hend : m.2 ≤ text.size :=
    forall_mem_findAll (P := fun m => m.2 ≤ text.size) (fun _ _ => find?_le) m hm
  omega

/-- Where all matches have one length, that is the length of the longest one. -/
theorem longestMatch_eq {n : ℕ}
    (hlength : ∀ start m, p.find? text start = some m → m.2 - m.1 = n) :
    p.longestMatch text = if p.accepts text = true then n else 0 := by
  unfold longestMatch accepts
  cases hfirst : p.find? text 0 with
  | none =>
      rw [findAll_eq_nil hfirst]
      rfl
  | some m =>
      have hall := forall_mem_findAll hlength
      have hupper : ∀ k ∈ (p.findAll text).map (fun m => m.2 - m.1), k ≤ n := by
        intro k hk
        obtain ⟨m, hm, rfl⟩ := List.mem_map.mp hk
        exact (hall m hm).le
      have hlower : m.2 - m.1 ∈ (p.findAll text).map (fun m => m.2 - m.1) :=
        List.mem_map.mpr ⟨m, mem_findAll hfirst, rfl⟩
      rw [hlength 0 m hfirst] at hlower
      apply Nat.le_antisymm
      · exact foldl_max_le _ _ (Nat.zero_le n) hupper
      · exact (le_foldl_max _ 0).2 n hlower

end RegexInference.Regex.Program
