/-
  PlateOcr.Engine.Eval — `_eval_model`: mean cross-entropy over positions (each term
  `-log(p + 1e-9)`), full-sequence accuracy and character accuracy; `(0, 0, 0)` when `x` or
  `y` is empty.

  Proved:
  - `evalModel_accuracy`: over every ordered field, with `n ≥ 1` rows and `L ≥ 1`
    positions, `0 ≤ F ≤ C ≤ 1`, `C ≤ F + (1 - F)(L - 1)/L`, and `F = 1 ↔ C = 1`, whatever
    the predictions: the counts are double-counted per row (`charCorrect_eq_sum_rows`).
  - `evalModel_loss_neg`: over `ℝ`, a one-entry vocabulary makes every probability exactly
    1, and the loss is `-log(1 + 1e-9) < 0`.
  - `evalModel_loss_ge`: over `ℝ` the loss is never below `-log(1 + 1e-9)`.
-/

import PlateOcr.Engine.Forward

namespace PlateOcr

section
variable {K : Type} [LinearOrderedField K] {n D H L V : Nat}

/-- `char_correct` at one position: the rows whose argmax is the target. -/
def correctAt (pred : Fin n → Fin L → Nat) (y : Fin n → Fin L → Fin V) (pos : Fin L) : Nat :=
  (Finset.univ.filter fun i => pred i pos = y i pos).card

def correctIn (pred : Fin n → Fin L → Nat) (y : Fin n → Fin L → Fin V) (i : Fin n) : Nat :=
  (Finset.univ.filter fun pos => pred i pos = y i pos).card

/-- `(preds == y).all(axis=1)` summed: the rows predicted right at every position. -/
def fullCorrect (pred : Fin n → Fin L → Nat) (y : Fin n → Fin L → Fin V) : Nat :=
  (Finset.univ.filter fun i => ∀ pos, pred i pos = y i pos).card

/-- `_eval_model`. The loop over positions adds each position's mean loss and its count of
    right predictions; `preds` is filled at every position. -/
def evalModel (exp log : K → K) (x : Fin n → Fin D → K) (y : Fin n → Fin L → Fin V)
    (θ : Params K H D L V) : K × K × K :=
  if n * D = 0 ∨ n * L = 0 then (0, 0, 0) else
    let p := fun i pos => probs exp θ (x i) pos
    let pred := fun i pos => argmax (p i pos)
    let lossTotal := ∑ pos, (∑ i, -log (p i pos (y i pos) + 1e-9)) / n
    let charCorrect := ∑ pos, correctAt pred y pos
    (lossTotal / L, (fullCorrect pred y : K) / n, (charCorrect : K) / (n * L))

/-! ## Counting -/

theorem charCorrect_eq_sum_rows (pred : Fin n → Fin L → Nat) (y : Fin n → Fin L → Fin V) :
    ∑ pos, correctAt pred y pos = ∑ i, correctIn pred y i := by
  simp only [correctAt, correctIn, Finset.card_filter]
  exact Finset.sum_comm

theorem correctIn_le (pred : Fin n → Fin L → Nat) (y : Fin n → Fin L → Fin V) (i : Fin n) :
    correctIn pred y i ≤ L :=
  (Finset.card_filter_le _ _).trans (Finset.card_fin L).le

theorem card_filter_univ_eq_iff {m : Nat} (p : Fin m → Prop) [DecidablePred p] :
    (Finset.univ.filter p).card = m ↔ ∀ i, p i := by
  have := @Finset.card_filter_eq_iff _ Finset.univ p _
  simpa only [Finset.card_fin, Finset.mem_univ, true_implies] using this

theorem correctIn_eq_iff (pred : Fin n → Fin L → Nat) (y : Fin n → Fin L → Fin V) (i : Fin n) :
    correctIn pred y i = L ↔ ∀ pos, pred i pos = y i pos :=
  card_filter_univ_eq_iff _

/-- The row counts against the full rows: `A·L ≤ Σ cᵢ` and `Σ cᵢ + A(L - 1) ≤ A·L + n(L - 1)`,
    that is `Σ cᵢ ≤ A·L + (n - A)(L - 1)`. -/
theorem sum_correctIn_bounds (pred : Fin n → Fin L → Nat) (y : Fin n → Fin L → Fin V) :
    fullCorrect pred y * L ≤ ∑ i, correctIn pred y i ∧
      ∑ i, correctIn pred y i + fullCorrect pred y * (L - 1) ≤ fullCorrect pred y * L + n * (L - 1) := by
  have hrow : ∀ i, (if ∀ pos, pred i pos = y i pos then L else 0) ≤ correctIn pred y i ∧
      correctIn pred y i + (if ∀ pos, pred i pos = y i pos then L - 1 else 0) ≤
        (if ∀ pos, pred i pos = y i pos then L else 0) + (L - 1) := by
    intro i
    have hle := correctIn_le pred y i
    have hiff := correctIn_eq_iff pred y i
    split_ifs with h
    · have := hiff.mpr h; omega
    · have := mt hiff.mp h; omega
  have hA : ∀ c, fullCorrect pred y * c = ∑ i, if ∀ pos, pred i pos = y i pos then c else 0 := by
    intro c
    rw [fullCorrect, Finset.card_filter, Finset.sum_mul]
    exact Finset.sum_congr rfl fun i _ => by split_ifs <;> simp only [one_mul, zero_mul]
  constructor
  · rw [hA]; exact Finset.sum_le_sum fun i _ => (hrow i).1
  · have := Finset.sum_le_sum fun i (_ : i ∈ Finset.univ) => (hrow i).2
    simp only [Finset.sum_add_distrib, Finset.sum_const, Finset.card_univ, Fintype.card_fin, smul_eq_mul] at this
    rw [hA, hA]; omega

theorem fullCorrect_eq_iff (pred : Fin n → Fin L → Nat) (y : Fin n → Fin L → Fin V) :
    fullCorrect pred y = n ↔ ∑ i, correctIn pred y i = n * L := by
  have hsum : ∑ i, correctIn pred y i = n * L ↔ ∀ i, correctIn pred y i = L := by
    have := Finset.sum_eq_sum_iff_of_le fun i (_ : i ∈ Finset.univ) => correctIn_le pred y i
    simpa only [Finset.sum_const, Finset.card_fin, smul_eq_mul, Finset.mem_univ, true_implies] using this
  rw [hsum, fullCorrect, card_filter_univ_eq_iff]
  simp only [correctIn_eq_iff]

/-! ## Accuracy -/

/-- The accuracy bounds from the counts alone: `A` full rows and `S` right characters out of
    `n` rows of `L` positions, related as `sum_correctIn_bounds` and `fullCorrect_eq_iff` say. -/
theorem accuracy_of_counts {A S : Nat} (hn : 0 < n) (hL : 0 < L) (hS : S ≤ n * L) (h1 : A * L ≤ S)
    (h2 : S + A * (L - 1) ≤ A * L + n * (L - 1)) (hiff : A = n ↔ S = n * L) :
    0 ≤ (A : K) / n ∧ (A : K) / n ≤ S / (n * L) ∧ (S : K) / (n * L) ≤ 1 ∧
      (S : K) / (n * L) ≤ A / n + (1 - A / n) * (L - 1) / L ∧ ((A : K) / n = 1 ↔ (S : K) / (n * L) = 1) := by
  have hnK : (0 : K) < n := Nat.cast_pos.mpr hn
  have hLK : (0 : K) < L := Nat.cast_pos.mpr hL
  have h1K : (A : K) * L ≤ S := by rw [← Nat.cast_mul]; exact Nat.cast_le.mpr h1
  have h2K : (S : K) ≤ A * L + (n - A) * (L - 1) := by
    have : ((S + A * (L - 1) : Nat) : K) ≤ ((A * L + n * (L - 1) : Nat) : K) := Nat.cast_le.mpr h2
    push_cast [Nat.cast_sub hL] at this
    rwa [sub_mul, add_sub, le_sub_iff_add_le]
  refine ⟨by positivity, ?_, (div_le_one (by positivity)).mpr (by rw [← Nat.cast_mul]; exact Nat.cast_le.mpr hS), ?_, ?_⟩
  · rw [div_le_div_iff₀ hnK (by positivity)]
    calc (A : K) * (n * L) = A * L * n := by ring
      _ ≤ S * n := mul_le_mul_of_nonneg_right h1K hnK.le
  · have : (A : K) / n + (1 - A / n) * (L - 1) / L = (A * L + (n - A) * (L - 1)) / (n * L) := by
      rw [one_sub_div hnK.ne', div_mul_eq_mul_div, div_div, ← mul_div_mul_right (A : K) n hLK.ne', div_add_div_same]
    rw [this]
    exact div_le_div_of_nonneg_right h2K (by positivity)
  · rw [div_eq_one_iff_eq hnK.ne', div_eq_one_iff_eq (by positivity)]
    exact_mod_cast hiff

/-- Full-sequence accuracy `F` and character accuracy `C` satisfy `0 ≤ F ≤ C ≤ 1`,
    `C ≤ F + (1 - F)(L - 1)/L` and `F = 1 ↔ C = 1`, for every input, target and parameter
    set with at least one row and one position. -/
theorem evalModel_accuracy (exp log : K → K) (x : Fin n → Fin D → K) (y : Fin n → Fin L → Fin V)
    (θ : Params K H D L V) (hn : 0 < n) (hL : 0 < L) :
    0 ≤ (evalModel exp log x y θ).2.1 ∧ (evalModel exp log x y θ).2.1 ≤ (evalModel exp log x y θ).2.2 ∧
      (evalModel exp log x y θ).2.2 ≤ 1 ∧
      (evalModel exp log x y θ).2.2 ≤
        (evalModel exp log x y θ).2.1 + (1 - (evalModel exp log x y θ).2.1) * (L - 1) / L ∧
      ((evalModel exp log x y θ).2.1 = 1 ↔ (evalModel exp log x y θ).2.2 = 1) := by
  by_cases h0 : n * D = 0 ∨ n * L = 0
  · simp only [evalModel, if_pos h0]
    refine ⟨le_rfl, le_rfl, zero_le_one, ?_, trivial⟩
    simp only [zero_add, sub_zero, one_mul]
    exact div_nonneg (sub_nonneg.mpr (Nat.one_le_cast.mpr hL)) (Nat.cast_nonneg L)
  · set pred := fun i pos => argmax (probs exp θ (x i) pos)
    have hS : ∑ i, correctIn pred y i ≤ n * L :=
      (Finset.sum_le_sum fun i _ => correctIn_le pred y i).trans (by rw [Finset.sum_const, Finset.card_fin, smul_eq_mul])
    simp only [evalModel, if_neg h0, charCorrect_eq_sum_rows]
    exact accuracy_of_counts hn hL hS (sum_correctIn_bounds pred y).1 (sum_correctIn_bounds pred y).2
      (fullCorrect_eq_iff pred y)

theorem evalModel_accuracy_single :
    ((0 : Nat) < 1 ∧ (0 : Nat) < 1) ∧
      let r := evalModel (id : ℚ → ℚ) id (fun (_ : Fin 1) (_ : Fin 1) => 0) (fun _ _ => (0 : Fin 2))
        (⟨0, 0, 0, 0⟩ : Params ℚ 1 1 1 2)
      0 ≤ r.2.1 ∧ r.2.1 ≤ r.2.2 ∧ r.2.2 ≤ 1 ∧ r.2.2 ≤ r.2.1 + (1 - r.2.1) * ((1 : Nat) - 1) / (1 : Nat) ∧
        (r.2.1 = 1 ↔ r.2.2 = 1) :=
  ⟨⟨by decide, by decide⟩, evalModel_accuracy _ _ _ _ _ (by decide) (by decide)⟩

theorem le_mean {m : Nat} (hm : 0 < m) {f : Fin m → K} {c : K} (h : ∀ i, c ≤ f i) : c ≤ (∑ i, f i) / m := by
  have := Finset.card_nsmul_le_sum Finset.univ f c fun i _ => h i
  rw [Finset.card_univ, Fintype.card_fin, nsmul_eq_mul, mul_comm] at this
  rwa [le_div_iff₀ (by exact_mod_cast hm)]

theorem softmax_fin_one (exp : K → K) (hexp : ∀ x, 0 < exp x) (z : Fin 1 → K) (v : Fin 1) :
    softmax exp z v = 1 := by
  simpa [Subsingleton.elim v 0] using sum_softmax exp hexp z

end

/-! ## The loss over `ℝ` -/

/-- With one vocabulary entry every probability is exactly 1, and `-log(1 + 1e-9)` is
    negative. -/
theorem evalModel_loss_neg :
    (evalModel Real.exp Real.log (fun (_ : Fin 1) (_ : Fin 1) => (1 : ℝ)) (fun _ _ => (0 : Fin 1))
      (⟨0, 0, 0, 0⟩ : Params ℝ 1 1 1 1)).1 < 0 := by
  have h1 : ∀ (θ : Params ℝ 1 1 1 1) x pos v, probs Real.exp θ x pos v = 1 :=
    fun _ _ _ _ => softmax_fin_one _ Real.exp_pos _ _
  simp only [evalModel, h1, if_neg (by decide : ¬(1 * 1 = 0 ∨ 1 * 1 = 0)), Fin.sum_univ_one, Nat.cast_one,
    div_one]
  have := Real.log_pos (by norm_num : (1 : ℝ) < 1 + 1e-9)
  linarith

theorem neg_log_prob_ge {p : ℝ} (h0 : 0 < p) (h1 : p ≤ 1) : -Real.log (1 + 1e-9) ≤ -Real.log (p + 1e-9) :=
  neg_le_neg (Real.log_le_log (by positivity) (by linarith))

/-- Over `ℝ` the loss is never below `-log(1 + 1e-9)`. -/
theorem evalModel_loss_ge {n D H L V : Nat} (x : Fin n → Fin D → ℝ) (y : Fin n → Fin L → Fin V)
    (θ : Params ℝ H D L V) : -Real.log (1 + 1e-9) ≤ (evalModel Real.exp Real.log x y θ).1 := by
  unfold evalModel
  split_ifs with h0
  · exact neg_nonpos.mpr (Real.log_pos (by norm_num : (1 : ℝ) < 1 + 1e-9)).le
  · have hn : 0 < n := Nat.pos_of_ne_zero fun h => h0 (.inl (by rw [h, Nat.zero_mul]))
    have hL : 0 < L := Nat.pos_of_ne_zero fun h => h0 (.inr (by rw [h, Nat.mul_zero]))
    refine le_mean hL fun pos => le_mean hn fun i => neg_log_prob_ge ?_ ?_
    · exact softmax_pos _ Real.exp_pos _ _
    · exact softmax_le_one _ Real.exp_pos _ _

end PlateOcr
