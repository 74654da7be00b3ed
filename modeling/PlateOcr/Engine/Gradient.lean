/-
  PlateOcr.Engine.Gradient — the hand-written backward pass of `_train_mlp` against the
  derivative of the loss it descends, over `ℝ`.

  The objective of one batch is `J = Σ_pos (1/B) Σ_i -log softmax(logits_i,pos)[yb[i,pos]]`:
  `seq_len` times the `batch_loss` the loop reports, without its `1e-9` term. The proof is
  forward mode against reverse mode. Moving the parameters along a direction `Δ`, the
  pre-activations move by `preact Δ`, the ReLU passes that tangent where `z1 > 0` and stops
  it where `z1 < 0` (`hiddenTangent`), and the logits move by `logitsTangent`. Reverse mode
  is the adjoint of that: `backward_dot` says that pairing the four gradient tensors with
  `Δ` is pairing `dlogits` with the logits' tangent, with no calculus in it.

  Proved:
  - `trainStep_gradient`: at every batch and every parameter point where no hidden
    pre-activation is `0`, the tensors the loop subtracts are the gradient of `J`: along
    every direction `Δ`, `J(θ + tΔ)` has derivative `⟨(dW1, db1, dW2, db2), Δ⟩` at `t = 0`;
    so each update is one gradient-descent step of size `learning_rate` on `J`.
-/

import PlateOcr.Engine.Step

namespace PlateOcr

open Filter Topology

section
variable {K : Type} [LinearOrderedField K] {H D L V : Nat}

/-- The parameters moved by `t` along the direction `Δ`: `θ + t·Δ`. -/
def Params.shift (θ Δ : Params K H D L V) (t : K) : Params K H D L V :=
  ⟨fun k d => θ.w1 k d + t * Δ.w1 k d, fun k => θ.b1 k + t * Δ.b1 k,
    fun pos v k => θ.w2 pos v k + t * Δ.w2 pos v k, fun pos v => θ.b2 pos v + t * Δ.b2 pos v⟩

/-- The inner product of two parameter tuples, over all four tensors. -/
def Params.dot (g Δ : Params K H D L V) : K :=
  (∑ k, ∑ d, g.w1 k d * Δ.w1 k d) + (∑ k, g.b1 k * Δ.b1 k) +
    (∑ pos, ∑ v, ∑ k, g.w2 pos v k * Δ.w2 pos v k) + ∑ pos, ∑ v, g.b2 pos v * Δ.b2 pos v

/-- The objective of one batch: summed over the heads, the batch mean of the cross-entropy. -/
def batchObjective (exp log : K → K) {B : Nat} (xb : Fin B → Fin D → K) (yb : Fin B → Fin L → Fin V)
    (θ : Params K H D L V) : K :=
  ∑ pos, (1 / B : K) * ∑ i, -log (probs exp θ (xb i) pos (yb i pos))

/-- The derivative of `h` along `Δ`: the pre-activation's tangent where `z1 > 0`, `0` elsewhere. -/
def hiddenTangent (θ Δ : Params K H D L V) (x : Fin D → K) (k : Fin H) : K :=
  if preact θ x k ≤ 0 then 0 else preact Δ x k

def logitsTangent (θ Δ : Params K H D L V) (x : Fin D → K) (pos : Fin L) (v : Fin V) : K :=
  ∑ k, (hiddenTangent θ Δ x k * θ.w2 pos v k + hidden θ x k * Δ.w2 pos v k) + Δ.b2 pos v

@[simp] theorem Params.shift_zero (θ Δ : Params K H D L V) : θ.shift Δ 0 = θ := by
  cases θ; simp [Params.shift]

/-- A step of the loop moves the parameters by `-lr` along the gradient it computed. -/
theorem Params.sgd_eq_shift (θ g : Params K H D L V) (lr : K) : θ.sgd g lr = θ.shift g (-lr) := by
  simp only [Params.sgd, Params.shift, neg_mul, sub_eq_add_neg]

theorem preact_shift (θ Δ : Params K H D L V) (t : K) (x : Fin D → K) (k : Fin H) :
    preact (θ.shift Δ t) x k = preact θ x k + t * preact Δ x k := by
  simp only [preact, Params.shift, mul_add, Finset.sum_add_distrib, Finset.mul_sum, mul_left_comm t]
  ring

/-! ## Reverse mode is the adjoint of forward mode -/

theorem dot_first_layer {B : Nat} (dh : Fin B → Fin H → K) (xb : Fin B → Fin D → K) (Δ : Params K H D L V) :
    (∑ k, ∑ d, (∑ i, dh i k * xb i d) * Δ.w1 k d) + ∑ k, (∑ i, dh i k) * Δ.b1 k =
      ∑ i, ∑ k, dh i k * preact Δ (xb i) k := by
  simp only [preact, mul_add, Finset.mul_sum, Finset.sum_mul, Finset.sum_add_distrib, mul_assoc]
  congr 1
  · exact (Finset.sum_comm.trans (Finset.sum_congr rfl fun k _ => Finset.sum_comm)).symm
  · exact Finset.sum_comm

/-- The ReLU mask on `dh` is the ReLU's tangent: `dh` paired with the pre-activations' tangent
    is `dlogits` paired with the hidden tangent carried through `w2`. -/
theorem masked_dh_dot (exp : K → K) (B : Nat) (θ Δ : Params K H D L V) (x : Fin D → K) (y : Fin L → Fin V) :
    ∑ k, (if preact θ x k ≤ 0 then 0 else ∑ pos, ∑ v, dlogits exp B θ x y pos v * θ.w2 pos v k) * preact Δ x k =
      ∑ pos, ∑ v, dlogits exp B θ x y pos v * ∑ k, hiddenTangent θ Δ x k * θ.w2 pos v k := by
  have hk : ∀ k, (if preact θ x k ≤ 0 then 0 else ∑ pos, ∑ v, dlogits exp B θ x y pos v * θ.w2 pos v k) *
      preact Δ x k = ∑ pos, ∑ v, dlogits exp B θ x y pos v * (hiddenTangent θ Δ x k * θ.w2 pos v k) := by
    intro k
    unfold hiddenTangent
    split_ifs
    · simp only [zero_mul, mul_zero, Finset.sum_const_zero]
    · simp only [Finset.sum_mul]
      exact Finset.sum_congr rfl fun _ _ => Finset.sum_congr rfl fun _ _ => by ring
  simp only [hk, Finset.mul_sum]
  rw [Finset.sum_comm]
  exact Finset.sum_congr rfl fun pos _ => Finset.sum_comm

/-- Reverse mode is the adjoint of forward mode: the four gradient tensors paired with a
    direction `Δ` are `dlogits` paired with the logits' tangent along `Δ`. -/
theorem backward_dot (exp : K → K) {B : Nat} (xb : Fin B → Fin D → K) (yb : Fin B → Fin L → Fin V)
    (θ Δ : Params K H D L V) :
    (backward exp xb yb θ).dot Δ =
      ∑ i, ∑ pos, ∑ v, dlogits exp B θ (xb i) (yb i) pos v * logitsTangent θ Δ (xb i) pos v := by
  have hout : ∀ f : Fin B → Fin L → Fin V → K, ∑ pos, ∑ v, ∑ i, f i pos v = ∑ i, ∑ pos, ∑ v, f i pos v :=
    fun f => (Finset.sum_congr rfl fun _ _ => Finset.sum_comm).trans Finset.sum_comm
  unfold Params.dot backward
  dsimp only
  rw [dot_first_layer]
  simp only [masked_dh_dot, logitsTangent, mul_add, Finset.sum_add_distrib, add_assoc]
  rw [← hout, ← hout]
  refine congrArg (_ + ·) (congrArg₂ (· + ·) ?_ ?_)
  · refine Finset.sum_congr rfl fun pos _ => Finset.sum_congr rfl fun v _ => ?_
    simp only [Finset.sum_mul, Finset.mul_sum, mul_assoc]
    exact Finset.sum_comm
  · simp only [Finset.sum_mul]
    exact hout _

end

/-! ## The derivative of the objective, over `ℝ` -/

section
variable {H D L V : Nat}

theorem hasDerivAt_line (a c : ℝ) : HasDerivAt (fun t => a + t * c) c 0 := by
  simpa using (hasDerivAt_mul_const c).const_add a

/-- Away from `0` the ReLU is linear nearby: `relu (a + t c)` has derivative `c` at `t = 0`
    if `a > 0` and `0` if `a < 0`. -/
theorem hasDerivAt_relu_line {a : ℝ} (ha : a ≠ 0) (c : ℝ) :
    HasDerivAt (fun t => relu (a + t * c)) (if a ≤ 0 then 0 else c) 0 := by
  have hlim : Tendsto (fun t : ℝ => a + t * c) (𝓝 0) (𝓝 a) := by
    have := (hasDerivAt_line a c).continuousAt.tendsto
    simp only [zero_mul, add_zero] at this
    exact this
  rcases ha.lt_or_lt with hneg | hpos
  · rw [if_pos hneg.le]
    refine (hasDerivAt_const (0 : ℝ) (0 : ℝ)).congr_of_eventuallyEq ?_
    filter_upwards [hlim.eventually_lt_const hneg] with t ht
    exact max_eq_right ht.le
  · rw [if_neg (not_le.mpr hpos)]
    refine (hasDerivAt_line a c).congr_of_eventuallyEq ?_
    filter_upwards [hlim.eventually_const_lt hpos] with t ht
    exact max_eq_left ht.le

theorem hasDerivAt_hidden_shift {θ : Params ℝ H D L V} (Δ : Params ℝ H D L V) {x : Fin D → ℝ} {k : Fin H}
    (hz : preact θ x k ≠ 0) : HasDerivAt (fun t => hidden (θ.shift Δ t) x k) (hiddenTangent θ Δ x k) 0 := by
  simp only [hidden, preact_shift]
  exact hasDerivAt_relu_line hz _

theorem hasDerivAt_logits_shift {θ : Params ℝ H D L V} (Δ : Params ℝ H D L V) {x : Fin D → ℝ}
    (hz : ∀ k, preact θ x k ≠ 0) (pos : Fin L) (v : Fin V) :
    HasDerivAt (fun t => logits (θ.shift Δ t) (hidden (θ.shift Δ t) x) pos v) (logitsTangent θ Δ x pos v) 0 := by
  have hw : ∀ k, HasDerivAt (fun t => hidden (θ.shift Δ t) x k * (θ.w2 pos v k + t * Δ.w2 pos v k))
      (hiddenTangent θ Δ x k * θ.w2 pos v k + hidden θ x k * Δ.w2 pos v k) 0 := fun k => by
    simpa using (hasDerivAt_hidden_shift Δ (hz k)).mul (hasDerivAt_line (θ.w2 pos v k) (Δ.w2 pos v k))
  exact (HasDerivAt.sum fun k _ => hw k).add (hasDerivAt_line _ _)

theorem sum_exp_pos {n : Nat} (z : Fin n → ℝ) (y : Fin n) : 0 < ∑ u, Real.exp (z u) :=
  Finset.sum_pos (fun _ _ => Real.exp_pos _) ⟨y, Finset.mem_univ y⟩

theorem softmax_eq_exp_div {n : Nat} (z : Fin n → ℝ) (v : Fin n) :
    softmax Real.exp z v = Real.exp (z v) / ∑ u, Real.exp (z u) := by
  simp only [softmax, Real.exp_sub, ← Finset.sum_div]
  exact div_div_div_cancel_right₀ (Real.exp_pos _).ne' _ _

theorem neg_log_softmax {n : Nat} (z : Fin n → ℝ) (y : Fin n) :
    -Real.log (softmax Real.exp z y) = Real.log (∑ u, Real.exp (z u)) - z y := by
  rw [softmax_eq_exp_div, Real.log_div (Real.exp_pos _).ne' (sum_exp_pos z y).ne', Real.log_exp]
  ring

/-- The cross-entropy of a moving row of logits moves by `Σ_v (softmax - onehot) · z'`. -/
theorem hasDerivAt_neg_log_softmax {n : Nat} {z : ℝ → Fin n → ℝ} {z' : Fin n → ℝ}
    (hz : ∀ v, HasDerivAt (fun t => z t v) (z' v) 0) (y : Fin n) :
    HasDerivAt (fun t => -Real.log (softmax Real.exp (z t) y))
      (∑ v, (softmax Real.exp (z 0) v - if v = y then 1 else 0) * z' v) 0 := by
  have hS : HasDerivAt (fun t => ∑ u, Real.exp (z t u)) (∑ u, Real.exp (z 0 u) * z' u) 0 :=
    HasDerivAt.sum fun u _ => (hz u).exp
  simp only [neg_log_softmax]
  refine ((hS.log (sum_exp_pos _ y).ne').sub (hz y)).congr_deriv ?_
  simp only [softmax_eq_exp_div, sub_mul, Finset.sum_sub_distrib, ite_mul, one_mul, zero_mul,
    Finset.sum_ite_eq', Finset.mem_univ, if_true, Finset.sum_div, div_mul_eq_mul_div]

theorem hasDerivAt_batchObjective {B : Nat} (xb : Fin B → Fin D → ℝ) (yb : Fin B → Fin L → Fin V)
    {θ : Params ℝ H D L V} (hz : ∀ i k, preact θ (xb i) k ≠ 0) (Δ : Params ℝ H D L V) :
    HasDerivAt (fun t => batchObjective Real.exp Real.log xb yb (θ.shift Δ t))
      (∑ pos, (1 / B : ℝ) * ∑ i, ∑ v,
        (probs Real.exp θ (xb i) pos v - if v = yb i pos then 1 else 0) * logitsTangent θ Δ (xb i) pos v) 0 := by
  have h := fun pos i => hasDerivAt_neg_log_softmax (hasDerivAt_logits_shift Δ (hz i) pos) (yb i pos)
  simp only [Params.shift_zero] at h
  exact HasDerivAt.sum fun pos _ => (HasDerivAt.sum fun i _ => h pos i).const_mul _

/-- At every batch and every parameter point where no hidden pre-activation is `0`, the four
    tensors the minibatch loop computes are the gradient of the batch objective (its derivative
    along every direction `Δ` is their pairing with `Δ`), and the update moves the parameters
    by `-learning_rate` times them. -/
theorem trainStep_gradient (lr : ℝ) {n : Nat} (x : Fin n → Fin D → ℝ) (y : Fin n → Fin L → Fin V)
    (θ : Params ℝ H D L V) (idx : List (Fin n)) (hz : ∀ i k, preact θ (x (idx.get i)) k ≠ 0) :
    (∀ Δ, HasDerivAt
      (fun t => batchObjective Real.exp Real.log (fun i => x (idx.get i)) (fun i => y (idx.get i)) (θ.shift Δ t))
      ((backward Real.exp (fun i => x (idx.get i)) (fun i => y (idx.get i)) θ).dot Δ) 0) ∧
    trainStep Real.exp lr x y θ idx =
      θ.shift (backward Real.exp (fun i => x (idx.get i)) (fun i => y (idx.get i)) θ) (-lr) := by
  refine ⟨fun Δ => (hasDerivAt_batchObjective _ _ hz Δ).congr_deriv ?_, Params.sgd_eq_shift _ _ _⟩
  rw [backward_dot, Finset.sum_comm]
  simp only [dlogits, Finset.mul_sum]
  exact Finset.sum_congr rfl fun _ _ => Finset.sum_congr rfl fun _ _ => Finset.sum_congr rfl fun _ _ => by ring

theorem trainStep_gradient_unit :
    let θ : Params ℝ 1 1 1 1 := ⟨fun _ _ => 1, fun _ => 0, fun _ _ _ => 0, fun _ _ => 0⟩
    let x : Fin 1 → Fin 1 → ℝ := fun _ _ => 1
    let y : Fin 1 → Fin 1 → Fin 1 := fun _ _ => 0
    (∀ i k, preact θ (x ([0].get i)) k ≠ 0) ∧
      (∀ Δ, HasDerivAt
        (fun t => batchObjective Real.exp Real.log (fun i => x ([0].get i)) (fun i => y ([0].get i)) (θ.shift Δ t))
        ((backward Real.exp (fun i => x ([0].get i)) (fun i => y ([0].get i)) θ).dot Δ) 0) ∧
      trainStep Real.exp (1 / 5) x y θ [0] =
        θ.shift (backward Real.exp (fun i => x ([0].get i)) (fun i => y ([0].get i)) θ) (-(1 / 5)) := by
  intro θ x y
  have hz : ∀ i k, preact θ (x ([0].get i)) k ≠ 0 := by simp [θ, x, preact]
  exact ⟨hz, trainStep_gradient (1 / 5) x y θ [0] hz⟩

end

end PlateOcr
