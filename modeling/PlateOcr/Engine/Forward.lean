/-
  PlateOcr.Engine.Forward — the forward pass `_eval_model`, `_train_mlp` and `_predict_text`
  share: `_relu`, `_softmax` (max-shifted), `argmax`, and the two layers
  `h = relu(x @ w1.T + b1)`, `logits = h @ w2[pos].T + b2[pos]`.

  The arithmetic is any ordered field `K`. The theorems about losses and probabilities
  (`evalModel_loss_ge`, `trainMlp_loss_ge`, `softmax_exp_argmax`) take `K = ℝ` with
  `Real.exp` and `Real.log`; those about a saved file need a field a float codec exists for
  (`PlateOcr.Artifact.Npz`), and their runs take `ℚ`. `np.exp` and `np.log` are passed as
  functions, so every definition here stays computable. Tensors have their shapes
  in their types (`Fin n → …`): the engine is only ever called with matching shapes, and
  the artifact loaded for prediction, whose shapes nothing checks, is modelled apart
  (`PlateOcr.Artifact.Predict`). The float32 casts (`astype(np.float32)`) are the identity
  in this reading.

  Proved: `argmax_lt`, `le_argmax`, the softmax row is positive and sums to one
  (`softmax_pos`, `sum_softmax`, `softmax_le_one`) whenever `exp` is positive.
-/

import Mathlib

namespace PlateOcr

/-- The four tensors of the model: `w1 [hidden × features]`, `b1 [hidden]`,
    `w2 [positions × vocab × hidden]`, `b2 [positions × vocab]`. -/
structure Params (K : Type) (H D L V : Nat) where
  w1 : Fin H → Fin D → K
  b1 : Fin H → K
  w2 : Fin L → Fin V → Fin H → K
  b2 : Fin L → Fin V → K

section
variable {K : Type} [LinearOrderedField K]

def relu (x : K) : K := max x 0

/-- `logits.max(axis=1)` on one row (numpy raises on an empty row; no caller takes one). -/
def rowMax : {n : Nat} → (Fin n → K) → K
  | 0, _ => 0
  | _ + 1, z => (List.finRange _).foldl (fun m i => max m (z i)) (z 0)

def softmax (exp : K → K) {n : Nat} (z : Fin n → K) (v : Fin n) : K :=
  exp (z v - rowMax z) / ∑ u, exp (z u - rowMax z)

/-- `argmax` on one row: the first index holding its maximum. -/
def argmax : {n : Nat} → (Fin n → K) → Nat
  | 0, _ => 0
  | _ + 1, p => ((List.finRange _).foldl (fun b i => if p b < p i then i else b) 0).val

variable {H D L V : Nat}

/-- `x @ w1.T + b1` on one row: the hidden pre-activation `z1`. -/
def preact (θ : Params K H D L V) (x : Fin D → K) (k : Fin H) : K := ∑ d, x d * θ.w1 k d + θ.b1 k

def hidden (θ : Params K H D L V) (x : Fin D → K) (k : Fin H) : K := relu (preact θ x k)

def logits (θ : Params K H D L V) (h : Fin H → K) (pos : Fin L) (v : Fin V) : K :=
  ∑ k, h k * θ.w2 pos v k + θ.b2 pos v

/-- The softmax row of position `pos` for input row `x`. -/
def probs (exp : K → K) (θ : Params K H D L V) (x : Fin D → K) (pos : Fin L) : Fin V → K :=
  softmax exp (logits θ (hidden θ x) pos)

/-! ## `argmax` -/

theorem argmax_succ {n : Nat} (p : Fin (n + 1) → K) :
    argmax p = ((List.finRange (n + 1)).foldl (fun b i => if p b < p i then i else b) 0).val := rfl

theorem argmax_lt {n : Nat} (p : Fin n → K) (hn : 0 < n) : argmax p < n := by
  obtain ⟨m, rfl⟩ := Nat.exists_eq_add_of_lt hn
  exact Fin.isLt _

/-- The fold keeps a maximum of what it has seen. -/
theorem foldl_argmax_max {n : Nat} (p : Fin n → K) (l : List (Fin n)) (b : Fin n) :
    p b ≤ p (l.foldl (fun b i => if p b < p i then i else b) b) ∧
      ∀ i ∈ l, p i ≤ p (l.foldl (fun b i => if p b < p i then i else b) b) := by
  induction l generalizing b with
  | nil => simp
  | cons j l ih =>
    simp only [List.foldl_cons]
    obtain ⟨h1, h2⟩ := ih (if p b < p j then j else b)
    refine ⟨?_, fun i hi => ?_⟩
    · split_ifs at h1 ⊢ with h
      exacts [h.le.trans h1, h1]
    · rcases List.mem_cons.mp hi with rfl | hi
      · split_ifs at h1 ⊢ with h
        exacts [h1, (not_lt.mp h).trans h1]
      · exact h2 i hi

theorem le_argmax {n : Nat} (p : Fin (n + 1) → K) (i : Fin (n + 1)) :
    p i ≤ p ⟨argmax p, argmax_lt p n.succ_pos⟩ :=
  (foldl_argmax_max p _ 0).2 i (List.mem_finRange i)

/-- `argmax` only compares: a row ordered like `p` has the same argmax. -/
theorem argmax_congr_lt {n : Nat} {p q : Fin n → K} (h : ∀ i j, q i < q j ↔ p i < p j) : argmax q = argmax p := by
  cases n with
  | zero => rfl
  | succ n => simp only [argmax_succ, h]

/-! ## `_softmax` -/

section
variable (exp : K → K) (hexp : ∀ x, 0 < exp x)
include hexp

theorem softmax_denom_pos {n : Nat} (z : Fin n → K) (v : Fin n) : 0 < ∑ u, exp (z u - rowMax z) :=
  Finset.sum_pos (fun _ _ => hexp _) ⟨v, Finset.mem_univ v⟩

theorem softmax_pos {n : Nat} (z : Fin n → K) (v : Fin n) : 0 < softmax exp z v :=
  div_pos (hexp _) (softmax_denom_pos exp hexp z v)

theorem sum_softmax {n : Nat} (z : Fin (n + 1) → K) : ∑ v, softmax exp z v = 1 := by
  simp only [softmax, ← Finset.sum_div]
  exact div_self (softmax_denom_pos exp hexp z 0).ne'

theorem softmax_le_one {n : Nat} (z : Fin n → K) (v : Fin n) : softmax exp z v ≤ 1 :=
  (div_le_one (softmax_denom_pos exp hexp z v)).mpr
    (Finset.single_le_sum (fun u _ => (hexp (z u - rowMax z)).le) (Finset.mem_univ v))

end

end

end PlateOcr
