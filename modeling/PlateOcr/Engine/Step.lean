/-
  PlateOcr.Engine.Step — one epoch of `_train_mlp`'s minibatch loop: the batches cut from
  the epoch's permutation, and the forward/backward/update of one batch.

  `batches_per_epoch` is `ceil(n_train / batch_size)`, here computed exactly (the float
  quotient is exact for the `n_train ≤ 50000` the config admits). Batch `b` is
  `perm[b*batch_size : b*batch_size + batch_size]`. The backward pass is the source's:
  `dlogits = (probs - onehot(tgt)) / len(tgt)` per position, `dW2[pos] = dlogitsᵀ h`,
  `db2[pos] = Σ dlogits`, `dh += dlogits @ w2[pos]` with the weights before the update, then
  `dh[z1 <= 0] = 0`, `dW1 = dhᵀ xb`, `db1 = Σ dh`, and `w -= lr * dw` on all four tensors.
  `batch_loss` and `epoch_loss` are computed and never read; they are left out.

  Proved:
  - `epochBatches_spec`: for every `n ≥ 1`, `batch_size ≥ 1` and permutation of
    `range(n)`, the batches are non-empty, at most `batch_size` long, all but the last
    exactly that long, and their concatenation is the permutation; so each sample is in
    exactly one batch.
-/

import PlateOcr.Engine.Forward

namespace PlateOcr

/-! ## Batches -/

def batchesPerEpoch (n batchSize : Nat) : Nat := (n + batchSize - 1) / batchSize

/-- The index slices of one epoch, `perm[start : start + batch_size]` for each batch. -/
def epochBatches {n : Nat} (perm : List (Fin n)) (batchSize : Nat) : List (List (Fin n)) :=
  (List.range (batchesPerEpoch n batchSize)).map fun b => (perm.drop (b * batchSize)).take batchSize

theorem lt_batchesPerEpoch_iff {n bs b : Nat} (hbs : 0 < bs) : b < batchesPerEpoch n bs ↔ b * bs < n := by
  rw [batchesPerEpoch, ← Nat.succ_le, Nat.le_div_iff_mul_le hbs, Nat.succ_mul]; omega

theorem batchesPerEpoch_mul_ge (n : Nat) {bs : Nat} (hbs : 0 < bs) : n ≤ batchesPerEpoch n bs * bs := by
  have h := Nat.div_add_mod (n + bs - 1) bs
  have h' := Nat.mod_lt (n + bs - 1) hbs
  rw [batchesPerEpoch, Nat.mul_comm]
  generalize bs * ((n + bs - 1) / bs) = P at h ⊢
  omega

theorem flatten_slices {α : Type} (bs : Nat) (hbs : 0 < bs) :
    ∀ (k : Nat) (l : List α), l.length ≤ k * bs →
      ((List.range k).map fun b => (l.drop (b * bs)).take bs).flatten = l
  | 0, l, h => by simpa using List.eq_nil_of_length_eq_zero (by simpa using h)
  | k + 1, l, h => by
    rw [List.range_succ_eq_map, List.map_cons, List.map_map, List.flatten_cons]
    have ih := flatten_slices bs hbs k (l.drop bs) (by simp [Nat.succ_mul] at h ⊢; omega)
    have hf : ((fun b => (l.drop (b * bs)).take bs) ∘ Nat.succ) = fun b => ((l.drop bs).drop (b * bs)).take bs := by
      funext b; simp [Nat.succ_mul, List.drop_drop, Nat.add_comm]
    rw [hf, ih]; simp

/-- The batches of one epoch partition the permutation: each is non-empty and at most
    `batch_size` long, all but the last are exactly `batch_size` long, they concatenate to
    `perm`, and every sample index occurs in exactly one of them. -/
theorem epochBatches_spec {n : Nat} (perm : List (Fin n)) (hperm : perm.Perm (List.finRange n))
    (batchSize : Nat) (hbs : 0 < batchSize) :
    (∀ batch ∈ epochBatches perm batchSize, batch ≠ [] ∧ batch.length ≤ batchSize) ∧
      (∀ j (hj : j + 1 < (epochBatches perm batchSize).length),
        ((epochBatches perm batchSize).get ⟨j, by omega⟩).length = batchSize) ∧
      (epochBatches perm batchSize).flatten = perm ∧
      ∀ i : Fin n, (epochBatches perm batchSize).flatten.count i = 1 := by
  set batches := epochBatches perm batchSize
  have hlen : perm.length = n := by simpa only [List.length_finRange] using hperm.length_eq
  have hcat : batches.flatten = perm :=
    flatten_slices batchSize hbs _ perm (by rw [hlen]; exact batchesPerEpoch_mul_ge n hbs)
  refine ⟨fun batch hb => ?_, fun j hj => ?_, hcat, fun i => ?_⟩
  · obtain ⟨b, hbr, rfl⟩ := List.mem_map.mp (show batch ∈ epochBatches perm batchSize from hb)
    have := (lt_batchesPerEpoch_iff hbs).mp (List.mem_range.mp hbr)
    refine ⟨fun h => ?_, List.length_take_le _ _⟩
    have := congrArg List.length h
    simp only [List.length_take, List.length_drop, List.length_nil, Nat.min_eq_zero_iff] at this; omega
  · have hj' : j + 1 < batchesPerEpoch n batchSize := by
      simpa only [epochBatches, List.length_map, List.length_range, batches] using hj
    have := (lt_batchesPerEpoch_iff hbs).mp hj'
    simp only [Nat.succ_mul, epochBatches, List.get_eq_getElem, List.getElem_map, List.getElem_range,
      List.length_take, List.length_drop, batches] at this ⊢
    omega
  · rw [hcat, hperm.count_eq]
    exact List.count_eq_one_of_mem (List.nodup_finRange n) (List.mem_finRange i)

theorem epochBatches_five_by_two :
    ((List.finRange 5).Perm (List.finRange 5) ∧ 0 < 2) ∧
      (∀ batch ∈ epochBatches (List.finRange 5) 2, batch ≠ [] ∧ batch.length ≤ 2) ∧
        (∀ j (hj : j + 1 < (epochBatches (List.finRange 5) 2).length),
          ((epochBatches (List.finRange 5) 2).get ⟨j, by omega⟩).length = 2) ∧
        (epochBatches (List.finRange 5) 2).flatten = List.finRange 5 ∧
        ∀ i : Fin 5, (epochBatches (List.finRange 5) 2).flatten.count i = 1 :=
  ⟨⟨List.Perm.refl _, by decide⟩, epochBatches_spec _ (List.Perm.refl _) 2 (by decide)⟩

/-! ## One minibatch -/

section
variable {K : Type} [LinearOrderedField K] {H D L V : Nat}

/-- One row of `dlogits` at head `pos` in a batch of `B` rows: `(probs - onehot(tgt)) / len(tgt)`. -/
def dlogits (exp : K → K) (B : Nat) (θ : Params K H D L V) (x : Fin D → K) (y : Fin L → Fin V)
    (pos : Fin L) (v : Fin V) : K :=
  (probs exp θ x pos v - if v = y pos then 1 else 0) / B

/-- The gradients one iteration of the minibatch loop computes for batch `(xb, yb)`. -/
def backward (exp : K → K) {B : Nat} (xb : Fin B → Fin D → K) (yb : Fin B → Fin L → Fin V)
    (θ : Params K H D L V) : Params K H D L V :=
  let dh := fun i k =>
    if preact θ (xb i) k ≤ 0 then 0 else ∑ pos, ∑ v, dlogits exp B θ (xb i) (yb i) pos v * θ.w2 pos v k
  { w1 := fun k d => ∑ i, dh i k * xb i d
    b1 := fun k => ∑ i, dh i k
    w2 := fun pos v k => ∑ i, dlogits exp B θ (xb i) (yb i) pos v * hidden θ (xb i) k
    b2 := fun pos v => ∑ i, dlogits exp B θ (xb i) (yb i) pos v }

def Params.sgd (θ g : Params K H D L V) (lr : K) : Params K H D L V :=
  ⟨fun k d => θ.w1 k d - lr * g.w1 k d, fun k => θ.b1 k - lr * g.b1 k,
    fun pos v k => θ.w2 pos v k - lr * g.w2 pos v k, fun pos v => θ.b2 pos v - lr * g.b2 pos v⟩

/-- One iteration of the minibatch loop on the batch `idx`: `xb = x_train[idx]`,
    `yb = y_train[idx]`, backward, update. -/
def trainStep (exp : K → K) (lr : K) {n : Nat} (x : Fin n → Fin D → K) (y : Fin n → Fin L → Fin V)
    (θ : Params K H D L V) (idx : List (Fin n)) : Params K H D L V :=
  θ.sgd (backward exp (fun i => x (idx.get i)) (fun i => y (idx.get i)) θ) lr

def runBatches (exp : K → K) (lr : K) {n : Nat} (x : Fin n → Fin D → K) (y : Fin n → Fin L → Fin V)
    (θ : Params K H D L V) (batches : List (List (Fin n))) : Params K H D L V :=
  batches.foldl (trainStep exp lr x y) θ

end

end PlateOcr
