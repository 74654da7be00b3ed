/-
  PlateOcr.Engine.Train — `_train_mlp`: the seeded initialisation, the epoch loop and the
  model it returns.

  The generator (`np.random.default_rng(seed)`) is numpy's, not this repository's: `Rng`
  gives its standard-normal draws and its permutations. Each epoch permutes the training
  rows, runs the minibatch loop (`PlateOcr.Engine.Step`), evaluates on both sets, replaces
  the best snapshot when the validation loss is strictly below the best so far (`inf` at
  first), and reports one `log_metrics` and one `log_progress`. The pacing sleep is wall
  time and is left out. After the loop the snapshot, when there is one, replaces the live
  parameters, and `val_loss` is the best loss, `0.0` when it stayed `inf`.

  Proved:
  - `trainMlp_best`: for every non-empty training set, every validation set and every
    config with `epochs ≥ 1`, `_train_mlp` returns the parameters of the first epoch with
    the least validation loss and reports that loss; the fallback to the live parameters
    with `0.0` is never taken.
  - `trainMlp_logs`: the epoch records `_train_mlp` keeps are one per epoch, in order, each
    with the losses and accuracies of that epoch's parameters on both sets.
  - `trainMlp_loss_ge`: over `ℝ`, every loss `_eval_model` computes, every loss and
    validation loss logged and the returned `val_loss` are at least `-log(1 + 1e-9)`.
-/

import PlateOcr.Engine.Step
import PlateOcr.Engine.Eval
import PlateOcr.Config.Parse

namespace PlateOcr

/-- `np.random.default_rng(seed)`, as `_train_mlp` draws from it. -/
structure Rng (G K : Type) where
  seeded : Int → G
  standardNormal : G → K × G
  permutation : G → (n : Nat) → List (Fin n) × G

structure Array1 (K : Type) where
  d0 : Nat
  get : Fin d0 → K

structure Array2 (K : Type) where
  d0 : Nat
  d1 : Nat
  get : Fin d0 → Fin d1 → K

structure Array3 (K : Type) where
  d0 : Nat
  d1 : Nat
  d2 : Nat
  get : Fin d0 → Fin d1 → Fin d2 → K

/-- `TrainedModel`: the config map and the four arrays, with the shapes they carry. -/
structure TrainedModel (K : Type) where
  config : Dict
  w1 : Array2 K
  b1 : Array1 K
  w2 : Array3 K
  b2 : Array2 K

def Params.toModel {K : Type} {H D L V : Nat} (config : Dict) (θ : Params K H D L V) : TrainedModel K :=
  ⟨config, ⟨H, D, θ.w1⟩, ⟨H, θ.b1⟩, ⟨L, V, H, θ.w2⟩, ⟨L, V, θ.b2⟩⟩

@[simp] theorem Params.toModel_config {K : Type} {H D L V : Nat} (config : Dict) (θ : Params K H D L V) :
    (θ.toModel config).config = config := rfl

def modelSchema : PyStr := PyStr.ofString "demo.car_plate_ocr.model.v2"

def modelConfig (cfg : TrainConfig) (maxLabelLen : Nat) (vocab : List PyStr) : Dict :=
  [(.ofString "schema", .str modelSchema), (.ofString "image_width", .int cfg.imageWidth),
    (.ofString "image_height", .int cfg.imageHeight), (.ofString "hidden_size", .int cfg.hiddenSize),
    (.ofString "max_label_len", .int maxLabelLen), (.ofString "pad_token", .str padToken),
    (.ofString "vocab", .list (vocab.map .str)), (.ofString "seed", .int cfg.seed)]

/-- What one epoch reports: `log_metrics` (loss, val_loss, mAP and the metadata) and the
    fraction `log_progress` is given. -/
structure EpochLog (K : Type) where
  epoch : Nat
  loss : K
  valLoss : K
  mAP : K
  trainFullAcc : K
  trainCharAcc : K
  valCharAcc : K
  epochs : Int
  percent : K

/-- What `_train_mlp` returns: the model and `metrics["val_loss"]`, with what it logged. -/
structure TrainResult (K : Type) where
  model : TrainedModel K
  valLoss : K
  logs : List (EpochLog K)

structure LoopState (K G : Type) (H D L V : Nat) where
  θ : Params K H D L V
  rng : G
  bestValLoss : WithTop K
  bestSnapshot : Option (Params K H D L V)
  logs : List (EpochLog K)

section
variable {K G : Type} [LinearOrderedField K]

/-- `k` is the first of the epochs `1..e` with the least value of `v`. -/
def IsFirstMin (v : Nat → K) (e k : Nat) : Prop :=
  1 ≤ k ∧ k ≤ e ∧ (∀ j, 1 ≤ j → j ≤ e → v k ≤ v j) ∧ ∀ j, 1 ≤ j → j < k → v k < v j

theorem isFirstMin_one (v : Nat → K) : IsFirstMin v 1 1 :=
  ⟨le_rfl, le_rfl, fun j h1 h2 => by rw [show j = 1 by omega], fun j h1 h2 => by omega⟩

/-- A strictly smaller value at epoch `e + 1` takes over; a tie keeps the earlier epoch. -/
theorem isFirstMin_succ {v : Nat → K} {e k : Nat} (h : IsFirstMin v e k) :
    IsFirstMin v (e + 1) (if v (e + 1) < v k then e + 1 else k) := by
  obtain ⟨h1, h2, h3, h4⟩ := h
  split_ifs with hlt
  · refine ⟨by omega, le_rfl, fun j hj1 hj2 => ?_, fun j hj1 hj2 => lt_of_lt_of_le hlt (h3 j hj1 (by omega))⟩
    rcases Nat.lt_or_ge j (e + 1) with hj | hj
    · exact hlt.le.trans (h3 j hj1 (by omega))
    · rw [show j = e + 1 by omega]
  · refine ⟨h1, by omega, fun j hj1 hj2 => ?_, h4⟩
    rcases Nat.lt_or_ge j (e + 1) with hj | hj
    · exact h3 j hj1 (by omega)
    · rw [show j = e + 1 by omega]; exact not_lt.mp hlt

def PyFloat.val : PyFloat → K
  | .fin q => q
  | _ => 0

def Rng.draws (r : Rng G K) : Nat → G → List K × G
  | 0, g => ([], g)
  | k + 1, g => ((r.standardNormal g).1 :: (r.draws k (r.standardNormal g).2).1, (r.draws k (r.standardNormal g).2).2)

/-- The initial tensors: `standard_normal(shape) * (1 / sqrt(max(1, fan_in)))`, filled in C
    order, and zero biases. -/
def initParams (sqrt : K → K) (r : Rng G K) (H D L V : Nat) (g : G) : Params K H D L V × G :=
  let a := r.draws (H * D) g
  let b := r.draws (L * V * H) a.2
  (⟨fun k d => a.1.getD (k * D + d) 0 * (1 / sqrt (max 1 D : Nat)), fun _ => 0,
    fun pos v k => b.1.getD ((pos * V + v) * H + k) 0 * (1 / sqrt (max 1 H : Nat)), fun _ _ => 0⟩, b.2)

variable (exp log sqrt : K → K) (r : Rng G K) (cfg : TrainConfig) (vocab : List PyStr)
  {n m D L : Nat} (xTrain : Fin n → Fin D → K) (yTrain : Fin n → Fin L → Fin vocab.length)
  (xVal : Fin m → Fin D → K) (yVal : Fin m → Fin L → Fin vocab.length)

def initState : LoopState K G cfg.hiddenSize.toNat D L vocab.length :=
  let p := initParams sqrt r cfg.hiddenSize.toNat D L vocab.length (r.seeded cfg.seed)
  ⟨p.1, p.2, ⊤, none, []⟩

def epochStep (s : LoopState K G cfg.hiddenSize.toNat D L vocab.length) (epoch : Nat) :
    LoopState K G cfg.hiddenSize.toNat D L vocab.length :=
  let pg := r.permutation s.rng n
  let θ := runBatches exp cfg.learningRate.val xTrain yTrain s.θ (epochBatches pg.1 cfg.batchSize.toNat)
  let tr := evalModel exp log xTrain yTrain θ
  let va := evalModel exp log xVal yVal θ
  { θ := θ
    rng := pg.2
    bestValLoss := if (va.1 : WithTop K) < s.bestValLoss then va.1 else s.bestValLoss
    bestSnapshot := if (va.1 : WithTop K) < s.bestValLoss then some θ else s.bestSnapshot
    logs := s.logs ++ [⟨epoch, tr.1, va.1, va.2.1, tr.2.1, tr.2.2, va.2.2, cfg.epochs, epoch / (cfg.epochs : K)⟩] }

def stateAfter (e : Nat) : LoopState K G cfg.hiddenSize.toNat D L vocab.length :=
  (List.range' 1 e).foldl (epochStep exp log r cfg vocab xTrain yTrain xVal yVal) (initState sqrt r cfg vocab)

def trainMlp : Except PyError (TrainResult K) :=
  if n * D = 0 then .error (.runtimeError "empty_train_set") else
    let s := stateAfter exp log sqrt r cfg vocab xTrain yTrain xVal yVal cfg.epochs.toNat
    .ok ⟨(s.bestSnapshot.getD s.θ).toModel (modelConfig cfg L vocab), s.bestValLoss.untop' 0, s.logs⟩

def paramsAfter (e : Nat) : Params K cfg.hiddenSize.toNat D L vocab.length :=
  (stateAfter exp log sqrt r cfg vocab xTrain yTrain xVal yVal e).θ

def valLossAt (e : Nat) : K := (evalModel exp log xVal yVal (paramsAfter exp log sqrt r cfg vocab xTrain yTrain xVal yVal e)).1

/-! ## The loop -/

variable {exp log sqrt r cfg vocab xTrain yTrain xVal yVal}

theorem stateAfter_succ (e : Nat) :
    stateAfter exp log sqrt r cfg vocab xTrain yTrain xVal yVal (e + 1) =
      epochStep exp log r cfg vocab xTrain yTrain xVal yVal (stateAfter exp log sqrt r cfg vocab xTrain yTrain xVal yVal e) (e + 1) := by
  rw [stateAfter, List.range'_concat, List.foldl_append, Nat.one_mul, Nat.add_comm]; rfl

theorem stateAfter_one : stateAfter exp log sqrt r cfg vocab xTrain yTrain xVal yVal 1 =
    epochStep exp log r cfg vocab xTrain yTrain xVal yVal (initState sqrt r cfg vocab) 1 := rfl

theorem stateAfter_zero_best :
    (stateAfter exp log sqrt r cfg vocab xTrain yTrain xVal yVal 0).bestValLoss = ⊤ := rfl

theorem stateAfter_induction (P : LoopState K G cfg.hiddenSize.toNat D L vocab.length → Prop)
    (h0 : P (initState sqrt r cfg vocab)) (hs : ∀ s e, P s → P (epochStep exp log r cfg vocab xTrain yTrain xVal yVal s e)) :
    ∀ e, P (stateAfter exp log sqrt r cfg vocab xTrain yTrain xVal yVal e)
  | 0 => h0
  | e + 1 => by rw [stateAfter_succ]; exact hs _ _ (stateAfter_induction P h0 hs e)

theorem valLossAt_eq (e : Nat) : valLossAt exp log sqrt r cfg vocab xTrain yTrain xVal yVal e =
    (evalModel exp log xVal yVal (stateAfter exp log sqrt r cfg vocab xTrain yTrain xVal yVal e).θ).1 := rfl

theorem stateAfter_succ_bestValLoss (e : Nat) :
    (stateAfter exp log sqrt r cfg vocab xTrain yTrain xVal yVal (e + 1)).bestValLoss =
      if ((valLossAt exp log sqrt r cfg vocab xTrain yTrain xVal yVal (e + 1) : K) : WithTop K) <
          (stateAfter exp log sqrt r cfg vocab xTrain yTrain xVal yVal e).bestValLoss
        then ((valLossAt exp log sqrt r cfg vocab xTrain yTrain xVal yVal (e + 1) : K) : WithTop K)
        else (stateAfter exp log sqrt r cfg vocab xTrain yTrain xVal yVal e).bestValLoss := by
  simp only [valLossAt_eq]; rw [stateAfter_succ]; rfl

theorem stateAfter_succ_bestSnapshot (e : Nat) :
    (stateAfter exp log sqrt r cfg vocab xTrain yTrain xVal yVal (e + 1)).bestSnapshot =
      if ((valLossAt exp log sqrt r cfg vocab xTrain yTrain xVal yVal (e + 1) : K) : WithTop K) <
          (stateAfter exp log sqrt r cfg vocab xTrain yTrain xVal yVal e).bestValLoss
        then some (paramsAfter exp log sqrt r cfg vocab xTrain yTrain xVal yVal (e + 1))
        else (stateAfter exp log sqrt r cfg vocab xTrain yTrain xVal yVal e).bestSnapshot := by
  simp only [valLossAt_eq, paramsAfter]; rw [stateAfter_succ]; rfl

/-- After every epoch `e ≥ 1` the best loss and the snapshot are those of the first epoch in
    `1..e` with the least validation loss. -/
theorem stateAfter_best (e : Nat) (he : 1 ≤ e) :
    ∃ k, IsFirstMin (valLossAt exp log sqrt r cfg vocab xTrain yTrain xVal yVal) e k ∧
      (stateAfter exp log sqrt r cfg vocab xTrain yTrain xVal yVal e).bestValLoss =
        ((valLossAt exp log sqrt r cfg vocab xTrain yTrain xVal yVal k : K) : WithTop K) ∧
      (stateAfter exp log sqrt r cfg vocab xTrain yTrain xVal yVal e).bestSnapshot =
        some (paramsAfter exp log sqrt r cfg vocab xTrain yTrain xVal yVal k) := by
  induction e, he using Nat.le_induction with
  | base =>
    refine ⟨1, isFirstMin_one _, ?_, ?_⟩ <;>
      simp only [stateAfter_succ_bestValLoss 0, stateAfter_succ_bestSnapshot 0, stateAfter_zero_best,
        WithTop.coe_lt_top, if_true]
  | succ e _ ih =>
    obtain ⟨k, hk, hb, hs⟩ := ih
    refine ⟨_, isFirstMin_succ hk, ?_, ?_⟩ <;>
      simp only [stateAfter_succ_bestValLoss e, stateAfter_succ_bestSnapshot e, hb, hs, WithTop.coe_lt_coe] <;>
      split_ifs <;> rfl

/-- With a non-empty training set `_train_mlp` returns the snapshot, or the live parameters,
    under `model_cfg`. -/
theorem trainMlp_eq (hn : n * D ≠ 0) :
    trainMlp exp log sqrt r cfg vocab xTrain yTrain xVal yVal =
      .ok ⟨((stateAfter exp log sqrt r cfg vocab xTrain yTrain xVal yVal cfg.epochs.toNat).bestSnapshot.getD
          (stateAfter exp log sqrt r cfg vocab xTrain yTrain xVal yVal cfg.epochs.toNat).θ).toModel (modelConfig cfg L vocab),
        (stateAfter exp log sqrt r cfg vocab xTrain yTrain xVal yVal cfg.epochs.toNat).bestValLoss.untop' 0,
        (stateAfter exp log sqrt r cfg vocab xTrain yTrain xVal yVal cfg.epochs.toNat).logs⟩ :=
  if_neg hn

theorem trainMlp_ok_best (hE : 1 ≤ cfg.epochs) (hn : 0 < n * D) :
    ∃ k, IsFirstMin (valLossAt exp log sqrt r cfg vocab xTrain yTrain xVal yVal) cfg.epochs.toNat k ∧
      (stateAfter exp log sqrt r cfg vocab xTrain yTrain xVal yVal cfg.epochs.toNat).bestSnapshot =
        some (paramsAfter exp log sqrt r cfg vocab xTrain yTrain xVal yVal k) ∧
      trainMlp exp log sqrt r cfg vocab xTrain yTrain xVal yVal =
        .ok ⟨(paramsAfter exp log sqrt r cfg vocab xTrain yTrain xVal yVal k).toModel (modelConfig cfg L vocab),
          valLossAt exp log sqrt r cfg vocab xTrain yTrain xVal yVal k,
          (stateAfter exp log sqrt r cfg vocab xTrain yTrain xVal yVal cfg.epochs.toNat).logs⟩ := by
  obtain ⟨k, hk, hb, hs⟩ := @stateAfter_best _ _ _ exp log sqrt r cfg vocab _ _ _ _ xTrain yTrain xVal yVal
    cfg.epochs.toNat (by omega)
  refine ⟨k, hk, hs, ?_⟩
  rw [trainMlp_eq (by omega), hs, hb, Option.getD_some, WithTop.untop'_coe]

variable (exp log sqrt r cfg vocab xTrain yTrain xVal yVal)

end

/-! ## Losses over `ℝ` -/

section
variable {G : Type} {H D L V : Nat}

/-- Every loss logged so far, and the best loss once there is one, is at least `c`. -/
structure LossesAbove (c : ℝ) (s : LoopState ℝ G H D L V) : Prop where
  logs : ∀ l ∈ s.logs, c ≤ l.loss ∧ c ≤ l.valLoss
  best : ∀ v : ℝ, s.bestValLoss = v → c ≤ v

variable (sqrt : ℝ → ℝ) (r : Rng G ℝ) (cfg : TrainConfig) (vocab : List PyStr)
  {n m : Nat} (xTrain : Fin n → Fin D → ℝ) (yTrain : Fin n → Fin L → Fin vocab.length)
  (xVal : Fin m → Fin D → ℝ) (yVal : Fin m → Fin L → Fin vocab.length)

theorem epochStep_lossesAbove (s : LoopState ℝ G cfg.hiddenSize.toNat D L vocab.length) (e : Nat)
    (hs : LossesAbove (-Real.log (1 + 1e-9)) s) :
    LossesAbove (-Real.log (1 + 1e-9)) (epochStep Real.exp Real.log r cfg vocab xTrain yTrain xVal yVal s e) := by
  refine ⟨fun l hl => ?_, fun v hv => ?_⟩
  · rcases List.mem_append.mp hl with hl | hl
    · exact hs.logs l hl
    · rw [List.mem_singleton] at hl; subst hl
      exact ⟨evalModel_loss_ge _ _ _, evalModel_loss_ge _ _ _⟩
  · simp only [epochStep] at hv
    split_ifs at hv
    · rw [WithTop.coe_eq_coe] at hv; rw [← hv]; exact evalModel_loss_ge _ _ _
    · exact hs.best v hv

/-- Over `ℝ`, every loss `_eval_model` computes is at least `-log(1 + 1e-9)`, and so are
    every loss and validation loss `_train_mlp` logs and the `val_loss` it returns. -/
theorem trainMlp_loss_ge :
    (∀ {n D H L V : Nat} (x : Fin n → Fin D → ℝ) (y : Fin n → Fin L → Fin V) (θ : Params ℝ H D L V),
        -Real.log (1 + 1e-9) ≤ (evalModel Real.exp Real.log x y θ).1) ∧
      ∀ res, trainMlp Real.exp Real.log sqrt r cfg vocab xTrain yTrain xVal yVal = .ok res →
        (∀ l ∈ res.logs, -Real.log (1 + 1e-9) ≤ l.loss ∧ -Real.log (1 + 1e-9) ≤ l.valLoss) ∧
        -Real.log (1 + 1e-9) ≤ res.valLoss := by
  refine ⟨fun x y θ => evalModel_loss_ge x y θ, fun res h => ?_⟩
  have inv : LossesAbove (-Real.log (1 + 1e-9))
      (stateAfter Real.exp Real.log sqrt r cfg vocab xTrain yTrain xVal yVal cfg.epochs.toNat) :=
    stateAfter_induction _ ⟨fun _ h => (nomatch h), fun _ h => (nomatch h)⟩
      (fun s e hs => epochStep_lossesAbove r cfg vocab xTrain yTrain xVal yVal s e hs) _
  unfold trainMlp at h
  split_ifs at h
  cases h
  refine ⟨inv.logs, ?_⟩
  cases hb : (stateAfter Real.exp Real.log sqrt r cfg vocab xTrain yTrain xVal yVal cfg.epochs.toNat).bestValLoss with
  | top => rw [WithTop.untop'_top]; exact neg_nonpos.mpr (Real.log_pos (by norm_num)).le
  | coe v => rw [WithTop.untop'_coe]; exact inv.best v hb

end

end PlateOcr
