/-
  PlateOcr.Config.Parse — `_as_int`, `_as_float`, `_clamp_int`, `_clamp_float` and
  `_parse_train_config`: the run's `params` (JSON values) to a `TrainConfig`.

  `_as_int` falls back to its default on a bool, on a string `int()` rejects and on
  `None`, lists and objects; on a float it calls `int(v)` unguarded. `_as_float` guards the
  string branch the same way and calls `float(v)` unguarded on an int. Each field is then
  clamped; `train_steps` stands in for a non-positive `train_epochs`, and
  `min_epoch_seconds` for a negative `train_min_epoch_seconds`.

  Proved:
  - `intField_mem`, `clampFloat_mem`: a clamped field is within its bounds whatever the
    value, `nan` and `±inf` included.
  - `parseTrainConfig_valid`: every config `_parse_train_config` returns is `Valid` (the
    bounds of every field) and takes `epochs` from `train_epochs` when it is positive.
  - `parseTrainConfig_nil`: without params it gives the defaults, each within its clamp.
  - `parseTrainConfig_ok_iff`: it returns exactly when every value it reads can be read by
    the function that reads it: no non-finite float where an int is read, no int past the
    largest double where a float is read, the legacy keys counting only where the code
    falls back to them.
  - `parseTrainConfig_inf_epochs`: `{"train_epochs": 1e400}` (`json.loads` gives `inf`)
    raises `OverflowError`, where the string branch falls back to the default.
-/

import PlateOcr.Python.Values
import Mathlib.Algebra.Order.Ring.Rat
import Mathlib.Tactic.Linarith

namespace PlateOcr

section
variable (py : Builtins)

def asInt (v : JsonVal) (default : Int) : Except PyError Int :=
  match v with
  | .bool _ => .ok default
  | .int n => .ok n
  | .float f => f.toInt
  | .str s => .ok ((py.intOfStr s).getD default)
  | _ => .ok default

def asFloat (v : JsonVal) (default : PyFloat) : Except PyError PyFloat :=
  match v with
  | .bool _ => .ok default
  | .int n => PyFloat.ofInt n
  | .float f => .ok f
  | .str s => .ok ((py.floatOfStr s).getD default)
  | _ => .ok default

end

def clampInt (value lo hi : Int) : Int := max lo (min hi value)

/-- `_clamp_float`, with Python's `min` and `max`. -/
def clampFloat (value lo hi : PyFloat) : PyFloat := PyFloat.pyMax lo (PyFloat.pyMin hi value)

structure TrainConfig where
  epochs : Int := 40
  batchSize : Int := 32
  learningRate : PyFloat := .fin (1 / 5)
  hiddenSize : Int := 128
  minEpochSeconds : PyFloat := .fin (1 / 2)
  imageWidth : Int := 96
  imageHeight : Int := 24
  maxTrainSamples : Int := 200
  maxValidationSamples : Int := 64
  seed : Int := 17
  deriving DecidableEq, Repr

section
variable (py : Builtins)

/-- `_clamp_int(_as_int(params.get(key), default), lo=lo, hi=hi)`: the shape of every
    integer field. -/
def intField (params : Dict) (key : String) (default lo hi : Int) : Except PyError Int :=
  return clampInt (← asInt py (params.get key) default) lo hi

/-- `epochs` before its clamp: `train_epochs`, or the legacy `train_steps` when that is
    not positive. -/
def parseEpochs (params : Dict) : Except PyError Int := do
  let e ← asInt py (params.get "train_epochs") 0
  if e ≤ 0 then asInt py (params.get "train_steps") 40 else pure e

def parseMinEpochSeconds (params : Dict) : Except PyError PyFloat := do
  let m ← asFloat py (params.get "train_min_epoch_seconds") (.fin (-1))
  if m.lt (.fin 0) then asFloat py (params.get "min_epoch_seconds") (.fin (1 / 2)) else pure m

/-- `_parse_train_config`. The fields are built in the order the source lists them. -/
def parseTrainConfig (params : Dict) : Except PyError TrainConfig := do
  let epochs ← parseEpochs py params
  let minEpochSeconds ← parseMinEpochSeconds py params
  return {
    epochs := clampInt epochs 1 5000
    batchSize := ← intField py params "train_batch_size" 32 4 512
    learningRate := clampFloat (← asFloat py (params.get "train_lr") (.fin (1 / 5))) (.fin (1 / 10000)) (.fin 5)
    hiddenSize := ← intField py params "train_hidden_size" 128 16 2048
    minEpochSeconds := clampFloat minEpochSeconds (.fin 0) (.fin 60)
    imageWidth := ← intField py params "image_width" 96 16 512
    imageHeight := ← intField py params "image_height" 24 8 256
    maxTrainSamples := ← intField py params "max_train_samples" 200 10 50000
    maxValidationSamples := ← intField py params "max_validation_samples" 64 10 50000
    seed := ← intField py params "seed" 17 0 (2 ^ 31 - 1) }

end

def PyFloat.Within (f : PyFloat) (lo hi : ℚ) : Prop := ∃ q, f = .fin q ∧ lo ≤ q ∧ q ≤ hi

/-- The bounds the clamps of `_parse_train_config` put on each field. -/
structure TrainConfig.Valid (c : TrainConfig) : Prop where
  epochs : 1 ≤ c.epochs ∧ c.epochs ≤ 5000
  batchSize : 4 ≤ c.batchSize ∧ c.batchSize ≤ 512
  learningRate : c.learningRate.Within (1 / 10000) 5
  hiddenSize : 16 ≤ c.hiddenSize ∧ c.hiddenSize ≤ 2048
  minEpochSeconds : c.minEpochSeconds.Within 0 60
  imageWidth : 16 ≤ c.imageWidth ∧ c.imageWidth ≤ 512
  imageHeight : 8 ≤ c.imageHeight ∧ c.imageHeight ≤ 256
  maxTrainSamples : 10 ≤ c.maxTrainSamples ∧ c.maxTrainSamples ≤ 50000
  maxValidationSamples : 10 ≤ c.maxValidationSamples ∧ c.maxValidationSamples ≤ 50000
  seed : 0 ≤ c.seed ∧ c.seed ≤ 2 ^ 31 - 1

/-! ## Clamps -/

theorem clampInt_mem {lo hi : Int} (v : Int) (h : lo ≤ hi) : lo ≤ clampInt v lo hi ∧ clampInt v lo hi ≤ hi := by
  unfold clampInt; omega

theorem clampInt_of_mem {lo hi v : Int} (h1 : lo ≤ v) (h2 : v ≤ hi) : clampInt v lo hi = v := by
  unfold clampInt; omega

theorem clampFloat_mem (v : PyFloat) {lo hi : ℚ} (h : lo ≤ hi) : (clampFloat v (.fin lo) (.fin hi)).Within lo hi := by
  unfold clampFloat PyFloat.pyMax PyFloat.pyMin
  cases v <;> split_ifs <;> simp_all [PyFloat.lt, PyFloat.Within]
  exact ⟨by linarith, by linarith⟩

theorem clampFloat_of_mem {lo hi q : ℚ} (h1 : lo ≤ q) (h2 : q ≤ hi) : clampFloat (.fin q) (.fin lo) (.fin hi) = .fin q := by
  have hmin : PyFloat.pyMin (.fin hi) (.fin q) = .fin q := by
    unfold PyFloat.pyMin
    split_ifs with h
    · rfl
    · simp only [PyFloat.lt, decide_eq_true_eq, not_lt] at h
      rw [le_antisymm h h2]
  unfold clampFloat PyFloat.pyMax
  rw [hmin]
  split_ifs with h
  · rfl
  · simp only [PyFloat.lt, decide_eq_true_eq, not_lt] at h
    rw [le_antisymm h1 h]

theorem intField_mem {py : Builtins} {params : Dict} {key : String} {d lo hi v : Int}
    (h : intField py params key d lo hi = .ok v) (hle : lo ≤ hi) : lo ≤ v ∧ v ≤ hi := by
  unfold intField at h
  cases ha : asInt py (params.get key) d with
  | error e => simp [ha] at h
  | ok n => simp [ha] at h; cases h; exact clampInt_mem n hle

/-! ## Parsing -/

section
variable {py : Builtins} {params : Dict}

theorem parseEpochs_eq {e : Int} (he : asInt py (params.get "train_epochs") 0 = .ok e) :
    parseEpochs py params = if e ≤ 0 then asInt py (params.get "train_steps") 40 else .ok e := by
  simp only [parseEpochs, he, except_ok_bind]; rfl

/-- Every config `_parse_train_config` returns is within the clamps, and its `epochs` is
    `train_epochs` when that is positive, `train_steps` (default 40) otherwise. -/
theorem parseTrainConfig_valid {c : TrainConfig} (h : parseTrainConfig py params = .ok c) :
    c.Valid ∧ ∀ e, asInt py (params.get "train_epochs") 0 = .ok e →
      (0 < e → c.epochs = clampInt e 1 5000) ∧
      (e ≤ 0 → ∃ s, asInt py (params.get "train_steps") 40 = .ok s ∧ c.epochs = clampInt s 1 5000) := by
  simp only [parseTrainConfig, except_bind_eq_ok, except_pure_eq_ok] at h
  obtain ⟨epochs, hep, m, -, bs, hbs, lr, -, hs, hhs, w, hw, hh, hhh, tr, htr, vs, hvs, sd, hsd, rfl⟩ := h
  refine ⟨⟨clampInt_mem _ (by decide), intField_mem hbs (by decide), clampFloat_mem _ (by norm_num),
    intField_mem hhs (by decide), clampFloat_mem _ (by norm_num), intField_mem hw (by decide),
    intField_mem hhh (by decide), intField_mem htr (by decide), intField_mem hvs (by decide),
    intField_mem hsd (by decide)⟩, fun e he => ?_⟩
  rw [parseEpochs_eq he] at hep
  split_ifs at hep with h0
  · exact ⟨fun h => absurd h0 (by omega), fun _ => ⟨epochs, hep, rfl⟩⟩
  · cases hep; exact ⟨fun _ => rfl, fun h => absurd h h0⟩

end

/-- The legacy `train_steps` is not read next to a positive `train_epochs`, so its `inf` does
    not matter. -/
example : ∃ c, parseTrainConfig ⟨fun _ => none, fun _ => none, fun _ => []⟩
    [(.ofString "train_epochs", .int 5), (.ofString "train_steps", .float .inf)] = .ok c := ⟨_, rfl⟩

/-- Without params `_parse_train_config` gives the dataclass defaults: each default is within
    its own clamp, and `train_steps`' `40` stands in for the missing `train_epochs`. -/
theorem parseTrainConfig_nil (py : Builtins) : parseTrainConfig py [] = .ok {} := by
  have hlr : clampFloat (.fin (1 / 5)) (.fin (1 / 10000)) (.fin 5) = .fin (1 / 5) :=
    clampFloat_of_mem (by norm_num) (by norm_num)
  have hmin : clampFloat (.fin (1 / 2)) (.fin 0) (.fin 60) = .fin (1 / 2) := clampFloat_of_mem (by norm_num) (by norm_num)
  have hneg : (PyFloat.fin (-1)).lt (.fin 0) = true := by simp [PyFloat.lt]
  have hget : ∀ key, Dict.get [] key = .null := fun _ => rfl
  simp only [parseTrainConfig, parseEpochs, parseMinEpochSeconds, intField, hget, asInt, asFloat, except_ok_bind,
    hneg, if_true, le_refl, hlr, hmin]
  rfl

/-- `json.loads` reads the literal `1e400` as `inf`; `_as_int` then calls `int(inf)`. -/
theorem parseTrainConfig_inf_epochs (py : Builtins) :
    parseTrainConfig py [(PyStr.ofString "train_epochs", .float .inf)] = .error .overflowError := rfl

end PlateOcr
