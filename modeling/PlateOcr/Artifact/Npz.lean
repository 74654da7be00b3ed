/-
  PlateOcr.Artifact.Npz — the model file: `_save_model_npz` and `_load_model_npz`.

  The saver copies the model's config, sets `pixel_mean` and `pixel_std` to `float(mean)` and
  `float(std)`, and writes it as JSON next to the four arrays cast to `float32`. The loader
  reads the JSON back, takes `float(cfg.get("pixel_mean", 0.0))` and
  `float(cfg.get("pixel_std", 1.0))`, and the four arrays. `json.dumps(…, sort_keys=True)`
  then `json.loads` gives back the same bindings (only their order changes, which no `get`
  sees), so the file holds the dict itself; the `float32` casts are the identity, as in the
  engine. How the engine's numbers become JSON floats and back is a `FloatCodec`, whose law
  is that reading gives back what was written: `float(x)` of a float is `x`. The law makes
  `write` injective into `PyFloat`, which is countable, so a codec exists only for a
  countable field such as `ℚ` (`FloatCodec.rat`) and none for `ℝ`: a statement over every
  codec says something only of such fields, and the runs of the saved-file theorems take
  `ℚ`.

  Proved:
  - `loadModelNpz_saveModelNpz`: loading what was saved gives back the four arrays, the
    config with the two keys set, and `(mean, std)`.
-/

import PlateOcr.Engine.Train

namespace PlateOcr

/-- The engine's numbers as Python floats: how `float(mean)` writes one into the config and how
    `float(...)` of the stored float reads it back. -/
structure FloatCodec (K : Type) where
  write : K → PyFloat
  read : PyFloat → K
  read_write : ∀ v, read (write v) = v

/-- Exact floats: a finite float is its rational value. -/
def FloatCodec.rat : FloatCodec ℚ := ⟨.fin, PyFloat.val, fun q => by simp [PyFloat.val]⟩

def pyFloat (py : Builtins) : JsonVal → Except PyError PyFloat
  | .float f => .ok f
  | .int n => PyFloat.ofInt n
  | .bool b => .ok (.fin (if b then 1 else 0))
  | .str s => match py.floatOfStr s with
    | some f => .ok f
    | none => .error .valueError
  | _ => .error .typeError

/-- What `np.savez_compressed` writes: the config and the four arrays. -/
structure NpzFile (K : Type) where
  config : Dict
  w1 : Array2 K
  b1 : Array1 K
  w2 : Array3 K
  b2 : Array2 K

section
variable {K : Type}

def TrainedModel.withConfig (model : TrainedModel K) (config : Dict) : TrainedModel K :=
  { model with config := config }

/-- `cfg = dict(model.config)`, then `cfg["pixel_mean"] = float(mean)` and `cfg["pixel_std"] = float(std)`. -/
def npzConfig (codec : FloatCodec K) (config : Dict) (mean std : K) : Dict :=
  (config.set "pixel_mean" (.float (codec.write mean))).set "pixel_std" (.float (codec.write std))

def saveModelNpz (codec : FloatCodec K) (model : TrainedModel K) (mean std : K) : NpzFile K :=
  ⟨npzConfig codec model.config mean std, model.w1, model.b1, model.w2, model.b2⟩

def loadModelNpz (py : Builtins) (codec : FloatCodec K) (file : NpzFile K) :
    Except PyError (TrainedModel K × K × K) := do
  let mean ← pyFloat py (file.config.getD "pixel_mean" (.float (.fin 0)))
  let std ← pyFloat py (file.config.getD "pixel_std" (.float (.fin 1)))
  pure (⟨file.config, file.w1, file.b1, file.w2, file.b2⟩, codec.read mean, codec.read std)

theorem pixelStd_ne_pixelMean : PyStr.ofString "pixel_std" ≠ PyStr.ofString "pixel_mean" := by
  simp [PyStr.ofString]

/-- Loading the file `_save_model_npz` writes gives back its four arrays, its config with
    `pixel_mean` and `pixel_std` set, and the `(mean, std)` it was given. -/
theorem loadModelNpz_saveModelNpz (py : Builtins) (codec : FloatCodec K) (model : TrainedModel K) (mean std : K) :
    loadModelNpz py codec (saveModelNpz codec model mean std) =
      .ok (model.withConfig (npzConfig codec model.config mean std), mean, std) := by
  simp only [loadModelNpz, saveModelNpz, npzConfig, Dict.getD_set_ne _ _ _ pixelStd_ne_pixelMean,
    Dict.getD_set_same, pyFloat, except_ok_bind, codec.read_write]
  rfl

end

end PlateOcr
