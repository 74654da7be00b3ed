/-
  PlateOcr.Pipeline.Evaluation — `run_evaluation`: the split it reads, the images it takes,
  and the prediction it uploads for each of them.

  The run's first model artifact is an `.npz` file, loaded with `_load_model_npz`, or any
  other file, for which every preview predicts its own label with confidence `1.0`. The split
  is `ANIMUS_EVAL_SPLIT` (default `evaluate`) through `_normalize_split`, whose `str.lower` is
  Python's and a parameter here; `_resolve_split_dir` normalises it once more and takes the
  first of its candidate directories under the root `_resolve_dataset_root` finds (`evalute`
  before `evaluate`). The images are `_iter_images` of that directory, with
  `ANIMUS_EVAL_PREVIEW_SAMPLES` (default `16`) clamped to `[1, 128]`. Of the two uploads per
  image the model keeps the prediction's metadata: `preview_index`, `label`,
  `predicted_class`, `confidence` and `is_correct`. The downloads, the input upload, the
  progress events and the final metric are left out.

  Proved:
  - `normalizeSplit_idem`: for a `lower` that is idempotent, adds no surrounding whitespace
    and keeps `validation` and `evaluate`, `_normalize_split` is idempotent, so the second
    normalisation in `_resolve_split_dir` looks up the directory of the split it was given.
  - `runEvaluation_previews`: whenever `run_evaluation` returns, its previews are the first
    `clamp(preview_samples, 1, 128)` images of the split directory in sorted order, indexed
    from `0` and labelled by their stems, between one and 128 of them, each `is_correct`
    exactly when its prediction is its label.
  - `runEvaluation_fallback`: with an artifact that is not an `.npz`, `run_evaluation` returns
    exactly when the split directory is there and holds an image, and then every preview
    predicts its own label with confidence `1.0` and counts as correct.
  - `runEvaluation_trained`: for every dataset and params `run_training` accepts, whose
    images PIL decodes, `run_training` returns the engine's parameters after the epoch of
    least validation loss, trained on the images it chose, and evaluating the file it saves
    returns on every split directory holding an image PIL decodes, each preview being the
    engine's text under those parameters for the image's features, normalised with the saved
    mean and deviation.
-/

import PlateOcr.Pipeline.Training

namespace PlateOcr

def envOr (v : Option PyStr) (default : String) : PyStr :=
  match v with
  | some s => if s.isEmpty then .ofString default else s
  | none => .ofString default

/-- The membership tests of `_normalize_split` on the stripped, lowered name. -/
def splitName (v : PyStr) : PyStr :=
  if v ∈ ["val", "valid", "validation"].map PyStr.ofString then .ofString "validation"
  else if v ∈ ["eval", "evalute", "evaluate"].map PyStr.ofString then .ofString "evaluate"
  else if v ∈ ["train", "test"].map PyStr.ofString then v
  else if v.isEmpty then .ofString "evaluate" else v

def normalizeSplit (lower : PyStr → PyStr) (split : PyStr) : PyStr := splitName (lower (pyStrip split))

section
variable {P : Type} (lower : PyStr → PyStr) (fs : DirTree P)

/-- `_resolve_split_dir(root, split)`: the first candidate directory that is there. -/
def resolveSplitDir (root : P) (split : PyStr) : Option P :=
  let normalized := normalizeSplit lower split
  let candidates := if normalized = .ofString "evaluate" then [.ofString "evalute", .ofString "evaluate"] else [normalized]
  (candidates.map (fs.child root)).find? fs.isDir

end

/-! ## The split name -/

theorem splitName_splitName (v : PyStr) : splitName (splitName v) = splitName v := by
  have hcases : splitName v = .ofString "validation" ∨ splitName v = .ofString "evaluate" ∨ splitName v = v := by
    unfold splitName
    split_ifs <;> simp only [true_or, or_true]
  rcases hcases with h | h | h <;> rw [h] <;> first | decide | exact h

/-- For a `lower` that is idempotent, adds no surrounding whitespace and keeps `validation`
    and `evaluate`, `_normalize_split` is idempotent; so `_resolve_split_dir`, which normalises
    the split `run_evaluation` already normalised, looks up the directory of that split. -/
theorem normalizeSplit_idem {lower : PyStr → PyStr} (hidem : ∀ x, lower (lower x) = lower x)
    (hstrip : ∀ x, pyStrip (lower (pyStrip x)) = lower (pyStrip x))
    (hfix : lower (.ofString "validation") = .ofString "validation" ∧ lower (.ofString "evaluate") = .ofString "evaluate")
    (s : PyStr) :
    normalizeSplit lower (normalizeSplit lower s) = normalizeSplit lower s ∧
      ∀ {P : Type} (fs : DirTree P) (root : P),
        resolveSplitDir lower fs root (normalizeSplit lower s) = resolveSplitDir lower fs root s := by
  have hfixed : pyStrip (normalizeSplit lower s) = normalizeSplit lower s ∧
      lower (normalizeSplit lower s) = normalizeSplit lower s := by
    unfold normalizeSplit splitName
    split_ifs
    · exact ⟨by decide, hfix.1⟩
    · exact ⟨by decide, hfix.2⟩
    · exact ⟨hstrip s, hidem _⟩
    · exact ⟨by decide, hfix.2⟩
    · exact ⟨hstrip s, hidem _⟩
  have hidem' : normalizeSplit lower (normalizeSplit lower s) = normalizeSplit lower s := by
    conv_lhs => rw [normalizeSplit, hfixed.1, hfixed.2]
    exact splitName_splitName _
  exact ⟨hidem', fun fs root => by simp only [resolveSplitDir, hidem']⟩

theorem normalizeSplit_idem_id :
    ((∀ x : PyStr, id (id x) = id x) ∧ (∀ x, pyStrip (id (pyStrip x)) = id (pyStrip x)) ∧
      (id (PyStr.ofString "validation") = .ofString "validation" ∧ id (PyStr.ofString "evaluate") = .ofString "evaluate")) ∧
      normalizeSplit id (normalizeSplit id (.ofString " val ")) = normalizeSplit id (.ofString " val ") ∧
      ∀ {P : Type} (fs : DirTree P) (root : P),
        resolveSplitDir id fs root (normalizeSplit id (.ofString " val ")) = resolveSplitDir id fs root (.ofString " val ") :=
  ⟨⟨fun _ => rfl, pyStrip_pyStrip, rfl, rfl⟩, normalizeSplit_idem (fun _ => rfl) pyStrip_pyStrip ⟨rfl, rfl⟩ _⟩

/-- The prediction upload of one preview: `preview_index`, `label`, `predicted_class`,
    `confidence` and `is_correct`. -/
structure Preview (K : Type) where
  index : Nat
  label : PyStr
  predicted : PyStr
  confidence : K
  isCorrect : Bool

section
variable {K Img : Type} [LinearOrderedField K] (images : Images Img) (py : Builtins) (codec : FloatCodec K)
  (exp : K → K)

def previewSamples (env : Option PyStr) : Except PyError Int := do
  pure (clampInt (← asInt py ((env.map .str).getD .null) 16) 1 128)

def loadArtifact : Option (NpzFile K) → Except PyError (Option (TrainedModel K × K × K))
  | some file => do pure (some (← loadModelNpz py codec file))
  | none => pure none

/-- One pass of `for idx, img in enumerate(images)`: `_predict_text` of the loaded model on the
    image's features, or `(label, 1.0)` without one. -/
def previewImage (loaded : Option (TrainedModel K × K × K)) (idx : Nat) (img : Img) : Except PyError (Preview K) := do
  let label := labelFromPath images img
  let out ← match loaded with
    | some (model, mean, std) => evalPreview images py exp model mean std img
    | none => pure (label, 1)
  pure ⟨idx, label, out.1, out.2, out.1 == label⟩

/-- `run_evaluation` from the run's first model artifact (`some` file for an `.npz`), the
    extracted dataset and the two environment variables, to its previews. -/
def runEvaluation (lower : PyStr → PyStr) (fs : DirTree Img) (artifact : Option (NpzFile K))
    (splitEnv previewEnv : Option PyStr) (extracted : Img) : Except PyError (List (Preview K)) := do
  let split := normalizeSplit lower (envOr splitEnv "evaluate")
  let n ← previewSamples py previewEnv
  let loaded ← loadArtifact py codec artifact
  match resolveSplitDir lower fs (resolveDatasetRoot fs extracted) split with
  | none => .error (.runtimeError "dataset_missing_split")
  | some splitDir =>
    let imgs := iterImages images n [] (fs.rglob splitDir)
    if imgs.isEmpty then .error (.runtimeError "no_images_for_preview") else
      imgs.enum.mapM fun p => previewImage images py exp loaded p.1 p.2

/-- The preview the engine's parameters give the `idx`-th image: the text for its features at
    the config's size, normalised with `(mean, std)`. -/
def enginePreview (cfg : TrainConfig) (vocab : List PyStr) (hV : 0 < vocab.length) {H L : Nat}
    (θ : Params K H (cfg.imageHeight.toNat * cfg.imageWidth.toNat) L vocab.length) (mean std : K) (p : Nat × Img) :
    Preview K :=
  let out := engineText exp vocab hV θ fun d =>
    ((images.pixels p.2 cfg.imageWidth.toNat cfg.imageHeight.toNat (finProdFinEquiv.symm d).1 (finProdFinEquiv.symm d).2 :
      Nat) / 255 - mean) / std
  ⟨p.1, labelFromPath images p.2, out.1, out.2, out.1 == labelFromPath images p.2⟩

/-! ## The previews -/

theorem map_eq_of_mapM_ok {α β γ ε : Type} {f : α → Except ε β} {g : β → γ} {h : α → γ}
    (hf : ∀ a b, f a = .ok b → g b = h a) : ∀ {l : List α} {bs : List β}, l.mapM f = .ok bs → bs.map g = l.map h
  | [], bs, hl => by
    rw [List.mapM_nil] at hl
    cases hl
    rfl
  | a :: l, bs, hl => by
    obtain ⟨b, hb, bs', hbs', rfl⟩ : ∃ b, f a = .ok b ∧ ∃ bs', l.mapM f = .ok bs' ∧ b :: bs' = bs := by
      simpa only [List.mapM_cons, except_bind_eq_ok, except_pure_eq_ok] using hl
    rw [List.map_cons, List.map_cons, hf a b hb, map_eq_of_mapM_ok hf hbs']

omit [LinearOrderedField K] in
theorem previewSamples_ok (env : Option PyStr) : ∃ n, previewSamples py env = .ok n ∧ 1 ≤ n ∧ n ≤ 128 := by
  obtain ⟨m, hm⟩ : ∃ m, asInt py ((env.map .str).getD .null) 16 = .ok m := by
    cases env <;> exact ⟨_, rfl⟩
  exact ⟨clampInt m 1 128, by rw [previewSamples, hm]; rfl, clampInt_mem m (by decide)⟩

theorem previewImage_fields {loaded : Option (TrainedModel K × K × K)} {idx : Nat} {img : Img} {pv : Preview K}
    (h : previewImage images py exp loaded idx img = .ok pv) :
    pv.index = idx ∧ pv.label = labelFromPath images img ∧ pv.isCorrect = (pv.predicted == pv.label) := by
  rcases loaded with _ | ⟨model, mean, std⟩ <;> simp only [previewImage, except_bind_eq_ok, except_pure_eq_ok] at h <;>
    obtain ⟨out, -, rfl⟩ := h <;> exact ⟨rfl, rfl, rfl⟩

theorem previewImage_none (idx : Nat) (img : Img) :
    previewImage images py exp none idx img =
      .ok ⟨idx, labelFromPath images img, labelFromPath images img, 1, true⟩ := by
  simp [previewImage]

section
variable {lower : PyStr → PyStr} {fs : DirTree Img} {artifact : Option (NpzFile K)} {splitEnv previewEnv : Option PyStr}
  {extracted : Img}

theorem runEvaluation_inv {previews : List (Preview K)}
    (h : runEvaluation images py codec exp lower fs artifact splitEnv previewEnv extracted = .ok previews) :
    ∃ n loaded splitDir, previewSamples py previewEnv = .ok n ∧ loadArtifact py codec artifact = .ok loaded ∧
      resolveSplitDir lower fs (resolveDatasetRoot fs extracted) (normalizeSplit lower (envOr splitEnv "evaluate")) =
        some splitDir ∧ iterImages images n [] (fs.rglob splitDir) ≠ [] ∧
      (iterImages images n [] (fs.rglob splitDir)).enum.mapM (fun p => previewImage images py exp loaded p.1 p.2) =
        .ok previews := by
  simp only [runEvaluation, except_bind_eq_ok] at h
  obtain ⟨n, hn, loaded, hl, h⟩ := h
  split at h
  · cases h
  · rename_i splitDir hsplit
    split_ifs at h with he
    exact ⟨n, loaded, splitDir, hn, hl, hsplit, by simpa using he, h⟩

theorem runEvaluation_eq {n : Int} {loaded : Option (TrainedModel K × K × K)} {splitDir : Img}
    (hn : previewSamples py previewEnv = .ok n) (hl : loadArtifact py codec artifact = .ok loaded)
    (hsplit : resolveSplitDir lower fs (resolveDatasetRoot fs extracted) (normalizeSplit lower (envOr splitEnv "evaluate")) =
      some splitDir) (hne : iterImages images n [] (fs.rglob splitDir) ≠ []) :
    runEvaluation images py codec exp lower fs artifact splitEnv previewEnv extracted =
      (iterImages images n [] (fs.rglob splitDir)).enum.mapM (fun p => previewImage images py exp loaded p.1 p.2) := by
  simp only [runEvaluation, hn, hl, except_ok_bind, hsplit, List.isEmpty_iff, hne, if_false]

end

/-- Whenever `run_evaluation` returns, its previews are the first `clamp(preview_samples, 1,
    128)` images of the split directory in sorted order, indexed from `0` and labelled by their
    stems: at least one and at most 128, each `is_correct` exactly when its prediction is its
    label. -/
theorem runEvaluation_previews (lower : PyStr → PyStr) (fs : DirTree Img) (artifact : Option (NpzFile K))
    (splitEnv previewEnv : Option PyStr) (extracted : Img) {previews : List (Preview K)}
    (h : runEvaluation images py codec exp lower fs artifact splitEnv previewEnv extracted = .ok previews) :
    ∃ n splitDir, previewSamples py previewEnv = .ok n ∧
      resolveSplitDir lower fs (resolveDatasetRoot fs extracted) (normalizeSplit lower (envOr splitEnv "evaluate")) =
        some splitDir ∧
      previews.map (fun pv => (pv.index, pv.label)) =
        (((fs.rglob splitDir).filter images.isImage).take n.toNat).enum.map (fun p => (p.1, labelFromPath images p.2)) ∧
      previews ≠ [] ∧ previews.length ≤ 128 ∧ ∀ pv ∈ previews, pv.isCorrect = (pv.predicted == pv.label) := by
  obtain ⟨n, loaded, splitDir, hn, -, hsplit, hne, hmap⟩ := runEvaluation_inv images py codec exp h
  obtain ⟨n', hn', h1, h128⟩ := previewSamples_ok py previewEnv
  obtain rfl : n = n' := Except.ok.inj (hn.symm.trans hn')
  have himgs : iterImages images n [] (fs.rglob splitDir) = ((fs.rglob splitDir).filter images.isImage).take n.toNat := by
    rw [iterImages_nil, max_eq_right h1]
  have hlabels := map_eq_of_mapM_ok (g := fun pv : Preview K => (pv.index, pv.label))
    (h := fun p : Nat × Img => (p.1, labelFromPath images p.2)) (fun p pv hpv => by
      obtain ⟨hi, hl, -⟩ := previewImage_fields images py exp hpv
      simp only [hi, hl]) hmap
  have hlen : previews.length = (iterImages images n [] (fs.rglob splitDir)).length := by
    simpa using congrArg List.length hlabels
  refine ⟨n, splitDir, hn, hsplit, himgs ▸ hlabels, List.ne_nil_of_length_pos (hlen ▸ List.length_pos.mpr hne), ?_,
    fun pv hpv => ?_⟩
  · rw [hlen, himgs, List.length_take]
    omega
  · obtain ⟨p, -, hp⟩ := mem_of_mapM_ok hmap pv hpv
    exact (previewImage_fields images py exp hp).2.2

theorem runEvaluation_previews_single :
    let images : Images Unit := ⟨fun _ => [], fun _ => true, fun _ => true, fun _ _ _ _ _ => 0⟩
    let fs : DirTree Unit := ⟨fun _ => true, fun _ => false, fun _ => [], fun _ _ => (), fun _ => [()]⟩
    let py : Builtins := ⟨fun _ => none, fun _ => none, fun _ => []⟩
    let previews : List (Preview ℚ) := [⟨0, [], [], 1, true⟩]
    runEvaluation images py FloatCodec.rat id id fs none none none () = .ok previews ∧
      ∃ n splitDir, previewSamples py none = .ok n ∧
        resolveSplitDir id fs (resolveDatasetRoot fs ()) (normalizeSplit id (envOr none "evaluate")) = some splitDir ∧
        previews.map (fun pv => (pv.index, pv.label)) =
          (((fs.rglob splitDir).filter images.isImage).take n.toNat).enum.map (fun p => (p.1, labelFromPath images p.2)) ∧
        previews ≠ [] ∧ previews.length ≤ 128 ∧ ∀ pv ∈ previews, pv.isCorrect = (pv.predicted == pv.label) := by
  intro images fs py previews
  have h : runEvaluation images py FloatCodec.rat id id fs none none none () = .ok previews := rfl
  exact ⟨h, runEvaluation_previews images py FloatCodec.rat id id fs none none none () h⟩

/-- With an artifact that is not an `.npz`, `run_evaluation` returns exactly when the split
    directory is there and holds an image, and then every preview predicts its own label with
    confidence `1.0` and counts as correct. -/
theorem runEvaluation_fallback (lower : PyStr → PyStr) (fs : DirTree Img) (splitEnv previewEnv : Option PyStr)
    (extracted : Img) :
    ((∃ previews, runEvaluation images py codec exp lower fs none splitEnv previewEnv extracted = .ok previews) ↔
      ∃ splitDir, resolveSplitDir lower fs (resolveDatasetRoot fs extracted) (normalizeSplit lower (envOr splitEnv "evaluate")) =
        some splitDir ∧ ∃ p ∈ fs.rglob splitDir, images.isImage p) ∧
    ∀ previews, runEvaluation images py codec exp lower fs none splitEnv previewEnv extracted = .ok previews →
      ∀ pv ∈ previews, pv.predicted = pv.label ∧ pv.confidence = 1 ∧ pv.isCorrect = true := by
  refine ⟨⟨fun ⟨_, h⟩ => ?_, fun ⟨splitDir, hsplit, hprev⟩ => ?_⟩, fun previews h pv hpv => ?_⟩
  · obtain ⟨n, -, splitDir, -, -, hsplit, hne, -⟩ := runEvaluation_inv images py codec exp h
    obtain ⟨p, hp⟩ := List.exists_mem_of_ne_nil _ hne
    rw [iterImages_nil] at hp
    obtain ⟨hmem, himg⟩ := List.mem_filter.mp (List.mem_of_mem_take hp)
    exact ⟨splitDir, hsplit, p, hmem, himg⟩
  · obtain ⟨n, hn, -⟩ := previewSamples_ok py previewEnv
    rw [runEvaluation_eq images py codec exp hn (rfl : loadArtifact py codec none = .ok none) hsplit (iterImages_ne_nil images n [] _ (.inr hprev)),
      mapM_eq_ok _ fun p _ => previewImage_none images py exp p.1 p.2]
    exact ⟨_, rfl⟩
  · obtain ⟨n, loaded, splitDir, -, hl, -, -, hmap⟩ := runEvaluation_inv images py codec exp h
    cases hl
    obtain ⟨p, -, hp⟩ := mem_of_mapM_ok hmap pv hpv
    rw [previewImage_none] at hp
    cases hp
    exact ⟨rfl, rfl, rfl⟩

section
variable {G : Type}

/-- For every dataset whose train directory holds an image, whose images PIL decodes, and every
    params `_parse_train_config` accepts, `run_training` saves a model, trained by `_train_mlp` on
    the normalised features (the parameters after its first epoch with the least validation
    loss); evaluating that file returns on every split directory holding images PIL decodes, and
    its previews are the engine's, under those parameters, for the first
    `clamp(preview_samples, 1, 128)` images, each normalised with the saved mean and deviation. -/
theorem runEvaluation_trained (log sqrt : K → K) (r : Rng G K) (params : Dict) (lower : PyStr → PyStr)
    (fs : DirTree Img) (extracted : Img) (splitEnv previewEnv : Option PyStr) {cfg : TrainConfig}
    (hcfg : parseTrainConfig py params = .ok cfg) {files : List Img} (htrain : (fs.dataset extracted).train = some files)
    (himg : ∃ p ∈ files, images.isImage p)
    (hdec : ∀ p ∈ files ++ (fs.dataset extracted).validation.getD [], images.isImage p → images.decodes p) {splitDir : Img}
    (hsplit : resolveSplitDir lower fs (resolveDatasetRoot fs extracted) (normalizeSplit lower (envOr splitEnv "evaluate")) =
      some splitDir) (hprev : ∃ p ∈ fs.rglob splitDir, images.isImage p)
    (hdecPrev : ∀ p ∈ fs.rglob splitDir, images.isImage p → images.decodes p) :
    ∃ model mean std, runTraining images py exp log sqrt r params (fs.dataset extracted) = .ok (model, mean, std) ∧
      ∃ (tr va : List Img) (run : TrainingRun images K cfg tr va (splitVocab images tr va)) (k : Nat) (n : Int),
        selectSplits images cfg (fs.dataset extracted) = .ok (tr, va) ∧
        mean = arrayMean run.xTrain ∧ std = stdOrOne (arrayStd sqrt run.xTrain) ∧
        IsFirstMin (valLossAt exp log sqrt r cfg (splitVocab images tr va) (run.trainInput images mean std) run.yTrain
          (run.valInput images mean std) run.yVal) cfg.epochs.toNat k ∧
        model = (paramsAfter exp log sqrt r cfg (splitVocab images tr va) (run.trainInput images mean std) run.yTrain
          (run.valInput images mean std) run.yVal k).toModel
            (modelConfig cfg (clampInt run.longest 4 16).toNat (splitVocab images tr va)) ∧
        previewSamples py previewEnv = .ok n ∧
        runEvaluation images py codec exp lower fs (some (saveModelNpz codec model mean std)) splitEnv previewEnv extracted =
          .ok ((((fs.rglob splitDir).filter images.isImage).take n.toNat).enum.map
            (enginePreview images exp cfg (splitVocab images tr va) (List.length_pos_of_mem (padToken_mem_buildVocab _))
              (paramsAfter exp log sqrt r cfg (splitVocab images tr va) (run.trainInput images mean std) run.yTrain
                (run.valInput images mean std) run.yVal k) mean std)) := by
  have hvalid := (parseTrainConfig_valid hcfg).1
  obtain ⟨tr, va, model, mean, std, hsel, hres, htrain⟩ := runTraining_ok images py exp log sqrt r params _ hcfg htrain himg hdec
  obtain ⟨run, hmean, rfl, k, hk, rfl⟩ :=
    ((trainOnSplits_eq_ok images exp log sqrt r).mp hres).eq_paramsAfter images exp log sqrt r hvalid
  obtain ⟨n, hn, h1, -⟩ := previewSamples_ok py previewEnv
  set θ := paramsAfter exp log sqrt r cfg (splitVocab images tr va) (run.trainInput images mean _) run.yTrain
    (run.valInput images mean _) run.yVal k
  have hload : loadArtifact py codec (some (saveModelNpz codec
        (θ.toModel (modelConfig cfg (clampInt run.longest 4 16).toNat (splitVocab images tr va))) mean
        (stdOrOne (arrayStd sqrt run.xTrain)))) =
      .ok (some (θ.toModel (npzConfig codec (modelConfig cfg (clampInt run.longest 4 16).toNat (splitVocab images tr va))
        mean (stdOrOne (arrayStd sqrt run.xTrain))), mean, stdOrOne (arrayStd sqrt run.xTrain))) := by
    simp only [loadArtifact, loadModelNpz_saveModelNpz, except_ok_bind]
    rfl
  refine ⟨_, mean, _, htrain, tr, va, run, k, n, hsel, hmean, rfl, hk, rfl, hn, ?_⟩
  rw [runEvaluation_eq images py codec exp hn hload hsplit (iterImages_ne_nil images n [] _ (.inr hprev)),
    iterImages_nil, max_eq_right h1]
  exact mapM_eq_ok _ fun p hp => by
    have hdp := (List.mem_filter.mp (List.mem_of_mem_take (List.snd_mem_of_mem_enum hp))) |>.elim fun hm hi => hdecPrev _ hm hi
    simp only [previewImage, evalPreview_toModel images py codec exp hvalid
      (show padToken ∈ splitVocab images tr va from padToken_mem_buildVocab _) θ mean _ hdp, except_ok_bind]
    rfl

end

theorem runEvaluation_trained_blank :
    let images : Images Unit := ⟨fun _ => [], fun _ => true, fun _ => true, fun _ _ _ _ _ => 0⟩
    let fs : DirTree Unit := ⟨fun _ => true, fun _ => false, fun _ => [], fun _ _ => (), fun _ => [()]⟩
    let py : Builtins := ⟨fun _ => none, fun _ => none, fun _ => []⟩
    let r : Rng Unit ℚ := ⟨fun _ => (), fun g => (0, g), fun g n => (List.finRange n, g)⟩
    let cfg : TrainConfig := {}
    (parseTrainConfig py [] = .ok cfg ∧ (fs.dataset ()).train = some [()] ∧ (∃ p ∈ [()], images.isImage p) ∧
      (∀ p ∈ [()] ++ (fs.dataset ()).validation.getD [], images.isImage p → images.decodes p) ∧
      resolveSplitDir id fs (resolveDatasetRoot fs ()) (normalizeSplit id (envOr none "evaluate")) = some () ∧
      (∃ p ∈ fs.rglob (), images.isImage p) ∧ ∀ p ∈ fs.rglob (), images.isImage p → images.decodes p) ∧
    ∃ model mean std, runTraining images py id id id r [] (fs.dataset ()) = .ok (model, mean, std) ∧
      ∃ (tr va : List Unit) (run : TrainingRun images ℚ cfg tr va (splitVocab images tr va)) (k : Nat) (n : Int),
        selectSplits images cfg (fs.dataset ()) = .ok (tr, va) ∧
        mean = arrayMean run.xTrain ∧ std = stdOrOne (arrayStd id run.xTrain) ∧
        IsFirstMin (valLossAt id id id r cfg (splitVocab images tr va) (run.trainInput images mean std) run.yTrain
          (run.valInput images mean std) run.yVal) cfg.epochs.toNat k ∧
        model = (paramsAfter id id id r cfg (splitVocab images tr va) (run.trainInput images mean std) run.yTrain
          (run.valInput images mean std) run.yVal k).toModel
            (modelConfig cfg (clampInt run.longest 4 16).toNat (splitVocab images tr va)) ∧
        previewSamples py none = .ok n ∧
        runEvaluation images py FloatCodec.rat id id fs (some (saveModelNpz FloatCodec.rat model mean std)) none none () =
          .ok ((((fs.rglob ()).filter images.isImage).take n.toNat).enum.map
            (enginePreview images id cfg (splitVocab images tr va) (List.length_pos_of_mem (padToken_mem_buildVocab _))
              (paramsAfter id id id r cfg (splitVocab images tr va) (run.trainInput images mean std) run.yTrain
                (run.valInput images mean std) run.yVal k) mean std)) := by
  intro images fs py r cfg
  have hcfg : parseTrainConfig py [] = .ok cfg := parseTrainConfig_nil py
  have hsplit : resolveSplitDir id fs (resolveDatasetRoot fs ()) (normalizeSplit id (envOr none "evaluate")) = some () :=
    rfl
  have himg : ∃ p ∈ [()], images.isImage p := ⟨(), List.mem_singleton_self _, rfl⟩
  have hdec : ∀ p ∈ [()] ++ (fs.dataset ()).validation.getD [], images.isImage p → images.decodes p := fun _ _ _ => rfl
  have hdecPrev : ∀ p ∈ fs.rglob (), images.isImage p → images.decodes p := fun _ _ _ => rfl
  exact ⟨⟨hcfg, rfl, himg, hdec, hsplit, himg, hdecPrev⟩,
    runEvaluation_trained images py FloatCodec.rat id id id r [] id fs () none none hcfg rfl himg hdec hsplit himg hdecPrev⟩

end

end PlateOcr
