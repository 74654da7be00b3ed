/-
  PlateOcr.Pipeline.Training — `run_training` from the run's params and the extracted dataset
  to the file it saves, and what `run_evaluation` reads back from that file.

  What the dataset's files are is the file system's and PIL's (`Images`): a file's stem,
  whether `_iter_images` takes it, and its pixels once converted to grayscale and resized.
  The extracted archive is a `DirTree` (what `pathlib` answers); `_resolve_dataset_root`
  finds the root in it, and `DirTree.dataset` lists the sorted entries under `train/` and
  `validation/`. Downloading, extracting, the telemetry, the upload and `val_source` (only
  logged) are left out.
  `run_training` parses the config, picks the images (`empty_train_split` without one;
  the train directory for a missing validation directory, and the first train images for an
  empty validation set), takes the labels from the file stems, clamps the longest label to
  `[4, 16]`, builds the vocabulary over both splits and encodes them, loads the features,
  normalises both splits with the train mean and the train standard deviation (`1.0` below
  `1e-6`), trains, and saves the model with that mean and deviation. `run_evaluation` takes
  the feature size from the loaded config and calls `_predict_text`.

  Proved:
  - `runTraining_saved`: whatever `run_training` passes to `_save_model_npz` was trained
    (`TrainedOn`) by `_train_mlp` on the chosen images' features less `mean` over `std`,
    `mean` and `std` being the train features' own, with the vocabulary built over both
    splits; and the file it saves loads back to the same tensors, config and `(mean, std)`,
    the config names the tensors' shapes, that vocabulary and the feature size
    `run_evaluation` derives, and on every row of raw features `_predict_text` returns the
    engine's text for `(x - mean) / std`, its clamp never moving an index.
  - `TrainedOn.eq_paramsAfter`: that model is the engine's parameters after the epoch of
    least validation loss, the first on a tie.
  - `runTraining_ok`: a train directory holding an image PIL decodes, and params
    `_parse_train_config` accepts, make `run_training` reach `_save_model_npz`.
  - `evalPreview_toModel`: `run_evaluation`'s preview of any image on that model is the
    engine's text for the image's features at the trained size, normalised the same way.
  - `resolveDatasetRoot_spec`: `_resolve_dataset_root` returns the extracted directory or,
    exactly when that holds no split directory, one directory and no file, and the directory
    holds a split directory, that directory.
  - `iterImages_eq_take`: `_iter_images` takes the first `max(1, limit)` sorted images.
  - `selectSplits_val_prefix`: without validation images, the validation set is a prefix of
    the train set.
  - `trainFeatures_normalised`: over `ℝ` the train features `_train_mlp` receives have mean
    `0` and standard deviation `1`, or keep their deviation when it is below `1e-6`.
-/

import PlateOcr.Artifact.Npz
import PlateOcr.Artifact.Predict
import PlateOcr.Labels.Codec

namespace PlateOcr

/-- What the code learns of a file through `pathlib` and PIL: its stem, whether `_iter_images`
    takes it (`is_file()` with a suffix in `IMAGE_EXTS`), whether `Image.open(p).convert("L")`
    decodes it (PIL raises an `OSError` on a file it cannot read as an image), and the pixels of
    a decoded file after `.resize((width, height), resample=Image.BILINEAR)`, row by row. -/
structure Images (Img : Type) where
  stem : Img → PyStr
  isImage : Img → Bool
  decodes : Img → Bool
  pixels : Img → (width height : Nat) → Fin height → Fin width → Fin 256

/-- The extracted dataset: the sorted entries under `train/` and under `validation/`, `none`
    for a directory that is not there. -/
structure Dataset (Img : Type) where
  train : Option (List Img)
  validation : Option (List Img)

/-- What `pathlib` answers about the extracted archive: whether a path is a directory, whether
    it is a file, the entries `iterdir()` lists, `p / name`, and `sorted(p.rglob("*"))`. -/
structure DirTree (P : Type) where
  isDir : P → Bool
  isFile : P → Bool
  iterdir : P → List P
  child : P → PyStr → P
  rglob : P → List P

section
variable {P : Type} (fs : DirTree P)

def DirTree.hasSplitDir (cur : P) : Bool :=
  fs.isDir (fs.child cur (.ofString "train")) || fs.isDir (fs.child cur (.ofString "validation")) ||
    fs.isDir (fs.child cur (.ofString "test")) || fs.isDir (fs.child cur (.ofString "evaluate")) ||
    fs.isDir (fs.child cur (.ofString "evalute"))

/-- The loop of `_resolve_dataset_root` with `passes` passes of `for _ in range(2)` left: a
    `break` and the end of the loop both return `extracted_dir`. -/
def resolveRootLoop (extracted : P) : Nat → P → P
  | 0, _ => extracted
  | passes + 1, cur =>
    if fs.hasSplitDir cur then cur else
      match (fs.iterdir cur).filter fs.isDir, (fs.iterdir cur).filter fs.isFile with
      | [child], [] => resolveRootLoop extracted passes child
      | _, _ => extracted

def resolveDatasetRoot (extracted : P) : P := resolveRootLoop fs extracted 2 extracted

/-- The entries `run_training` lists under `root / "train"` and `root / "validation"` of the
    resolved root, `None` where `is_dir()` fails. -/
def DirTree.dataset (extracted : P) : Dataset P :=
  let root := resolveDatasetRoot fs extracted
  let listing := fun name : String =>
    if fs.isDir (fs.child root (.ofString name)) then some (fs.rglob (fs.child root (.ofString name))) else none
  ⟨listing "train", listing "validation"⟩

theorem resolveRootLoop_one (extracted c : P) :
    resolveRootLoop fs extracted 1 c = if fs.hasSplitDir c then c else extracted := by
  unfold resolveRootLoop
  split_ifs
  · rfl
  · split <;> rfl

/-- `_resolve_dataset_root` looks one level down at most: it returns the extracted directory
    when that holds a split directory, and otherwise its only entry exactly when the extracted
    directory holds no file and that entry is a directory holding a split directory, and the
    extracted directory in every other case. A split directory two levels down is never found. -/
theorem resolveDatasetRoot_spec (e : P) :
    (fs.hasSplitDir e = true → resolveDatasetRoot fs e = e) ∧
      (resolveDatasetRoot fs e = e ∨
        ∃ c, fs.hasSplitDir e = false ∧ (fs.iterdir e).filter fs.isDir = [c] ∧
          (fs.iterdir e).filter fs.isFile = [] ∧ fs.hasSplitDir c = true ∧ resolveDatasetRoot fs e = c) ∧
      ∀ c, fs.hasSplitDir e = false → (fs.iterdir e).filter fs.isDir = [c] → (fs.iterdir e).filter fs.isFile = [] →
        fs.hasSplitDir c = true → resolveDatasetRoot fs e = c := by
  unfold resolveDatasetRoot resolveRootLoop
  by_cases he : fs.hasSplitDir e
  · simp only [he, if_true, implies_true, true_or, Bool.true_eq_false, false_implies, and_self]
  · simp only [he, Bool.false_eq_true, if_false, false_implies, true_and, forall_const]
    split
    · rename_i c hdirs hfiles
      simp only [resolveRootLoop_one, hdirs, List.cons.injEq, and_true]
      refine ⟨?_, fun c' hc _ hc' => by subst hc; exact if_pos hc'⟩
      by_cases hc : fs.hasSplitDir c
      · exact .inr ⟨c, rfl, hfiles, hc, if_pos hc⟩
      · exact .inl (if_neg hc)
    · rename_i hne
      exact ⟨.inl rfl, fun c hd hf _ => (hne c hd hf).elim⟩

end

def isSpace (c : CodePoint) : Bool :=
  (0x09 ≤ c.val && c.val ≤ 0x0D) || (0x1C ≤ c.val && c.val ≤ 0x20) || c.val == 0x85 || c.val == 0xA0 ||
    c.val == 0x1680 || (0x2000 ≤ c.val && c.val ≤ 0x200A) || c.val == 0x2028 || c.val == 0x2029 ||
    c.val == 0x202F || c.val == 0x205F || c.val == 0x3000

def pyStrip (s : PyStr) : PyStr := (s.dropWhile isSpace).rdropWhile isSpace

theorem pyStrip_pyStrip (s : PyStr) : pyStrip (pyStrip s) = pyStrip s := by
  unfold pyStrip
  rw [List.dropWhile_eq_self_iff.mpr fun hl => ?_, List.rdropWhile_idempotent]
  have hpre := List.rdropWhile_prefix (p := isSpace) (l := s.dropWhile isSpace)
  have hd : 0 < (s.dropWhile isSpace).length := lt_of_lt_of_le hl hpre.length_le
  have := List.dropWhile_get_zero_not isSpace s hd
  rwa [List.get_eq_getElem, ← hpre.getElem hl] at this

def maxLength : List PyStr → Except PyError Nat
  | [] => .error .valueError
  | s :: ss => .ok (ss.foldl (fun m t => max m t.length) s.length)

section
variable {Img : Type} (images : Images Img)

def labelFromPath (p : Img) : PyStr := pyStrip (images.stem p)

/-- The loop of `_iter_images` over the sorted entries, after the images `out`. -/
def iterImages (limit : Int) : List Img → List Img → List Img
  | out, [] => out
  | out, p :: ps =>
    if images.isImage p then
      if limit ≤ ((out ++ [p]).length : Int) then out ++ [p] else iterImages limit (out ++ [p]) ps
    else iterImages limit out ps

def selectSplits (cfg : TrainConfig) (ds : Dataset Img) : Except PyError (List Img × List Img) :=
  match ds.train with
  | none => .error (.runtimeError "dataset_missing_train_split")
  | some trainFiles =>
    let trainImages := iterImages images cfg.maxTrainSamples [] trainFiles
    if trainImages.isEmpty then .error (.runtimeError "empty_train_split") else
      let valImages := iterImages images cfg.maxValidationSamples [] (ds.validation.getD trainFiles)
      .ok (trainImages, if valImages.isEmpty then
        trainImages.take (min (trainImages.length : Int) cfg.maxValidationSamples).toNat else valImages)

section
variable {K G : Type} [LinearOrderedField K]

/-- `_load_features`: each image opened in turn (the first PIL cannot decode raises), at
    `width × height`, its pixels over `255`, flattened row by row, the rows stacked
    (`np.stack` raises on none). -/
def loadFeatures (paths : List Img) (width height : Nat) : Except PyError (Fin paths.length → Fin (height * width) → K) :=
  if !paths.all images.decodes then .error .osError else
  if paths.isEmpty then .error .valueError else
    .ok fun i j => ((images.pixels (paths.get i) width height (finProdFinEquiv.symm j).1 (finProdFinEquiv.symm j).2 : Nat) : K) / 255

def arrayMean {n D : Nat} (x : Fin n → Fin D → K) : K := (∑ i, ∑ d, x i d) / (n * D : Nat)

/-- `x.std()`: the square root of the mean squared deviation. -/
def arrayStd (sqrt : K → K) {n D : Nat} (x : Fin n → Fin D → K) : K :=
  sqrt ((∑ i, ∑ d, (x i d - arrayMean x) ^ 2) / (n * D : Nat))

def stdOrOne (std : K) : K := if std < 1 / 1000000 then 1 else std

def trainOnSplits (exp log sqrt : K → K) (r : Rng G K) (cfg : TrainConfig) (trainImages valImages : List Img) :
    Except PyError (TrainedModel K × K × K) := do
  let trainLabels := trainImages.map (labelFromPath images)
  let valLabels := valImages.map (labelFromPath images)
  let maxLabelLen := (clampInt (← maxLength (trainLabels ++ valLabels)) 4 16).toNat
  let vocab := buildVocab (trainLabels ++ valLabels)
  let yTrain ← encodeLabels trainLabels vocab maxLabelLen
  let yVal ← encodeLabels valLabels vocab maxLabelLen
  let xTrain ← loadFeatures images trainImages cfg.imageWidth.toNat cfg.imageHeight.toNat
  let xVal ← loadFeatures images valImages cfg.imageWidth.toNat cfg.imageHeight.toNat
  let mean := arrayMean xTrain
  let std := stdOrOne (arrayStd sqrt xTrain)
  let res ← trainMlp exp log sqrt r cfg vocab (fun i d => (xTrain (i.cast (List.length_map _ _)) d - mean) / std) yTrain
    (fun i d => (xVal (i.cast (List.length_map _ _)) d - mean) / std) yVal
  pure (res.model, mean, std)

def runTraining (py : Builtins) (exp log sqrt : K → K) (r : Rng G K) (params : Dict) (ds : Dataset Img) :
    Except PyError (TrainedModel K × K × K) := do
  let cfg ← parseTrainConfig py params
  let splits ← selectSplits images cfg ds
  trainOnSplits images exp log sqrt r cfg splits.1 splits.2

/-! ## `run_training` reaches `_save_model_npz` -/

theorem iterImages_ne_nil (limit : Int) :
    ∀ (out ps : List Img), (out ≠ [] ∨ ∃ p ∈ ps, images.isImage p) → iterImages images limit out ps ≠ []
  | out, [], h => h.resolve_right fun ⟨_, hq, _⟩ => List.not_mem_nil _ hq
  | out, p :: ps, h => by
    unfold iterImages
    split_ifs with hp
    · exact List.append_ne_nil_of_right_ne_nil out (List.cons_ne_nil p [])
    · exact iterImages_ne_nil limit _ ps (.inl (List.append_ne_nil_of_right_ne_nil out (List.cons_ne_nil p [])))
    · refine iterImages_ne_nil limit out ps (h.imp_right fun ⟨q, hq, hqi⟩ => ?_)
      rcases List.mem_cons.mp hq with rfl | hq
      exacts [absurd hqi hp, ⟨q, hq, hqi⟩]

theorem iterImages_eq_append (limit : Int) :
    ∀ (out ps : List Img), (out.length : Int) < max 1 limit →
      iterImages images limit out ps = out ++ (ps.filter images.isImage).take ((max 1 limit).toNat - out.length)
  | out, [], _ => by simp [iterImages]
  | out, p :: ps, h => by
    unfold iterImages
    by_cases hp : images.isImage p
    · have hlen : (out ++ [p]).length = out.length + 1 := by simp
      rw [if_pos hp, List.filter_cons_of_pos hp]
      split_ifs with hl
      · rw [show (max 1 limit).toNat - out.length = 0 + 1 by omega, List.take_succ_cons, List.take_zero]
      · rw [iterImages_eq_append limit (out ++ [p]) ps (by omega),
          show (max 1 limit).toNat - out.length = ((max 1 limit).toNat - (out ++ [p]).length) + 1 by omega,
          List.take_succ_cons, List.append_assoc, List.singleton_append]
    · rw [if_neg hp, List.filter_cons_of_neg hp]
      exact iterImages_eq_append limit out ps h

theorem iterImages_nil (limit : Int) (ps : List Img) :
    iterImages images limit [] ps = (ps.filter images.isImage).take (max 1 limit).toNat := by
  simpa using iterImages_eq_append images limit [] ps (by simp)

/-- `_iter_images(root, limit=limit)` is the first `max(1, limit)` images of the sorted
    entries: the `break` comes only after an append, so even a limit below `1` takes one. -/
theorem iterImages_eq_take (limit : Int) (ps : List Img) :
    iterImages images limit [] ps = (ps.filter images.isImage).take (max 1 limit).toNat :=
  iterImages_nil images limit ps

theorem mem_iterImages {limit : Int} {ps : List Img} {p : Img} (h : p ∈ iterImages images limit [] ps) :
    p ∈ ps ∧ images.isImage p := by
  rw [iterImages_nil] at h
  exact List.mem_filter.mp (List.mem_of_mem_take h)

theorem mem_append_getD {o : Option (List Img)} {files : List Img} {p : Img} (h : p ∈ o.getD files) :
    p ∈ files ++ o.getD [] := by
  cases o with
  | none => exact List.mem_append_left _ h
  | some vf => exact List.mem_append_right _ h

theorem selectSplits_ok {cfg : TrainConfig} (hcfg : cfg.Valid) {ds : Dataset Img} {files : List Img}
    (htrain : ds.train = some files) (himg : ∃ p ∈ files, images.isImage p)
    (hdec : ∀ p ∈ files ++ ds.validation.getD [], images.isImage p → images.decodes p) :
    ∃ tr va, selectSplits images cfg ds = .ok (tr, va) ∧ tr ≠ [] ∧ va ≠ [] ∧ ∀ p ∈ tr ++ va, images.decodes p := by
  have htr := iterImages_ne_nil images cfg.maxTrainSamples [] files (.inr himg)
  have hdecTr : ∀ p ∈ iterImages images cfg.maxTrainSamples [] files, images.decodes p := fun p hp =>
    (mem_iterImages images hp).elim fun hf hi => hdec p (List.mem_append_left _ hf) hi
  simp only [selectSplits, htrain, List.isEmpty_iff, htr, if_false]
  refine ⟨_, _, rfl, htr, ?_, fun p hp => ?_⟩
  · split_ifs with hv
    · have := List.length_pos.mpr htr
      have := hcfg.maxValidationSamples
      simp only [ne_eq, List.take_eq_nil_iff, htr, or_false]
      omega
    · simpa using hv
  · rcases List.mem_append.mp hp with hp | hp
    · exact hdecTr p hp
    split_ifs at hp
    · exact hdecTr p (List.mem_of_mem_take hp)
    · obtain ⟨hm, hi⟩ := mem_iterImages images hp
      exact hdec p (mem_append_getD hm) hi

/-- Without a `validation/` directory, or with one that holds no image, the validation images
    are the first train images: with `max_validation_samples ≤ max_train_samples` every
    validation image is one the model trains on. -/
theorem selectSplits_val_prefix {cfg : TrainConfig} {ds : Dataset Img} {tr va : List Img}
    (hle : cfg.maxValidationSamples ≤ cfg.maxTrainSamples)
    (hval : ∀ vf, ds.validation = some vf → ∀ p ∈ vf, images.isImage p = false)
    (h : selectSplits images cfg ds = .ok (tr, va)) : va <+: tr := by
  unfold selectSplits at h
  split at h
  · cases h
  rename_i files _
  dsimp only at h
  split_ifs at h with hte hve <;> simp only [Except.ok.injEq, Prod.mk.injEq] at h <;> obtain ⟨rfl, rfl⟩ := h
  · exact List.take_prefix _ _
  · cases hv : ds.validation with
    | none =>
      rw [Option.getD_none, iterImages_nil, iterImages_nil]
      exact List.take_prefix_take_left _ (by omega)
    | some vf =>
      rw [hv, Option.getD_some, iterImages_nil,
        List.filter_eq_nil_iff.mpr (fun p hp => by simp [hval vf hv p hp]), List.take_nil] at hve
      exact absurd rfl hve

theorem selectSplits_val_prefix_no_validation :
    let images : Images Unit := ⟨fun _ => [], fun _ => true, fun _ => true, fun _ _ _ _ _ => 0⟩
    let ds : Dataset Unit := ⟨some [(), ()], none⟩
    (({} : TrainConfig).maxValidationSamples ≤ ({} : TrainConfig).maxTrainSamples ∧
      (∀ vf, ds.validation = some vf → ∀ p ∈ vf, images.isImage p = false) ∧
      selectSplits images {} ds = .ok ([(), ()], [(), ()])) ∧ [(), ()] <+: [(), ()] := by
  intro images ds
  have h : selectSplits images {} ds = .ok ([(), ()], [(), ()]) := rfl
  have hval : ∀ vf, ds.validation = some vf → ∀ p ∈ vf, images.isImage p = false := fun _ hv => by cases hv
  exact ⟨⟨by decide, hval, h⟩, selectSplits_val_prefix images (by decide) hval h⟩

theorem maxLength_ok {labels : List PyStr} (h : labels ≠ []) : ∃ m, maxLength labels = .ok m := by
  obtain ⟨s, ss, rfl⟩ := List.exists_cons_of_ne_nil h
  exact ⟨_, rfl⟩

theorem loadFeatures_ok {paths : List Img} (h : paths ≠ []) (hdec : ∀ p ∈ paths, images.decodes p) (width height : Nat) :
    loadFeatures images paths width height = .ok fun i j =>
      ((images.pixels (paths.get i) width height (finProdFinEquiv.symm j).1 (finProdFinEquiv.symm j).2 : Nat) : K) / 255 := by
  rw [loadFeatures, if_neg (by simpa using hdec), if_neg (by simpa using h)]

theorem ne_nil_of_loadFeatures_ok {paths : List Img} {width height : Nat} {x : Fin paths.length → Fin (height * width) → K}
    (h : loadFeatures images paths width height = .ok x) : paths ≠ [] := by
  rintro rfl
  cases h

/-- The train features are not empty: at least one image, and at least one pixel. -/
theorem trainSize_pos {cfg : TrainConfig} (hcfg : cfg.Valid) {tr : List Img} (htr : tr ≠ []) :
    0 < (tr.map (labelFromPath images)).length * (cfg.imageHeight.toNat * cfg.imageWidth.toNat) := by
  have hH := hcfg.imageHeight
  have hW := hcfg.imageWidth
  rw [List.length_map]
  exact Nat.mul_pos (List.length_pos.mpr htr) (Nat.mul_pos (by omega) (by omega))

def splitVocab (tr va : List Img) : List PyStr := buildVocab (tr.map (labelFromPath images) ++ va.map (labelFromPath images))

variable (K) in
/-- What `run_training` computes from the images `tr` and `va` on its way to `_train_mlp`, over
    the vocabulary `vocab`: the longest label (`max_label_len` before its clamp to `[4, 16]`),
    both feature matrices, and both label matrices. -/
structure TrainingRun (cfg : TrainConfig) (tr va : List Img) (vocab : List PyStr) where
  longest : Nat
  xTrain : Fin tr.length → Fin (cfg.imageHeight.toNat * cfg.imageWidth.toNat) → K
  xVal : Fin va.length → Fin (cfg.imageHeight.toNat * cfg.imageWidth.toNat) → K
  yTrain : Fin (tr.map (labelFromPath images)).length → Fin (clampInt longest 4 16).toNat → Fin vocab.length
  yVal : Fin (va.map (labelFromPath images)).length → Fin (clampInt longest 4 16).toNat → Fin vocab.length
  maxLength_eq : maxLength (tr.map (labelFromPath images) ++ va.map (labelFromPath images)) = .ok longest
  loadTrain : loadFeatures images tr cfg.imageWidth.toNat cfg.imageHeight.toNat = .ok xTrain
  loadVal : loadFeatures images va cfg.imageWidth.toNat cfg.imageHeight.toNat = .ok xVal
  encodeTrain : encodeLabels (tr.map (labelFromPath images)) vocab (clampInt longest 4 16).toNat = .ok yTrain
  encodeVal : encodeLabels (va.map (labelFromPath images)) vocab (clampInt longest 4 16).toNat = .ok yVal

section
variable {cfg : TrainConfig} {tr va : List Img} {vocab : List PyStr}

def TrainingRun.trainInput (run : TrainingRun images K cfg tr va vocab) (mean std : K) :
    Fin (tr.map (labelFromPath images)).length → Fin (cfg.imageHeight.toNat * cfg.imageWidth.toNat) → K :=
  fun i d => (run.xTrain (i.cast (List.length_map _ _)) d - mean) / std

def TrainingRun.valInput (run : TrainingRun images K cfg tr va vocab) (mean std : K) :
    Fin (va.map (labelFromPath images)).length → Fin (cfg.imageHeight.toNat * cfg.imageWidth.toNat) → K :=
  fun i d => (run.xVal (i.cast (List.length_map _ _)) d - mean) / std

/-- `(model, mean, std)` is what `run_training` passes to `_save_model_npz` after the images
    `tr` and `va`: `mean` and `std` are the train features' mean and deviation (`1.0` below
    `1e-6`), and `model` is what `_train_mlp` returns on both splits' features less `mean` and
    over `std`. -/
def TrainedOn (exp log sqrt : K → K) (r : Rng G K) (cfg : TrainConfig) (tr va : List Img) (model : TrainedModel K)
    (mean std : K) : Prop :=
  ∃ (run : TrainingRun images K cfg tr va (splitVocab images tr va)) (res : TrainResult K),
    mean = arrayMean run.xTrain ∧ std = stdOrOne (arrayStd sqrt run.xTrain) ∧
    trainMlp exp log sqrt r cfg (splitVocab images tr va) (run.trainInput images mean std) run.yTrain
      (run.valInput images mean std) run.yVal = .ok res ∧ model = res.model

variable (exp log sqrt : K → K) (r : Rng G K) {model : TrainedModel K} {mean std : K}

/-- `run_training` after the choice of images, said once: it returns exactly what `TrainedOn`
    describes. -/
theorem trainOnSplits_eq_ok :
    trainOnSplits images exp log sqrt r cfg tr va = .ok (model, mean, std) ↔
      TrainedOn images exp log sqrt r cfg tr va model mean std := by
  constructor
  · intro h
    simp only [trainOnSplits, except_bind_eq_ok, except_pure_eq_ok, Prod.mk.injEq] at h
    obtain ⟨m, hm, yT, hyT, yV, hyV, xT, hxT, xV, hxV, res, hres, hmodel, rfl, rfl⟩ := h
    exact ⟨⟨m, xT, xV, yT, yV, hm, hxT, hxV, hyT, hyV⟩, res, rfl, rfl, hres, hmodel.symm⟩
  · rintro ⟨⟨m, xT, xV, yT, yV, hm, hxT, hxV, hyT, hyV⟩, res, rfl, rfl, hres, rfl⟩
    simp only [splitVocab] at hyT hyV
    simp only [trainOnSplits, hm, hyT, hyV, hxT, hxV, except_ok_bind]
    exact congrArg (· >>= fun res : TrainResult K =>
      (pure (res.model, arrayMean xT, stdOrOne (arrayStd sqrt xT)) : Except PyError (TrainedModel K × K × K))) hres

/-- With at least one epoch, the model `run_training` trains is the engine's parameters after
    the first epoch with the least validation loss, on the normalised features. -/
theorem TrainedOn.eq_paramsAfter (hcfg : cfg.Valid) (h : TrainedOn images exp log sqrt r cfg tr va model mean std) :
    ∃ run : TrainingRun images K cfg tr va (splitVocab images tr va), mean = arrayMean run.xTrain ∧ std = stdOrOne (arrayStd sqrt run.xTrain) ∧
      ∃ k, IsFirstMin (valLossAt exp log sqrt r cfg (splitVocab images tr va) (run.trainInput images mean std) run.yTrain
          (run.valInput images mean std) run.yVal) cfg.epochs.toNat k ∧
        model = (paramsAfter exp log sqrt r cfg (splitVocab images tr va) (run.trainInput images mean std) run.yTrain
          (run.valInput images mean std) run.yVal k).toModel
            (modelConfig cfg (clampInt run.longest 4 16).toNat (splitVocab images tr va)) := by
  obtain ⟨run, res, hmean, hstd, hres, rfl⟩ := h
  obtain ⟨k, hk, -, hbest⟩ := @trainMlp_ok_best _ _ _ exp log sqrt r cfg _ _ _ _ _ (run.trainInput images mean std)
    run.yTrain (run.valInput images mean std) run.yVal hcfg.epochs.1
    (trainSize_pos images hcfg (ne_nil_of_loadFeatures_ok images run.loadTrain))
  obtain rfl := Except.ok.inj (hres.symm.trans hbest)
  exact ⟨run, hmean, hstd, k, hk, rfl⟩

end

theorem trainOnSplits_ok (exp log sqrt : K → K) (r : Rng G K) {cfg : TrainConfig} (hcfg : cfg.Valid)
    {trainImages valImages : List Img} (htr : trainImages ≠ []) (hva : valImages ≠ [])
    (hdec : ∀ p ∈ trainImages ++ valImages, images.decodes p) :
    ∃ model mean std, trainOnSplits images exp log sqrt r cfg trainImages valImages = .ok (model, mean, std) := by
  have hpad := padToken_mem_buildVocab (trainImages.map (labelFromPath images) ++ valImages.map (labelFromPath images))
  obtain ⟨m, hm⟩ := maxLength_ok (show trainImages.map (labelFromPath images) ++ valImages.map (labelFromPath images) ≠ [] from
    List.append_ne_nil_of_left_ne_nil (mt List.map_eq_nil_iff.mp htr) _)
  obtain ⟨yT, hyT⟩ := encodeLabels_ok (trainImages.map (labelFromPath images)) hpad (clampInt m 4 16).toNat
  obtain ⟨yV, hyV⟩ := encodeLabels_ok (valImages.map (labelFromPath images)) hpad (clampInt m 4 16).toNat
  simp only [trainOnSplits, hm, hyT, hyV, loadFeatures_ok images htr (fun p hp => hdec p (List.mem_append_left _ hp)),
    loadFeatures_ok images hva (fun p hp => hdec p (List.mem_append_right _ hp)), except_ok_bind]
  rw [trainMlp_eq (trainSize_pos images hcfg htr).ne']
  exact ⟨_, _, _, rfl⟩

theorem runTraining_ok (py : Builtins) (exp log sqrt : K → K) (r : Rng G K) (params : Dict) (ds : Dataset Img)
    {cfg : TrainConfig} (hcfg : parseTrainConfig py params = .ok cfg) {files : List Img} (htrain : ds.train = some files)
    (himg : ∃ p ∈ files, images.isImage p)
    (hdec : ∀ p ∈ files ++ ds.validation.getD [], images.isImage p → images.decodes p) :
    ∃ tr va model mean std, selectSplits images cfg ds = .ok (tr, va) ∧
      trainOnSplits images exp log sqrt r cfg tr va = .ok (model, mean, std) ∧
      runTraining images py exp log sqrt r params ds = .ok (model, mean, std) := by
  have hvalid := (parseTrainConfig_valid hcfg).1
  obtain ⟨tr, va, hsel, htr, hva, hdec'⟩ := selectSplits_ok images hvalid htrain himg hdec
  obtain ⟨model, mean, std, hres⟩ := trainOnSplits_ok images exp log sqrt r hvalid htr hva hdec'
  exact ⟨tr, va, model, mean, std, hsel, hres, by simp only [runTraining, hcfg, hsel, except_ok_bind, hres]⟩

/-! ## The normalised features -/

theorem sum_sub_arrayMean {n D : Nat} (x : Fin n → Fin D → K) : ∑ i, ∑ d, (x i d - arrayMean x) = 0 := by
  simp only [Finset.sum_sub_distrib, Finset.sum_const, Finset.card_univ, Fintype.card_fin, nsmul_eq_mul,
    arrayMean]
  by_cases hN : ((n * D : Nat) : K) = 0
  · have : n = 0 ∨ D = 0 := by exact_mod_cast mul_eq_zero.mp (by exact_mod_cast hN)
    rcases this with rfl | rfl <;> simp
  · rw [← mul_assoc, ← Nat.cast_mul, mul_div_cancel₀ _ hN, sub_self]

theorem arrayMean_sub_div {n D : Nat} (x : Fin n → Fin D → K) (s : K) :
    arrayMean (fun i d => (x i d - arrayMean x) / s) = 0 := by
  rw [arrayMean]
  simp only [← Finset.sum_div, sum_sub_arrayMean, zero_div]

theorem arrayStd_sub_div {n D : Nat} (x : Fin n → Fin D → ℝ) {s : ℝ} (hs : 0 < s) :
    arrayStd Real.sqrt (fun i d => (x i d - arrayMean x) / s) = arrayStd Real.sqrt x / s := by
  rw [arrayStd, arrayMean_sub_div]
  simp only [sub_zero, div_pow, ← Finset.sum_div]
  rw [div_right_comm, Real.sqrt_div' _ (sq_nonneg s), Real.sqrt_sq hs.le, arrayStd]

theorem normalised_stats {m n D : Nat} (hmn : m = n) (x : Fin n → Fin D → ℝ) :
    arrayMean (fun (i : Fin m) d => (x (i.cast hmn) d - arrayMean x) / stdOrOne (arrayStd Real.sqrt x)) = 0 ∧
      arrayStd Real.sqrt (fun (i : Fin m) d => (x (i.cast hmn) d - arrayMean x) / stdOrOne (arrayStd Real.sqrt x)) =
        if arrayStd Real.sqrt x < 1 / 1000000 then arrayStd Real.sqrt x else 1 := by
  subst hmn
  refine ⟨arrayMean_sub_div x _, ?_⟩
  unfold stdOrOne
  split_ifs with h
  · exact (arrayStd_sub_div x one_pos).trans (div_one _)
  · have hpos : 0 < arrayStd Real.sqrt x := lt_of_lt_of_le (by norm_num) (not_lt.mp h)
    exact (arrayStd_sub_div x hpos).trans (div_self hpos.ne')

/-- Over `ℝ`, the train features `run_training` passes to `_train_mlp` have mean `0` and
    standard deviation `1`; when the raw deviation is below `1e-6` they are divided by `1.0`
    instead, so they keep it and only move to mean `0`. -/
theorem trainFeatures_normalised (r : Rng G ℝ) {cfg : TrainConfig} {tr va : List Img}
    {model : TrainedModel ℝ} {mean std : ℝ}
    (h : trainOnSplits images Real.exp Real.log Real.sqrt r cfg tr va = .ok (model, mean, std)) :
    ∃ (run : TrainingRun images ℝ cfg tr va (splitVocab images tr va)) (res : TrainResult ℝ),
      mean = arrayMean run.xTrain ∧ std = stdOrOne (arrayStd Real.sqrt run.xTrain) ∧
      trainMlp Real.exp Real.log Real.sqrt r cfg (splitVocab images tr va) (run.trainInput images mean std) run.yTrain
        (run.valInput images mean std) run.yVal = .ok res ∧ model = res.model ∧
      arrayMean (run.trainInput images mean std) = 0 ∧
      arrayStd Real.sqrt (run.trainInput images mean std) =
        if arrayStd Real.sqrt run.xTrain < 1 / 1000000 then arrayStd Real.sqrt run.xTrain else 1 := by
  obtain ⟨run, res, rfl, rfl, hres, hmodel⟩ := (trainOnSplits_eq_ok images _ _ _ r).mp h
  exact ⟨run, res, rfl, rfl, hres, hmodel, normalised_stats (List.length_map _ _) run.xTrain⟩

theorem trainFeatures_normalised_blank :
    let images : Images Unit := ⟨fun _ => [], fun _ => true, fun _ => true, fun _ _ _ _ _ => 0⟩
    let r : Rng Unit ℝ := ⟨fun _ => (), fun g => (0, g), fun g n => (List.finRange n, g)⟩
    ∃ model mean std, trainOnSplits images Real.exp Real.log Real.sqrt r {} [()] [()] = .ok (model, mean, std) ∧
      ∃ (run : TrainingRun images ℝ {} [()] [()] (splitVocab images [()] [()])) (res : TrainResult ℝ),
        mean = arrayMean run.xTrain ∧ std = stdOrOne (arrayStd Real.sqrt run.xTrain) ∧
        trainMlp Real.exp Real.log Real.sqrt r {} (splitVocab images [()] [()]) (run.trainInput images mean std)
          run.yTrain (run.valInput images mean std) run.yVal = .ok res ∧ model = res.model ∧
        arrayMean (run.trainInput images mean std) = 0 ∧
        arrayStd Real.sqrt (run.trainInput images mean std) =
          if arrayStd Real.sqrt run.xTrain < 1 / 1000000 then arrayStd Real.sqrt run.xTrain else 1 := by
  intro images r
  obtain ⟨model, mean, std, h⟩ := trainOnSplits_ok images Real.exp Real.log Real.sqrt r (parseTrainConfig_valid
    (parseTrainConfig_nil ⟨fun _ => none, fun _ => none, fun _ => []⟩)).1 (List.cons_ne_nil () [])
    (List.cons_ne_nil () []) fun _ _ => rfl
  exact ⟨model, mean, std, h, trainFeatures_normalised images r h⟩

def evalDims (py : Builtins) (config : Dict) : Except PyError (Nat × Nat) := do
  let w ← asInt py (config.get "image_width") 96
  let h ← asInt py (config.get "image_height") 24
  pure ((clampInt w 16 512).toNat, (clampInt h 8 256).toNat)

/-- One preview of `run_evaluation` with the loaded model: the image's features at the
    config's size, then `_predict_text`. -/
def evalPreview (py : Builtins) (exp : K → K) (model : TrainedModel K) (mean std : K) (img : Img) :
    Except PyError (PyStr × K) := do
  let dims ← evalDims py model.config
  let feats ← loadFeatures images [img] dims.1 dims.2
  predictText py exp model ⟨dims.2 * dims.1, feats ⟨0, Nat.one_pos⟩⟩ mean std


/-! ## What the saved file gives `run_evaluation` -/

/-- The config of a model names the shapes of its tensors, and the feature size
    `run_evaluation` derives from it is the width of `w1`. -/
structure TrainedModel.ConfigAgrees (py : Builtins) (model : TrainedModel K) : Prop where
  vocab : ∃ vocab : List PyStr, model.config.get "vocab" = .list (vocab.map .str) ∧ vocab.length = model.w2.d1
  b2_vocab : model.b2.d1 = model.w2.d1
  maxLabelLen : model.config.get "max_label_len" = .int model.w2.d0
  b2_heads : model.b2.d0 = model.w2.d0
  hiddenSize : model.config.get "hidden_size" = .int model.w1.d0
  b1_len : model.b1.d0 = model.w1.d0
  w2_hidden : model.w2.d2 = model.w1.d0
  features : ∃ w h, evalDims py model.config = .ok (w, h) ∧ h * w = model.w1.d1

/-- What `run_evaluation` relies on in the file saved for `(model, mean, std)`: loading it gives
    back the tensors, the config with `pixel_mean` and `pixel_std`, and `(mean, std)`; the
    loaded config names the tensors' shapes; `max(1e-6, std)` is `std`; and the tensors are the
    engine's over the vocabulary the loaded config lists, so that on every row of raw features
    `_predict_text` keeps every argmax through its clamp and returns the engine's tokens for
    the row normalised as the training rows were, the trailing pads dropped. -/
structure SavedModelAgrees (py : Builtins) (codec : FloatCodec K) (exp : K → K) (model : TrainedModel K)
    (mean std : K) : Prop where
  load : loadModelNpz py codec (saveModelNpz codec model mean std) =
    .ok (model.withConfig (npzConfig codec model.config mean std), mean, std)
  shapes : (model.withConfig (npzConfig codec model.config mean std)).ConfigAgrees py
  std_floor : stdFloor std = std
  predicts : ∃ (H D L : Nat) (vocab : List PyStr) (hV : 0 < vocab.length) (θ : Params K H D L vocab.length),
    model = θ.toModel model.config ∧ (npzConfig codec model.config mean std).get "vocab" = .list (vocab.map .str) ∧
    ∀ x : Fin D → K,
      (∀ pos, (max 0 (min ((vocab.length : Int) - 1) (argmax (probs exp θ (fun d => (x d - mean) / std) pos) : Int))).toNat =
        argmax (probs exp θ (fun d => (x d - mean) / std) pos)) ∧
      predictText py exp (model.withConfig (npzConfig codec model.config mean std)) ⟨D, x⟩ mean std =
        .ok (engineText exp vocab hV θ fun d => (x d - mean) / std)

theorem stdFloor_stdOrOne (s : K) : stdFloor (stdOrOne s) = stdOrOne s := by
  unfold stdFloor stdOrOne
  split_ifs with h1 h2 h2
  · rfl
  · exact absurd (by norm_num) h2
  · rfl
  · exact le_antisymm (not_lt.mp h1) (not_lt.mp h2)

section
variable {cfg : TrainConfig} {L : Nat} {vocab : List PyStr}

omit [LinearOrderedField K] in
theorem evalDims_npz (py : Builtins) (codec : FloatCodec K) (hcfg : cfg.Valid) (mean std : K) :
    evalDims py (npzConfig codec (modelConfig cfg L vocab) mean std) = .ok (cfg.imageWidth.toNat, cfg.imageHeight.toNat) := by
  show Except.ok ((clampInt cfg.imageWidth 16 512).toNat, (clampInt cfg.imageHeight 8 256).toNat) = _
  rw [clampInt_of_mem hcfg.imageWidth.1 hcfg.imageWidth.2, clampInt_of_mem hcfg.imageHeight.1 hcfg.imageHeight.2]

omit [LinearOrderedField K] in
theorem configAgrees_toModel (py : Builtins) (codec : FloatCodec K) (hcfg : cfg.Valid)
    (θ : Params K cfg.hiddenSize.toNat (cfg.imageHeight.toNat * cfg.imageWidth.toNat) L vocab.length) (mean std : K) :
    (θ.toModel (npzConfig codec (modelConfig cfg L vocab) mean std)).ConfigAgrees py := by
  have hh := hcfg.hiddenSize
  refine ⟨⟨vocab, rfl, rfl⟩, rfl, rfl, rfl, ?_, rfl, rfl, ⟨_, _, evalDims_npz py codec hcfg mean std, rfl⟩⟩
  show JsonVal.int cfg.hiddenSize = .int (cfg.hiddenSize.toNat : Int)
  rw [Int.toNat_of_nonneg (by omega)]

omit [LinearOrderedField K] in
theorem configPadToken_npz (py : Builtins) (codec : FloatCodec K) (mean std : K) :
    configPadToken py (npzConfig codec (modelConfig cfg L vocab) mean std) = padToken := rfl

theorem savedModelAgrees_toModel (py : Builtins) (codec : FloatCodec K) (exp : K → K) (hcfg : cfg.Valid)
    (hpad : padToken ∈ vocab) (θ : Params K cfg.hiddenSize.toNat (cfg.imageHeight.toNat * cfg.imageWidth.toNat) L vocab.length)
    (mean s : K) : SavedModelAgrees py codec exp (θ.toModel (modelConfig cfg L vocab)) mean (stdOrOne s) := by
  have hV : 0 < vocab.length := List.length_pos_of_mem hpad
  refine ⟨loadModelNpz_saveModelNpz py codec _ mean _, configAgrees_toModel py codec hcfg θ mean _,
    stdFloor_stdOrOne s, ⟨_, _, _, vocab, hV, θ, rfl, rfl, fun x => ⟨fun pos => clamp_of_lt (argmax_lt _ hV), ?_⟩⟩⟩
  show predictText py exp (θ.toModel (npzConfig codec (modelConfig cfg L vocab) mean (stdOrOne s))) ⟨_, x⟩ mean _ = _
  rw [predictText_engine py exp (npzConfig codec (modelConfig cfg L vocab) mean (stdOrOne s)) hV θ rfl x,
    stdFloor_stdOrOne, configPadToken_npz, finishText_engineHeads]

/-- `run_evaluation`'s preview of an image PIL decodes, on the saved model: the image's
    features at the size the config gives, normalised with the saved `(mean, std)`, through
    the engine. -/
theorem evalPreview_toModel (py : Builtins) (codec : FloatCodec K) (exp : K → K) (hcfg : cfg.Valid)
    (hpad : padToken ∈ vocab) (θ : Params K cfg.hiddenSize.toNat (cfg.imageHeight.toNat * cfg.imageWidth.toNat) L vocab.length)
    (mean s : K) {img : Img} (hdec : images.decodes img) :
    evalPreview images py exp (θ.toModel (npzConfig codec (modelConfig cfg L vocab) mean (stdOrOne s))) mean (stdOrOne s) img =
      .ok (engineText exp vocab (List.length_pos_of_mem hpad) θ fun d =>
        ((images.pixels img cfg.imageWidth.toNat cfg.imageHeight.toNat (finProdFinEquiv.symm d).1 (finProdFinEquiv.symm d).2 :
          Nat) / 255 - mean) / stdOrOne s) := by
  simp only [evalPreview, Params.toModel_config, evalDims_npz py codec hcfg, except_ok_bind,
    loadFeatures_ok images (List.cons_ne_nil img []) (by simpa using hdec)]
  rw [predictText_engine py exp (npzConfig codec (modelConfig cfg L vocab) mean (stdOrOne s)) (List.length_pos_of_mem hpad)
    θ rfl, stdFloor_stdOrOne, configPadToken_npz, finishText_engineHeads]
  rfl

end

/-- Whatever `run_training` passes to `_save_model_npz` keeps every promise to
    `run_evaluation` (`SavedModelAgrees`), and it is what `_train_mlp` returned on the chosen
    images' features normalised with that same `(mean, std)` (`TrainedOn`). -/
theorem runTraining_saved (py : Builtins) (codec : FloatCodec K) (exp log sqrt : K → K) (r : Rng G K) (params : Dict)
    (ds : Dataset Img) {model : TrainedModel K} {mean std : K}
    (h : runTraining images py exp log sqrt r params ds = .ok (model, mean, std)) :
    SavedModelAgrees py codec exp model mean std ∧
      ∃ cfg tr va, parseTrainConfig py params = .ok cfg ∧ selectSplits images cfg ds = .ok (tr, va) ∧
        TrainedOn images exp log sqrt r cfg tr va model mean std := by
  simp only [runTraining, except_bind_eq_ok] at h
  obtain ⟨cfg, hcfg, ⟨tr, va⟩, hsel, h⟩ := h
  have hvalid := (parseTrainConfig_valid hcfg).1
  have htrained := (trainOnSplits_eq_ok images exp log sqrt r).mp h
  obtain ⟨run, -, rfl, k, -, rfl⟩ := htrained.eq_paramsAfter images exp log sqrt r hvalid
  exact ⟨savedModelAgrees_toModel py codec exp hvalid (padToken_mem_buildVocab _) _ mean _, cfg, tr, va, hcfg, hsel,
    htrained⟩

theorem runTraining_saved_blank :
    let py : Builtins := ⟨fun _ => none, fun _ => none, fun _ => []⟩
    let images : Images Unit := ⟨fun _ => [], fun _ => true, fun _ => true, fun _ _ _ _ _ => 0⟩
    let r : Rng Unit ℚ := ⟨fun _ => (), fun g => (0, g), fun g n => (List.finRange n, g)⟩
    let ds : Dataset Unit := ⟨some [()], none⟩
    ∃ model mean std, runTraining images py id id id r [] ds = .ok (model, mean, std) ∧
      SavedModelAgrees py FloatCodec.rat id model mean std ∧
      ∃ cfg tr va, parseTrainConfig py [] = .ok cfg ∧ selectSplits images cfg ds = .ok (tr, va) ∧
        TrainedOn images id id id r cfg tr va model mean std := by
  intro py images r ds
  obtain ⟨-, -, model, mean, std, -, -, h⟩ := runTraining_ok images py id id id r [] ds (parseTrainConfig_nil py) rfl
    ⟨(), List.mem_singleton_self _, rfl⟩ fun _ _ _ => rfl
  exact ⟨model, mean, std, h, runTraining_saved images py FloatCodec.rat id id id r [] ds h⟩
end

end

end PlateOcr
