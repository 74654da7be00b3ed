/-
  PlateOcr.Artifact.Predict — `_predict_text` on a loaded artifact, whose shapes nothing checks.

  The arrays are the ones `np.load` gives back, with the numbers of dimensions the saver
  wrote and any sizes: `x @ w.T` raises `ValueError` unless the inner sizes agree, `+`
  broadcasts a row against a vector (equal sizes, or either of them `1`), `b2[pos]` raises
  `IndexError` past `b2.shape[0]`, and the max of an empty row raises `ValueError`. The
  feature matrix `run_evaluation` passes has one row (`_load_features([img])`), which is the
  row here. `vocab_size` is `w2.shape[1]`, and the defensive clamp bounds the argmax by it,
  not by `len(vocab)`. `tokens` and `confs` are appended together, so `predictText` keeps them
  as one list of pairs; the trailing-pad loop that pops them is also modelled as written, on
  the two lists (`popPads`, `finishTokens`), and `finishTokens_pairs` shows it gives the same.

  Proved:
  - `predictText_ok`: a model whose config has a non-empty `vocab` list at least as long as
    `w2.shape[1]`, with shapes that fit each other and the feature row, gives a result.
  - `predictText_vocab_short`: with a one-word vocabulary and `w2.shape[1] = 2`, shapes that
    fit and a head whose second logit is the larger, `_predict_text` raises `IndexError`:
    the clamp keeps the index below `w2.shape[1]`, and `vocab[1]` is out of range.
  - `finishTokens_spec`: on the two lists the position loop builds from any `(idx, prob)`
    pairs, the pop loop pops them in step and keeps the first `k` of both, `k` one past the
    last position whose token is not the pad (so interior pads stay); the text joins those
    `k` tokens and the confidence is their least probability, `0.0` for `k = 0` and so, over
    a vocabulary of non-empty strings, for every empty text.
  - `predictText_conf_of_text_nil`: the same last point for `_predict_text` as a whole.
  - `predictText_conf_spec`: with a positive `exp`, the confidence `_predict_text` returns is
    in `[0, 1]`, and it is `0.0` exactly when the text is empty.
  - `predictText_engine`: on an artifact of the engine's tensors whose config lists the
    vocabulary, `_predict_text` returns `engineText`: at each position the vocabulary entry
    at the argmax of the engine's probabilities, the trailing pads dropped, the rest joined,
    with the least probability kept (`0.0` for none).
  - `softmax_exp_argmax`: over `ℝ` the max-shifted `_softmax` is `exp(z) / Σ exp(z)` of the
    logits themselves, and the argmax of the probabilities is the argmax of the logits.
-/

import PlateOcr.Engine.Train
import PlateOcr.Engine.Gradient

namespace PlateOcr

section
variable {K : Type}

def Array1.map (a : Array1 K) (f : K → K) : Array1 K := ⟨a.d0, fun i => f (a.get i)⟩

def Array3.slice (w : Array3 K) (pos : Fin w.d0) : Array2 K := ⟨w.d1, w.d2, w.get pos⟩

def Array2.row (b : Array2 K) (pos : Nat) : Except PyError (Array1 K) :=
  if h : pos < b.d0 then .ok ⟨b.d1, b.get ⟨pos, h⟩⟩ else .error .indexError

@[simp] theorem Array1.map_d0 (a : Array1 K) (f : K → K) : (a.map f).d0 = a.d0 := rfl

theorem Array2.row_of_lt {b : Array2 K} {pos : Nat} (h : pos < b.d0) : b.row pos = .ok ⟨b.d1, b.get ⟨pos, h⟩⟩ :=
  dif_pos h

theorem mapM_ok {α β ε : Type} {f : α → Except ε β} :
    ∀ l : List α, (∀ a ∈ l, ∃ b, f a = .ok b) → ∃ bs, l.mapM f = .ok bs
  | [], _ => ⟨[], rfl⟩
  | a :: l, h => by
    obtain ⟨b, hb⟩ := h a (List.mem_cons_self a l)
    obtain ⟨bs, hbs⟩ := mapM_ok l fun a' ha' => h a' (List.mem_cons_of_mem a ha')
    exact ⟨b :: bs, by rw [List.mapM_cons, hb, except_ok_bind, hbs]; rfl⟩

theorem mapM_eq_ok {α β ε : Type} {f : α → Except ε β} {g : α → β} :
    ∀ l : List α, (∀ a ∈ l, f a = .ok (g a)) → l.mapM f = .ok (l.map g)
  | [], _ => rfl
  | a :: l, h => by
    rw [List.mapM_cons, h a (List.mem_cons_self a l), except_ok_bind,
      mapM_eq_ok l fun a' ha' => h a' (List.mem_cons_of_mem a ha')]
    rfl

theorem mem_of_mapM_ok {α β ε : Type} {f : α → Except ε β} :
    ∀ {l : List α} {bs : List β}, l.mapM f = .ok bs → ∀ b ∈ bs, ∃ a ∈ l, f a = .ok b
  | [], bs, h => by
    rw [List.mapM_nil] at h
    cases h
    simp
  | a :: l, bs, h => by
    obtain ⟨b', hb', bs', hbs', rfl⟩ : ∃ b', f a = .ok b' ∧ ∃ bs', l.mapM f = .ok bs' ∧ b' :: bs' = bs := by
      simpa only [List.mapM_cons, except_bind_eq_ok, except_pure_eq_ok] using h
    rintro b (_ | ⟨_, hb⟩)
    · exact ⟨a, List.mem_cons_self a l, hb'⟩
    · obtain ⟨a', ha', hfa'⟩ := mem_of_mapM_ok hbs' b hb
      exact ⟨a', List.mem_cons_of_mem a ha', hfa'⟩

end

section
variable {K : Type} [LinearOrderedField K]

/-- `a @ w.T` for a row `a` of shape `(1, n)` and a matrix `w` of shape `(m, n)`. -/
def Array1.matmulT (a : Array1 K) (w : Array2 K) : Except PyError (Array1 K) :=
  if h : a.d0 = w.d1 then .ok ⟨w.d0, fun k => ∑ d, a.get d * w.get k (d.cast h)⟩ else .error .valueError

def Array1.addRow (a b : Array1 K) : Except PyError (Array1 K) :=
  if h : a.d0 = b.d0 then .ok ⟨a.d0, fun i => a.get i + b.get (i.cast h)⟩
  else if ha : a.d0 = 1 then .ok ⟨b.d0, fun j => a.get ⟨0, by omega⟩ + b.get j⟩
  else if hb : b.d0 = 1 then .ok ⟨a.d0, fun i => a.get i + b.get ⟨0, by omega⟩⟩
  else .error .valueError

/-- `probs = _softmax(logits)`, the argmax clamped into `[0, vocab_size - 1]`, then
    `str(vocab[idx])` and `probs[0, idx]`. -/
def pickToken (py : Builtins) (exp : K → K) (vocab : List JsonVal) (vocabSize : Nat) (logits : Array1 K) :
    Except PyError (PyStr × K) :=
  if logits.d0 = 0 then .error .valueError else
    let idx := (max 0 (min ((vocabSize : Int) - 1) (argmax (softmax exp logits.get) : Int))).toNat
    match vocab[idx]? with
    | none => .error .indexError
    | some tok => if hi : idx < logits.d0 then .ok (py.str tok, softmax exp logits.get ⟨idx, hi⟩) else .error .indexError

def predictHead (py : Builtins) (exp : K → K) (model : TrainedModel K) (vocab : List JsonVal) (h : Array1 K)
    (pos : Fin model.w2.d0) : Except PyError (PyStr × K) := do
  let logits ← (← h.matmulT (model.w2.slice pos)).addRow (← model.b2.row pos)
  pickToken py exp vocab model.w2.d1 logits

def minOrZero : List K → K
  | [] => 0
  | c :: cs => cs.foldl min c

/-- The `while tokens and tokens[-1] == pad_token` loop, then `"".join(tokens)` and the confidence. -/
def finishText (padTok : PyStr) (heads : List (PyStr × K)) : PyStr × K :=
  let kept := heads.rdropWhile (fun p => p.1 == padTok)
  ((kept.map Prod.fst).flatten, minOrZero (kept.map Prod.snd))

def stdFloor (std : K) : K := if (1 / 1000000 : K) < std then std else 1 / 1000000

def configPadToken (py : Builtins) (cfg : Dict) : PyStr :=
  py.str (if (cfg.get "pad_token").truthy then cfg.get "pad_token" else .str padToken)

def predictText (py : Builtins) (exp : K → K) (model : TrainedModel K) (x : Array1 K) (mean std : K) :
    Except PyError (PyStr × K) :=
  match model.config.get "vocab" with
  | .list (v :: vs) =>
    let xn := x.map fun a => (a - mean) / stdFloor std
    do
      let z1 ← (← xn.matmulT model.w1).addRow model.b1
      let heads ← (List.finRange model.w2.d0).mapM (predictHead py exp model (v :: vs) (z1.map relu))
      pure (finishText (configPadToken py model.config) heads)
  | _ => .error (.runtimeError "model_invalid_vocab")

/-- The shapes `_predict_text` needs of a model and of a feature row of `D` values. -/
structure TrainedModel.Fits (model : TrainedModel K) (D : Nat) : Prop where
  w1_cols : model.w1.d1 = D
  b1_len : model.b1.d0 = model.w1.d0
  w2_hidden : model.w2.d2 = model.w1.d0
  b2_heads : model.b2.d0 = model.w2.d0
  b2_vocab : model.b2.d1 = model.w2.d1
  vocab_pos : 0 < model.w2.d1

/-! ## The array operations -/

theorem Array1.matmulT_of_eq {a : Array1 K} {w : Array2 K} (h : a.d0 = w.d1) :
    a.matmulT w = .ok ⟨w.d0, fun k => ∑ d, a.get d * w.get k (d.cast h)⟩ := dif_pos h

theorem Array1.addRow_of_eq {a b : Array1 K} (h : a.d0 = b.d0) :
    a.addRow b = .ok ⟨a.d0, fun i => a.get i + b.get (i.cast h)⟩ := dif_pos h

theorem clamp_of_lt {i n : Nat} (h : i < n) : (max 0 (min ((n : Int) - 1) (i : Int))).toNat = i := by
  omega

theorem minOrZero_spec {cs : List K} (hcs : cs ≠ []) : minOrZero cs ∈ cs ∧ ∀ d ∈ cs, minOrZero cs ≤ d := by
  obtain ⟨c, cs, rfl⟩ := List.exists_cons_of_ne_nil hcs
  have h : (c :: cs).min? = some (minOrZero (c :: cs)) := rfl
  exact ⟨List.min?_mem min_choice h, (List.le_min?_iff (fun _ _ _ => le_min_iff) h).mp le_rfl⟩

theorem minOrZero_eq_minimum (cs : List K) : minOrZero cs = cs.minimum.untop' 0 := by
  cases cs with
  | nil => rfl
  | cons c cs => rw [(List.minimum_eq_coe_iff.mpr (minOrZero_spec (List.cons_ne_nil c cs))), WithTop.untop'_coe]

theorem pickToken_eq (py : Builtins) (exp : K → K) {vocab : List JsonVal} {vocabSize : Nat} {logits : Array1 K}
    (hpos : 0 < logits.d0) (hV : logits.d0 ≤ vocabSize) (hlen : logits.d0 ≤ vocab.length) :
    pickToken py exp vocab vocabSize logits =
      .ok (py.str (vocab.get ⟨argmax (softmax exp logits.get), (argmax_lt _ hpos).trans_le hlen⟩),
        softmax exp logits.get ⟨argmax (softmax exp logits.get), argmax_lt _ hpos⟩) := by
  have hlt := argmax_lt (softmax exp logits.get) hpos
  simp only [pickToken, if_neg hpos.ne', clamp_of_lt (hlt.trans_le hV),
    List.getElem?_eq_getElem (hlt.trans_le hlen), dif_pos hlt, List.get_eq_getElem]

/-! ## No `IndexError` when the vocabulary covers `w2.shape[1]` -/

theorem predictHead_ok (py : Builtins) (exp : K → K) {model : TrainedModel K} {D : Nat} (hfit : model.Fits D)
    {vocab : List JsonVal} (hlen : model.w2.d1 ≤ vocab.length) (h : Array1 K) (hh : h.d0 = model.w1.d0)
    (pos : Fin model.w2.d0) : ∃ r, predictHead py exp model vocab h pos = .ok r := by
  have hrow : pos.val < model.b2.d0 := lt_of_lt_of_eq pos.isLt hfit.b2_heads.symm
  rw [predictHead, Array1.matmulT_of_eq (show h.d0 = (model.w2.slice pos).d1 from hh.trans hfit.w2_hidden.symm),
    Array2.row_of_lt hrow, except_ok_bind, except_ok_bind, Array1.addRow_of_eq hfit.b2_vocab.symm, except_ok_bind]
  exact ⟨_, pickToken_eq py exp hfit.vocab_pos le_rfl hlen⟩

theorem predictHeads_ok (py : Builtins) (exp : K → K) {model : TrainedModel K} {D : Nat} (hfit : model.Fits D)
    {vocab : List JsonVal} (hlen : model.w2.d1 ≤ vocab.length) (h : Array1 K) (hh : h.d0 = model.w1.d0)
    (k : List (PyStr × K) → PyStr × K) :
    ∃ r, ((List.finRange model.w2.d0).mapM (predictHead py exp model vocab h) >>= fun heads => pure (k heads)) = .ok r := by
  obtain ⟨heads, hheads⟩ := mapM_ok _ fun pos _ => predictHead_ok py exp hfit hlen h hh pos
  exact ⟨k heads, by rw [hheads]; rfl⟩

/-- A config whose `vocab` is a non-empty list at least `w2.shape[1]` long, and tensors whose
    shapes fit each other and the feature row: `_predict_text` returns. -/
theorem predictText_ok (py : Builtins) (exp : K → K) (model : TrainedModel K) (x : Array1 K) (mean std : K)
    (hfit : model.Fits x.d0) {vocab : List JsonVal} (hv : model.config.get "vocab" = .list vocab)
    (hne : vocab ≠ []) (hlen : model.w2.d1 ≤ vocab.length) : ∃ r, predictText py exp model x mean std = .ok r := by
  obtain ⟨v, vs, rfl⟩ := List.exists_cons_of_ne_nil hne
  simp only [predictText, hv]
  rw [Array1.matmulT_of_eq (show (x.map _).d0 = model.w1.d1 from hfit.w1_cols.symm), except_ok_bind,
    Array1.addRow_of_eq hfit.b1_len.symm, except_ok_bind]
  exact predictHeads_ok py exp hfit hlen _ rfl _

theorem predictText_ok_zero :
    let model := (⟨0, 0, 0, 0⟩ : Params ℚ 1 1 1 1).toModel [(.ofString "vocab", .list [.str (.ofString "a")])]
    (model.Fits 1 ∧ model.config.get "vocab" = .list [.str (.ofString "a")] ∧ [JsonVal.str (.ofString "a")] ≠ [] ∧
      model.w2.d1 ≤ [JsonVal.str (.ofString "a")].length) ∧
      ∃ r, predictText ⟨fun _ => none, fun _ => none, fun _ => []⟩ id model ⟨1, 0⟩ 0 1 = .ok r :=
  ⟨⟨⟨rfl, rfl, rfl, rfl, rfl, by decide⟩, rfl, List.cons_ne_nil _ _, le_refl 1⟩,
    predictText_ok _ id _ ⟨1, 0⟩ 0 1 ⟨rfl, rfl, rfl, rfl, rfl, by decide⟩ rfl (List.cons_ne_nil _ _) (le_refl 1)⟩

/-! ## Artifacts built from the engine's parameters -/

section
variable {H D L V : Nat}

theorem predictHead_toModel (py : Builtins) (exp : K → K) (config : Dict) (θ : Params K H D L V)
    (vocab : List JsonVal) (x : Fin D → K) (pos : Fin L) :
    predictHead py exp (θ.toModel config) vocab ⟨H, hidden θ x⟩ pos =
      pickToken py exp vocab V ⟨V, logits θ (hidden θ x) pos⟩ := by
  rw [predictHead, Array1.matmulT_of_eq rfl, except_ok_bind, Array2.row_of_lt pos.isLt, except_ok_bind,
    Array1.addRow_of_eq (rfl : V = V), except_ok_bind]
  rfl

/-- `_predict_text` on an artifact of the engine's tensors and a row of `D` features: the
    normalised row goes through the engine's forward pass, head by head. -/
theorem predictText_toModel (py : Builtins) (exp : K → K) (config : Dict) (θ : Params K H D L V)
    {vocab : List JsonVal} (hv : config.get "vocab" = .list vocab) (hne : vocab ≠ []) (x : Fin D → K) (mean std : K) :
    predictText py exp (θ.toModel config) ⟨D, x⟩ mean std =
      ((List.finRange L).mapM fun pos =>
          pickToken py exp vocab V ⟨V, logits θ (hidden θ fun d => (x d - mean) / stdFloor std) pos⟩) >>=
        fun heads => pure (finishText (configPadToken py config) heads) := by
  obtain ⟨v, vs, rfl⟩ := List.exists_cons_of_ne_nil hne
  have hfun : predictHead py exp (θ.toModel config) (v :: vs) ⟨H, hidden θ fun d => (x d - mean) / stdFloor std⟩ =
      fun pos => pickToken py exp (v :: vs) V ⟨V, logits θ (hidden θ fun d => (x d - mean) / stdFloor std) pos⟩ :=
    funext (predictHead_toModel py exp config θ (v :: vs) _)
  simp only [predictText, Params.toModel, hv]
  rw [Array1.matmulT_of_eq rfl, except_ok_bind, Array1.addRow_of_eq (rfl : H = H), except_ok_bind]
  exact congrArg (fun heads => heads >>= fun heads => pure (finishText (configPadToken py config) heads))
    (congrArg (List.mapM · (List.finRange L)) hfun)

/-- The tokens of the engine on row `x`: at every position the vocabulary entry at the argmax
    of `probs` (the prediction `_eval_model` counts), with that probability. -/
def engineHeads (exp : K → K) (vocab : List PyStr) (hV : 0 < vocab.length) (θ : Params K H D L vocab.length)
    (x : Fin D → K) : List (PyStr × K) :=
  List.ofFn fun pos => (vocab.get ⟨argmax (probs exp θ x pos), argmax_lt _ hV⟩,
    probs exp θ x pos ⟨argmax (probs exp θ x pos), argmax_lt _ hV⟩)

/-- What `_predict_text` is to return for the engine's tokens on row `x`: the trailing `<pad>`
    tokens dropped, the rest joined, and the least probability of those kept, `0.0` for none. -/
def engineText (exp : K → K) (vocab : List PyStr) (hV : 0 < vocab.length) (θ : Params K H D L vocab.length)
    (x : Fin D → K) : PyStr × K :=
  let kept := (engineHeads exp vocab hV θ x).rdropWhile fun p => p.1 == padToken
  ((kept.map Prod.fst).flatten, (kept.map Prod.snd).minimum.untop' 0)

theorem finishText_engineHeads (exp : K → K) (vocab : List PyStr) (hV : 0 < vocab.length)
    (θ : Params K H D L vocab.length) (x : Fin D → K) :
    finishText padToken (engineHeads exp vocab hV θ x) = engineText exp vocab hV θ x := by
  rw [finishText, engineText, minOrZero_eq_minimum]

/-- On an artifact of the engine's tensors whose config lists the vocabulary, `_predict_text`
    returns on every row, and emits at every position the engine's argmax token for the row
    normalised with `max(1e-6, std)`. -/
theorem predictText_engine (py : Builtins) (exp : K → K) (config : Dict) {vocab : List PyStr}
    (hV : 0 < vocab.length) (θ : Params K H D L vocab.length) (hv : config.get "vocab" = .list (vocab.map .str))
    (x : Fin D → K) (mean std : K) :
    predictText py exp (θ.toModel config) ⟨D, x⟩ mean std =
      .ok (finishText (configPadToken py config) (engineHeads exp vocab hV θ fun d => (x d - mean) / stdFloor std)) := by
  have hpick : ∀ pos : Fin L, pickToken py exp (vocab.map .str) vocab.length
      ⟨vocab.length, logits θ (hidden θ fun d => (x d - mean) / stdFloor std) pos⟩ =
      .ok (vocab.get ⟨argmax (probs exp θ (fun d => (x d - mean) / stdFloor std) pos), argmax_lt _ hV⟩,
        probs exp θ (fun d => (x d - mean) / stdFloor std) pos
          ⟨argmax (probs exp θ (fun d => (x d - mean) / stdFloor std) pos), argmax_lt _ hV⟩) := fun pos => by
    rw [pickToken_eq py exp hV (le_refl vocab.length) (by simp)]
    simp [Builtins.str, probs]
  rw [predictText_toModel py exp config θ hv (List.ne_nil_of_length_pos (by simpa using hV)),
    mapM_eq_ok _ fun pos _ => hpick pos, except_ok_bind, engineHeads, List.ofFn_eq_map]
  rfl

end

/-! ## The clamp bounds the index by `w2.shape[1]`, not by `len(vocab)` -/

/-- Where the argmax of a row no wider than `vocab_size` lands at or past `len(vocab)`, the
    clamp lets it through and `vocab[idx]` raises `IndexError`. -/
theorem pickToken_indexError (py : Builtins) (exp : K → K) {vocab : List JsonVal} {vocabSize : Nat}
    {logits : Array1 K} (hpos : 0 < logits.d0) (hV : logits.d0 ≤ vocabSize)
    (hidx : vocab.length ≤ argmax (softmax exp logits.get)) :
    pickToken py exp vocab vocabSize logits = .error .indexError := by
  have hlt := argmax_lt (softmax exp logits.get) hpos
  simp only [pickToken, if_neg hpos.ne', clamp_of_lt (hlt.trans_le hV), List.getElem?_eq_none hidx]

theorem argmax_two {p : Fin 2 → K} (h : p 0 < p 1) : argmax p = 1 := by
  rw [argmax_succ]
  simp [show List.finRange 2 = [0, 1] from rfl, h]

end

theorem softmax_lt_softmax {n : Nat} {z : Fin n → ℝ} {u v : Fin n} (h : z u < z v) :
    softmax Real.exp z u < softmax Real.exp z v := by
  rw [softmax_eq_exp_div, softmax_eq_exp_div]
  exact div_lt_div_of_pos_right (Real.exp_lt_exp.mpr h) (sum_exp_pos z u)

/-- Over `ℝ` the max-shifted `_softmax` is the softmax `exp(z_v) / Σ_w exp(z_w)` of the
    logits themselves, and `probs.argmax()` is the first index of the largest logit: the
    predictions `_eval_model` counts and `_predict_text` emits are the argmax of the logits. -/
theorem softmax_exp_argmax {n : Nat} (z : Fin n → ℝ) :
    softmax Real.exp z = (fun v => Real.exp (z v) / ∑ w, Real.exp (z w)) ∧ argmax (softmax Real.exp z) = argmax z :=
  ⟨funext (softmax_eq_exp_div z), argmax_congr_lt fun i j => by
    rw [softmax_eq_exp_div, softmax_eq_exp_div, div_lt_div_iff_of_pos_right (sum_exp_pos z i), Real.exp_lt_exp]⟩

/-- An artifact whose config lists the one word `"a"` while `w2` has two vocabulary rows: one
    feature, one hidden unit, one head, zero weights and `b2 = [[0, 1]]`. -/
def shortVocabModel (K : Type) [LinearOrderedField K] : TrainedModel K :=
  Params.toModel [(.ofString "vocab", .list [.str (.ofString "a")])]
    (⟨fun _ _ => 0, fun _ => 0, fun _ _ _ => 0, fun _ v => v.val⟩ : Params K 1 1 1 2)

/-- The artifact above fits every shape `_predict_text` uses and has a non-empty vocabulary,
    yet on any feature row the head picks index `1` of `w2`'s two rows, the clamp to
    `vocab_size - 1 = 1` keeps it, and `vocab[1]` raises `IndexError`. -/
theorem predictText_vocab_short (py : Builtins) :
    (shortVocabModel ℝ).Fits 1 ∧ (shortVocabModel ℝ).config.get "vocab" = .list [.str (.ofString "a")] ∧
      predictText py Real.exp (shortVocabModel ℝ) ⟨1, fun _ => 0⟩ 0 1 = .error .indexError := by
  have hv : Dict.get [(.ofString "vocab", .list [.str (.ofString "a")])] "vocab" = .list [.str (.ofString "a")] := rfl
  refine ⟨⟨rfl, rfl, rfl, rfl, rfl, by decide⟩, hv, ?_⟩
  rw [shortVocabModel, predictText_toModel py Real.exp _ _ hv (by simp), show List.finRange 1 = [0] from rfl,
    List.mapM_cons, pickToken_indexError py Real.exp]
  · rfl
  · decide
  · decide
  · rw [argmax_two (softmax_lt_softmax (by simp [logits]))]
    rfl

/-! ## The trailing pads: the loop on the two lists -/

section
variable {K : Type}

/-- The `while tokens and tokens[-1] == pad_token:` loop on explicit fuel: each pass pops the
    last token and then the last confidence, and `confs.pop()` on an empty list raises
    `IndexError`. -/
def popPadsAux (padTok : PyStr) : Nat → List PyStr → List K → Except PyError (List PyStr × List K)
  | 0, tokens, confs => .ok (tokens, confs)
  | fuel + 1, tokens, confs =>
    match tokens.getLast? with
    | some t =>
      if t == padTok then
        if confs.isEmpty then .error .indexError else popPadsAux padTok fuel tokens.dropLast confs.dropLast
      else .ok (tokens, confs)
    | none => .ok (tokens, confs)

def popPads (padTok : PyStr) (tokens : List PyStr) (confs : List K) : Except PyError (List PyStr × List K) :=
  popPadsAux padTok tokens.length tokens confs

theorem rdropWhile_eq_take {α : Type} (p : α → Bool) (l : List α) :
    ∃ k ≤ l.length, l.rdropWhile p = l.take k ∧ (∀ x ∈ l.drop k, p x) ∧ ∀ x ∈ (l.take k).getLast?, ¬p x := by
  induction l using List.reverseRecOn with
  | nil => exact ⟨0, le_rfl, rfl, by simp, by simp⟩
  | append_singleton l x ih =>
    obtain ⟨k, hk, hkeep, hdrop, hlast⟩ := ih
    by_cases hx : p x
    · refine ⟨k, by simp only [List.length_append, List.length_singleton]; omega, ?_, ?_, ?_⟩
      · rw [List.rdropWhile_concat_pos _ _ _ hx, hkeep, List.take_append_of_le_length hk]
      · rw [List.drop_append_of_le_length hk]
        exact fun y hy => (List.mem_append.mp hy).elim (hdrop y) fun h => List.mem_singleton.mp h ▸ hx
      · rwa [List.take_append_of_le_length hk]
    · refine ⟨(l ++ [x]).length, le_rfl, ?_, by simp, ?_⟩
      · rw [List.rdropWhile_concat_neg _ _ _ hx, List.take_length]
      · simpa only [List.take_length, List.getLast?_concat, Option.mem_def, Option.some.injEq, forall_eq'] using hx

theorem popPadsAux_map {α : Type} (padTok : PyStr) (tok : α → PyStr) (prob : α → K) :
    ∀ (fuel : Nat) (heads : List α), heads.length ≤ fuel →
      popPadsAux padTok fuel (heads.map tok) (heads.map prob) =
        .ok ((heads.rdropWhile (tok · == padTok)).map tok, (heads.rdropWhile (tok · == padTok)).map prob)
  | 0, heads, h => by rw [List.eq_nil_of_length_eq_zero (Nat.le_zero.mp h)]; rfl
  | fuel + 1, heads, h => by
    rcases List.eq_nil_or_concat heads with rfl | ⟨heads, b, rfl⟩
    · rfl
    · simp only [List.concat_eq_append, List.length_append, List.length_singleton] at h
      simp only [popPadsAux, List.concat_eq_append, List.map_append, List.map_cons, List.map_nil,
        List.getLast?_concat, List.dropLast_concat]
      by_cases hb : (tok b == padTok) = true
      · rw [if_pos hb, if_neg (by simp), popPadsAux_map padTok tok prob fuel heads (by omega),
          List.rdropWhile_concat_pos (tok · == padTok) heads b hb]
      · rw [if_neg hb, List.rdropWhile_concat_neg (tok · == padTok) heads b hb]
        simp only [List.map_append, List.map_cons, List.map_nil]

theorem popPads_map {α : Type} (padTok : PyStr) (tok : α → PyStr) (prob : α → K) (heads : List α) :
    popPads padTok (heads.map tok) (heads.map prob) =
      .ok ((heads.rdropWhile (tok · == padTok)).map tok, (heads.rdropWhile (tok · == padTok)).map prob) :=
  popPadsAux_map padTok tok prob _ heads (List.length_map _ _).ge

/-- The pop loop keeps the first `k` tokens and the first `k` confidences, for the `k` one past
    the last position whose token is not the pad. -/
theorem popPads_take {α : Type} (padTok : PyStr) (tok : α → PyStr) (prob : α → K) (heads : List α) :
    ∃ k ≤ heads.length, (∀ q ∈ heads.drop k, tok q = padTok) ∧ (∀ q ∈ (heads.take k).getLast?, tok q ≠ padTok) ∧
      popPads padTok (heads.map tok) (heads.map prob) = .ok ((heads.take k).map tok, (heads.take k).map prob) := by
  obtain ⟨k, hk, hkeep, hdrop, hlast⟩ := rdropWhile_eq_take (tok · == padTok) heads
  refine ⟨k, hk, fun q hq => beq_iff_eq.mp (hdrop q hq), fun q hq => by simpa using hlast q hq, ?_⟩
  rw [popPads_map, hkeep]

end

section
variable {K : Type} [LinearOrderedField K]

/-- The end of `_predict_text` on its two lists: the pop loop, `"".join(tokens)`, and
    `float(min(confs)) if confs else 0.0`. -/
def finishTokens (padTok : PyStr) (tokens : List PyStr) (confs : List K) : Except PyError (PyStr × K) := do
  let (tokens, confs) ← popPads padTok tokens confs
  pure (tokens.flatten, minOrZero confs)

theorem finishTokens_pairs (padTok : PyStr) (heads : List (PyStr × K)) :
    finishTokens padTok (heads.map Prod.fst) (heads.map Prod.snd) = .ok (finishText padTok heads) := by
  rw [finishTokens, popPads_map]
  rfl

theorem minOrZero_of_flatten_eq_nil {α : Type} {tok : α → PyStr} (prob : α → K) {heads : List α}
    (hne : ∀ q ∈ heads, tok q ≠ []) (h : (heads.map tok).flatten = []) : minOrZero (heads.map prob) = 0 := by
  cases heads with
  | nil => rfl
  | cons q qs =>
    exact absurd (List.flatten_eq_nil_iff.mp h (tok q) (List.mem_map_of_mem _ (List.mem_cons_self q qs)))
      (hne q (List.mem_cons_self q qs))

/-- The end of `_predict_text` on the lists its position loop builds from any `(idx, prob)`
    pairs, over a vocabulary of non-empty strings: the pop loop keeps the first `k` tokens and
    the first `k` confidences, `k` one past the last position whose token is not the pad; the
    text joins those tokens and the confidence is their least probability, `0.0` when nothing
    is kept and so whenever the text is empty. -/
theorem finishTokens_spec (py : Builtins) (pad : PyStr) {vocab : List JsonVal}
    (hv : ∀ v ∈ vocab, ∃ s, v = .str s ∧ s ≠ []) (heads : List (Fin vocab.length × K)) :
    ∃ k ≤ heads.length,
      (∀ q ∈ heads.drop k, py.str (vocab.get q.1) = pad) ∧
      (∀ q ∈ (heads.take k).getLast?, py.str (vocab.get q.1) ≠ pad) ∧
      popPads pad (heads.map fun q => py.str (vocab.get q.1)) (heads.map Prod.snd) =
        .ok ((heads.take k).map fun q => py.str (vocab.get q.1), (heads.take k).map Prod.snd) ∧
      ∃ conf, finishTokens pad (heads.map fun q => py.str (vocab.get q.1)) (heads.map Prod.snd) =
          .ok (((heads.take k).map fun q => py.str (vocab.get q.1)).flatten, conf) ∧
        (k = 0 → conf = 0) ∧
        (0 < k → (∃ q ∈ heads.take k, conf = q.2) ∧ ∀ q ∈ heads.take k, conf ≤ q.2) ∧
        (((heads.take k).map fun q => py.str (vocab.get q.1)).flatten = [] → conf = 0) := by
  obtain ⟨k, hk, hdrop, hlast, hpop⟩ := popPads_take pad (fun q => py.str (vocab.get q.1)) Prod.snd heads
  refine ⟨k, hk, hdrop, hlast, hpop, minOrZero ((heads.take k).map Prod.snd), by rw [finishTokens, hpop]; rfl,
    ?_, fun hk0 => ?_, minOrZero_of_flatten_eq_nil Prod.snd fun q _ => ?_⟩
  · rintro rfl; rfl
  · have hne : heads.take k ≠ [] := List.ne_nil_of_length_pos (by rw [List.length_take]; omega)
    obtain ⟨hmem, hle⟩ := minOrZero_spec
      (show (heads.take k).map Prod.snd ≠ [] from mt List.map_eq_nil_iff.mp hne)
    obtain ⟨q, hq, hq2⟩ := List.mem_map.mp hmem
    exact ⟨⟨q, hq, hq2.symm⟩, fun q hq => hle _ (List.mem_map_of_mem _ hq)⟩
  · obtain ⟨s, hs, hne⟩ := hv _ (List.get_mem _ _ _)
    rw [hs]
    exact hne

theorem finishTokens_spec_plate :
    let py : Builtins := ⟨fun _ => none, fun _ => none, fun _ => []⟩
    let vocab : List JsonVal := [.str (.ofString "0"), .str (.ofString "1"), .str padToken]
    let heads : List (Fin 3 × ℚ) := [(0, 9 / 10), (2, 1 / 2), (1, 3 / 4), (2, 1 / 3), (2, 2 / 3)]
    (∀ v ∈ vocab, ∃ s, v = .str s ∧ s ≠ []) ∧
    ∃ k ≤ heads.length,
      (∀ q ∈ heads.drop k, py.str (vocab.get q.1) = padToken) ∧
      (∀ q ∈ (heads.take k).getLast?, py.str (vocab.get q.1) ≠ padToken) ∧
      popPads padToken (heads.map fun q => py.str (vocab.get q.1)) (heads.map Prod.snd) =
        .ok ((heads.take k).map fun q => py.str (vocab.get q.1), (heads.take k).map Prod.snd) ∧
      ∃ conf, finishTokens padToken (heads.map fun q => py.str (vocab.get q.1)) (heads.map Prod.snd) =
          .ok (((heads.take k).map fun q => py.str (vocab.get q.1)).flatten, conf) ∧
        (k = 0 → conf = 0) ∧
        (0 < k → (∃ q ∈ heads.take k, conf = q.2) ∧ ∀ q ∈ heads.take k, conf ≤ q.2) ∧
        (((heads.take k).map fun q => py.str (vocab.get q.1)).flatten = [] → conf = 0) := by
  intro py vocab heads
  have hv : ∀ v ∈ vocab, ∃ s, v = .str s ∧ s ≠ [] := by
    simp only [vocab, List.forall_mem_cons, List.not_mem_nil, false_implies, implies_true, and_true]
    exact ⟨⟨_, rfl, List.cons_ne_nil _ _⟩, ⟨_, rfl, List.cons_ne_nil _ _⟩, ⟨_, rfl, List.cons_ne_nil _ _⟩⟩
  exact ⟨hv, finishTokens_spec py padToken hv heads⟩

theorem pickToken_mem {py : Builtins} {exp : K → K} {vocab : List JsonVal} {vocabSize : Nat} {logits : Array1 K}
    {r : PyStr × K} (h : pickToken py exp vocab vocabSize logits = .ok r) : ∃ w ∈ vocab, r.1 = py.str w := by
  unfold pickToken at h
  split_ifs at h
  dsimp only at h
  split at h
  · cases h
  · rename_i tok htok
    split_ifs at h
    cases h
    exact ⟨tok, List.getElem?_mem htok, rfl⟩

theorem predictHead_mem {py : Builtins} {exp : K → K} {model : TrainedModel K} {vocab : List JsonVal}
    {h : Array1 K} {pos : Fin model.w2.d0} {r : PyStr × K} (hr : predictHead py exp model vocab h pos = .ok r) :
    ∃ w ∈ vocab, r.1 = py.str w := by
  simp only [predictHead, except_bind_eq_ok] at hr
  obtain ⟨_, _, _, _, _, _, hpick⟩ := hr
  exact pickToken_mem hpick

theorem predictText_conf_of_text_nil (py : Builtins) (exp : K → K) (model : TrainedModel K) (x : Array1 K)
    (mean std : K) {vocab : List JsonVal} (hv : model.config.get "vocab" = .list vocab)
    (hs : ∀ v ∈ vocab, ∃ s, v = .str s ∧ s ≠ []) {conf : K} (h : predictText py exp model x mean std = .ok ([], conf)) :
    conf = 0 := by
  rw [predictText, hv] at h
  rcases vocab with _ | ⟨v, vs⟩
  · cases h
  simp only [except_bind_eq_ok, except_pure_eq_ok] at h
  obtain ⟨_, _, _, _, heads, hheads, hfin⟩ := h
  simp only [finishText, Prod.mk.injEq] at hfin
  rw [← hfin.2]
  refine minOrZero_of_flatten_eq_nil Prod.snd (fun q hq => ?_) hfin.1
  obtain ⟨pos, -, hpos⟩ := mem_of_mapM_ok hheads q ((List.rdropWhile_prefix _ _).subset hq)
  obtain ⟨w, hw, hq1⟩ := predictHead_mem hpos
  obtain ⟨s, rfl, hne⟩ := hs w hw
  rwa [hq1]


theorem pickToken_prob {py : Builtins} {exp : K → K} {vocab : List JsonVal} {vocabSize : Nat} {logits : Array1 K}
    {r : PyStr × K} (h : pickToken py exp vocab vocabSize logits = .ok r) : ∃ i, r.2 = softmax exp logits.get i := by
  unfold pickToken at h
  split_ifs at h
  dsimp only at h
  split at h
  · cases h
  · split_ifs at h
    cases h
    exact ⟨_, rfl⟩

theorem predictHead_prob {py : Builtins} {exp : K → K} {model : TrainedModel K} {vocab : List JsonVal}
    {h : Array1 K} {pos : Fin model.w2.d0} {r : PyStr × K} (hr : predictHead py exp model vocab h pos = .ok r) :
    ∃ (n : Nat) (z : Fin n → K) (i : Fin n), r.2 = softmax exp z i := by
  simp only [predictHead, except_bind_eq_ok] at hr
  obtain ⟨_, _, _, _, _, _, hpick⟩ := hr
  obtain ⟨i, hi⟩ := pickToken_prob hpick
  exact ⟨_, _, i, hi⟩

/-- With a positive `exp`, the confidence `_predict_text` returns is in `[0, 1]`, and positive
    when the text is not empty: it is the least of the kept heads' probabilities. -/
theorem predictText_conf_mem (py : Builtins) (exp : K → K) (hexp : ∀ x, 0 < exp x) (model : TrainedModel K)
    (x : Array1 K) (mean std : K) {text : PyStr} {conf : K} (h : predictText py exp model x mean std = .ok (text, conf)) :
    0 ≤ conf ∧ conf ≤ 1 ∧ (text ≠ [] → 0 < conf) := by
  unfold predictText at h
  split at h
  · simp only [except_bind_eq_ok, except_pure_eq_ok] at h
    obtain ⟨_, _, _, _, heads, hheads, hfin⟩ := h
    simp only [finishText, Prod.mk.injEq] at hfin
    obtain ⟨rfl, rfl⟩ := hfin
    have hprob : ∀ q ∈ heads.rdropWhile (fun p => p.1 == configPadToken py model.config), 0 < q.2 ∧ q.2 ≤ 1 := by
      intro q hq
      obtain ⟨pos, -, hpos⟩ := mem_of_mapM_ok hheads q ((List.rdropWhile_prefix _ _).subset hq)
      obtain ⟨_, z, i, hi⟩ := predictHead_prob hpos
      rw [hi]
      exact ⟨softmax_pos exp hexp z i, softmax_le_one exp hexp z i⟩
    cases hk : heads.rdropWhile (fun p => p.1 == configPadToken py model.config) with
    | nil => simp [minOrZero]
    | cons q qs =>
      rw [hk] at hprob
      obtain ⟨hmem, -⟩ := minOrZero_spec (List.cons_ne_nil q.2 (qs.map Prod.snd))
      obtain ⟨c, hc, hceq⟩ := List.mem_map.mp (show _ ∈ (q :: qs).map Prod.snd from hmem)
      rw [List.map_cons, ← hceq]
      exact ⟨(hprob c hc).1.le, (hprob c hc).2, fun _ => (hprob c hc).1⟩
  · cases h

/-- The confidence `_predict_text` returns, over a vocabulary of non-empty strings and with a
    positive `exp`: a number in `[0, 1]` that is `0.0` exactly when the text is empty. -/
theorem predictText_conf_spec (py : Builtins) (exp : K → K) (hexp : ∀ x, 0 < exp x) (model : TrainedModel K)
    (x : Array1 K) (mean std : K) {vocab : List JsonVal} (hv : model.config.get "vocab" = .list vocab)
    (hs : ∀ v ∈ vocab, ∃ s, v = .str s ∧ s ≠ []) {text : PyStr} {conf : K}
    (h : predictText py exp model x mean std = .ok (text, conf)) :
    0 ≤ conf ∧ conf ≤ 1 ∧ (conf = 0 ↔ text = []) := by
  obtain ⟨h0, h1, hpos⟩ := predictText_conf_mem py exp hexp model x mean std h
  refine ⟨h0, h1, fun hc => by_contra fun ht => (hpos ht).ne' hc, fun ht => ?_⟩
  subst ht
  exact predictText_conf_of_text_nil py exp model x mean std hv hs h

end

theorem predictText_conf_spec_tiny :
    let py : Builtins := ⟨fun _ => none, fun _ => none, fun _ => []⟩
    let config : Dict := [(.ofString "vocab", .list [.str (.ofString "a")])]
    let θ : Params ℝ 1 1 1 [PyStr.ofString "a"].length := ⟨0, 0, 0, 0⟩
    let out := finishText (configPadToken py config)
      (engineHeads Real.exp [.ofString "a"] (by decide) θ fun d => ((0 : Fin 1 → ℝ) d - 0) / stdFloor 1)
    ((∀ x, 0 < Real.exp x) ∧ (θ.toModel config).config.get "vocab" = .list [.str (.ofString "a")] ∧
      (∀ v ∈ [JsonVal.str (.ofString "a")], ∃ s, v = .str s ∧ s ≠ []) ∧
      predictText py Real.exp (θ.toModel config) ⟨1, 0⟩ 0 1 = .ok (out.1, out.2)) ∧
      0 ≤ out.2 ∧ out.2 ≤ 1 ∧ (out.2 = 0 ↔ out.1 = []) := by
  intro py config θ out
  have hv : (θ.toModel config).config.get "vocab" = .list [.str (.ofString "a")] := rfl
  have hs : ∀ v ∈ [JsonVal.str (.ofString "a")], ∃ s, v = .str s ∧ s ≠ [] := by
    simp only [List.forall_mem_cons, List.not_mem_nil, false_implies, implies_true, and_true]
    exact ⟨_, rfl, List.cons_ne_nil _ _⟩
  have h : predictText py Real.exp (θ.toModel config) ⟨1, 0⟩ 0 1 = .ok (out.1, out.2) :=
    predictText_engine py Real.exp config (by decide) θ rfl 0 0 1
  exact ⟨⟨Real.exp_pos, hv, hs, h⟩, predictText_conf_spec py Real.exp Real.exp_pos _ _ 0 1 hv hs h⟩

end PlateOcr
