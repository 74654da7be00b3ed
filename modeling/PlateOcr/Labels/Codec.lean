/-
  PlateOcr.Labels.Codec — the label codec: `_build_vocab`, `_encode_labels`, and the token
  decoding `_predict_text` ends with (look each index up, drop the trailing run of the pad
  token, join).

  `_build_vocab` sorts the set of one-character strings of the labels (ordered as their code
  points) and appends `PAD_TOKEN`, which no one-character string equals. `_encode_labels`
  maps each token to `{t: i for i, t in enumerate(vocab)}[t]`, the last index holding it;
  a character outside the vocabulary takes the pad index, and a vocabulary without the pad
  raises `KeyError`.

  Proved:
  - `encodeLabels_decode`: for every vocabulary holding the pad, every `max_len` and every
    list of labels over it, encoding gives a `len(labels) × max_len` matrix of indices into
    the vocabulary, and decoding row `i` gives `labels[i][:max_len]`.
  - `buildVocab_spec`: `_build_vocab` is the labels' distinct characters in strictly
    increasing code-point order, then the pad exactly once; it depends only on the set of
    characters used.
-/

import PlateOcr.Python.Values
import Mathlib.Data.Finset.Sort
import Mathlib.Data.List.DropRight

namespace PlateOcr

def buildVocab (labels : List PyStr) : List PyStr :=
  let chars := (labels.flatten.toFinset.sort (· ≤ ·)).map fun c => [c]
  if padToken ∈ chars then chars else chars ++ [padToken]

/-- `{t: i for i, t in enumerate(vocab)}` read at `t`: a later index overwrites an earlier. -/
def tokToIdx (vocab : List PyStr) (t : PyStr) : Option (Fin vocab.length) :=
  (List.finRange vocab.length).foldl (fun acc i => if vocab.get i = t then some i else acc) none

/-- Row `label` of `_encode_labels`: `tok_to_idx.get(ch, pad_idx)` at each position of
    `label[:max_len]`, `pad_idx` after it. -/
def encodeRow (vocab : List PyStr) (padIdx : Fin vocab.length) (label : PyStr) (maxLen : Nat)
    (j : Fin maxLen) : Fin vocab.length :=
  match label[j.val]? with
  | some ch => (tokToIdx vocab [ch]).getD padIdx
  | none => padIdx

def encodeLabels (labels vocab : List PyStr) (maxLen : Nat) :
    Except PyError (Fin labels.length → Fin maxLen → Fin vocab.length) :=
  match tokToIdx vocab padToken with
  | none => .error .keyError
  | some padIdx => .ok fun i => encodeRow vocab padIdx (labels.get i) maxLen

/-- What `_predict_text` makes of its tokens: the trailing run of `pad` dropped, the rest
    joined. -/
def decodeTokens (pad : PyStr) (tokens : List PyStr) : PyStr := (tokens.rdropWhile (· == pad)).flatten

/-! ## The pad token -/

theorem padToken_length : padToken.length = 5 := rfl

theorem singleton_ne_padToken (c : CodePoint) : [c] ≠ padToken :=
  fun h => by simpa [padToken_length] using congrArg List.length h

/-! ## The vocabulary -/

/-- The pad is never among the one-character strings, so `_build_vocab` always appends it. -/
theorem buildVocab_eq (labels : List PyStr) :
    buildVocab labels = (labels.flatten.toFinset.sort (· ≤ ·)).map (fun c => [c]) ++ [padToken] :=
  if_neg fun h => by
    obtain ⟨c, -, hc⟩ := List.mem_map.mp h
    exact singleton_ne_padToken c hc

theorem mem_toFinset_flatten {labels : List PyStr} {c : CodePoint} :
    c ∈ labels.flatten.toFinset ↔ ∃ l ∈ labels, c ∈ l := by
  simp [List.mem_flatten]

/-- `_build_vocab` is the labels' distinct characters in strictly increasing code-point
    order, then the pad, exactly once; labels over the same characters give the same
    vocabulary, whatever their order, repetition or grouping. -/
theorem buildVocab_spec (labels : List PyStr) :
    (∃ cs : List CodePoint, cs.Sorted (· < ·) ∧ (∀ c, c ∈ cs ↔ ∃ l ∈ labels, c ∈ l) ∧
      buildVocab labels = cs.map (fun c => [c]) ++ [padToken]) ∧
    (buildVocab labels).count padToken = 1 ∧
    ∀ labels' : List PyStr, (∀ c, (∃ l ∈ labels', c ∈ l) ↔ ∃ l ∈ labels, c ∈ l) →
      buildVocab labels' = buildVocab labels := by
  refine ⟨⟨_, Finset.sort_sorted_lt _, fun c => ?_, buildVocab_eq labels⟩, ?_, fun labels' h => ?_⟩
  · rw [Finset.mem_sort, mem_toFinset_flatten]
  · have : padToken ∉ (labels.flatten.toFinset.sort (· ≤ ·)).map (fun c => [c]) := fun h => by
      obtain ⟨c, -, hc⟩ := List.mem_map.mp h
      exact singleton_ne_padToken c hc
    rw [buildVocab_eq, List.count_append, List.count_eq_zero_of_not_mem this]
    simp
  · have : labels'.flatten.toFinset = labels.flatten.toFinset :=
      Finset.ext fun c => by rw [mem_toFinset_flatten, mem_toFinset_flatten, h]
    rw [buildVocab_eq, buildVocab_eq, this]

/-! ## `tok_to_idx` -/

theorem tokToIdx_foldl_get {vocab : List PyStr} {t : PyStr} (l : List (Fin vocab.length))
    {acc : Option (Fin vocab.length)} (hacc : ∀ i, acc = some i → vocab.get i = t) :
    ∀ i, l.foldl (fun acc i => if vocab.get i = t then some i else acc) acc = some i → vocab.get i = t := by
  induction l generalizing acc with
  | nil => exact hacc
  | cons j l ih =>
    refine ih fun i hi => ?_
    dsimp only at hi
    split_ifs at hi with hj
    · cases hi; exact hj
    · exact hacc i hi

theorem tokToIdx_foldl_isSome {vocab : List PyStr} {t : PyStr} (l : List (Fin vocab.length))
    (acc : Option (Fin vocab.length)) (h : acc.isSome ∨ ∃ j ∈ l, vocab.get j = t) :
    (l.foldl (fun acc i => if vocab.get i = t then some i else acc) acc).isSome := by
  induction l generalizing acc with
  | nil => simpa using h
  | cons j l ih =>
    refine ih _ ?_
    dsimp only
    split_ifs with hj
    · exact .inl rfl
    · rcases h with h | ⟨k, hk, hkt⟩
      · exact .inl h
      · rcases List.mem_cons.mp hk with rfl | hk
        exacts [absurd hkt hj, .inr ⟨k, hk, hkt⟩]

theorem tokToIdx_get {vocab : List PyStr} {t : PyStr} {i : Fin vocab.length} (h : tokToIdx vocab t = some i) :
    vocab.get i = t :=
  tokToIdx_foldl_get _ (by simp) i h

theorem tokToIdx_of_mem {vocab : List PyStr} {t : PyStr} (h : t ∈ vocab) : ∃ i, tokToIdx vocab t = some i := by
  obtain ⟨j, rfl⟩ := List.get_of_mem h
  exact Option.isSome_iff_exists.mp (tokToIdx_foldl_isSome _ _ (.inr ⟨j, List.mem_finRange j, rfl⟩))

theorem padToken_mem_buildVocab (labels : List PyStr) : padToken ∈ buildVocab labels := by
  rw [buildVocab_eq]
  exact List.mem_append_right _ (List.mem_singleton_self _)

/-- `_encode_labels` raises only on a vocabulary without the pad. -/
theorem encodeLabels_ok (labels : List PyStr) {vocab : List PyStr} (hpad : padToken ∈ vocab) (maxLen : Nat) :
    ∃ y, encodeLabels labels vocab maxLen = .ok y := by
  obtain ⟨p, hp⟩ := tokToIdx_of_mem hpad
  exact ⟨fun i => encodeRow vocab p (labels.get i) maxLen, by simp [encodeLabels, hp]⟩

/-! ## Encoding then decoding -/

/-- An encoded row, looked up in the vocabulary: the label's characters (cut at `max_len`),
    then pad tokens. -/
theorem encodeRow_tokens {vocab : List PyStr} {padIdx : Fin vocab.length} (hp : vocab.get padIdx = padToken)
    {label : PyStr} (hl : ∀ c ∈ label, [c] ∈ vocab) (maxLen : Nat) :
    List.ofFn (fun j => vocab.get (encodeRow vocab padIdx label maxLen j)) =
      (label.take maxLen).map (fun c => [c]) ++ List.replicate (maxLen - label.length) padToken := by
  apply List.ext_get (by
    simp only [List.length_ofFn, List.map_take, List.length_append, List.length_take, List.length_map,
      List.length_replicate]; omega)
  intro n h₁ h₂
  simp only [List.length_ofFn] at h₁
  simp only [List.get_eq_getElem, List.getElem_ofFn, encodeRow]
  by_cases hn : n < label.length
  · obtain ⟨i, hi⟩ := tokToIdx_of_mem (hl _ (List.getElem_mem hn))
    rw [List.getElem?_eq_getElem hn, List.getElem_append_left (by
      simp only [List.map_take, List.length_take, List.length_map, lt_inf_iff]; omega)]
    simpa only [hi, Option.getD_some, List.map_take, List.getElem_take, List.getElem_map,
      List.get_eq_getElem] using tokToIdx_get hi
  · rw [List.getElem?_eq_none (by omega), List.getElem_append_right (by
      simp only [List.map_take, List.length_take, List.length_map, inf_le_iff]; omega)]
    simpa only [List.map_take, List.length_take, List.length_map, List.getElem_replicate,
      List.get_eq_getElem] using hp

theorem rdropWhile_append_replicate (l : List PyStr) (a : PyStr) (k : Nat) :
    (l ++ List.replicate k a).rdropWhile (· == a) = l.rdropWhile (· == a) := by
  induction k with
  | zero => simp
  | succ k ih => rw [List.replicate_succ', ← List.append_assoc, List.rdropWhile_concat]; simpa using ih

theorem flatten_map_singleton {α : Type} (s : List α) : (s.map fun c => [c]).flatten = s := by
  induction s with
  | nil => rfl
  | cons c s ih => simp [ih]

theorem decodeTokens_chars (s : PyStr) (k : Nat) :
    decodeTokens padToken (s.map (fun c => [c]) ++ List.replicate k padToken) = s := by
  have hkeep : (s.map fun c => [c]).rdropWhile (· == padToken) = s.map fun c => [c] :=
    List.rdropWhile_eq_self_iff.mpr fun hl => by
      obtain ⟨c, -, hc⟩ := List.mem_map.mp (List.getLast_mem hl)
      simpa [← hc] using singleton_ne_padToken c
  rw [decodeTokens, rdropWhile_append_replicate, hkeep, flatten_map_singleton]

/-- Encoding a list of labels over a vocabulary that holds the pad, then decoding each row
    as `_predict_text` decodes tokens, gives back each label cut at `max_len`. -/
theorem encodeLabels_decode (vocab : List PyStr) (hpad : padToken ∈ vocab) (maxLen : Nat)
    (labels : List PyStr) (hl : ∀ l ∈ labels, ∀ c ∈ l, [c] ∈ vocab) :
    ∃ y, encodeLabels labels vocab maxLen = .ok y ∧
      ∀ i, decodeTokens padToken (List.ofFn fun j => vocab.get (y i j)) = (labels.get i).take maxLen := by
  obtain ⟨p, hp⟩ := tokToIdx_of_mem hpad
  refine ⟨fun i => encodeRow vocab p (labels.get i) maxLen, by simp [encodeLabels, hp], fun i => ?_⟩
  rw [encodeRow_tokens (tokToIdx_get hp) (hl _ (List.get_mem _ _ _))]
  exact decodeTokens_chars _ _

/-- The spec's scenario: vocabulary `['0', '1', '<pad>']`, `max_len = 4`, label `"01"`. -/
theorem encodeLabels_decode_plate :
    let vocab := [PyStr.ofString "0", PyStr.ofString "1", padToken]
    let labels := [PyStr.ofString "01"]
    (padToken ∈ vocab ∧ ∀ l ∈ labels, ∀ c ∈ l, [c] ∈ vocab) ∧
      ∃ y, encodeLabels labels vocab 4 = .ok y ∧
        ∀ i, decodeTokens padToken (List.ofFn fun j => vocab.get (y i j)) = (labels.get i).take 4 :=
  ⟨⟨by decide, by simp [PyStr.ofString]⟩, encodeLabels_decode _ (by decide) 4 _ (by simp [PyStr.ofString])⟩

end PlateOcr
