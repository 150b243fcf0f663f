import Mathlib

/-! A list cut into consecutive pieces of one size, the last one possibly shorter. A size of zero
does not cut. -/
namespace RotatorProxy.Library

variable {α : Type*}

/-- Every piece takes at least one element, so the length is enough fuel. -/
def chunksFrom (size : ℕ) : ℕ → List α → List (List α)
  | 0,_ => []
  | fuel+1,l =>
    if l.length=0 then []
    else if size=0 ∨ l.length ≤ size then [l]
    else l.take size::chunksFrom size fuel (l.drop size)

def chunks (size : ℕ) (l : List α) : List (List α) := chunksFrom size l.length l

@[simp] theorem chunks_nil (size : ℕ) : chunks size ([] : List α) = [] := rfl

/-- A list that is not cut is one piece. -/
theorem chunks_whole {size : ℕ} {l : List α} (hl : l ≠ []) (hsize : size=0 ∨ l.length ≤ size) :
    chunks size l=[l] := by
  cases l with
  | nil => exact absurd rfl hl
  | cons a l =>
    simp only [chunks,List.length_cons,chunksFrom]
    rw [if_neg (by omega)]
    exact if_pos hsize

/-- A longer list is cut behind its first piece. -/
theorem chunks_cut {size : ℕ} {l : List α} (hsize : 0 < size) (hcut : size < l.length) :
    ∃ fuel, l.length=fuel+1 ∧ chunks size l=l.take size::chunksFrom size fuel (l.drop size) := by
  refine ⟨l.length-1,by omega,?_⟩
  rw [chunks,show l.length=(l.length-1)+1 by omega,chunksFrom,if_neg (by omega),if_neg (by omega)]
  rfl

lemma chunksFrom_flatten (size fuel : ℕ) (l : List α) (hfuel : l.length ≤ fuel) :
    (chunksFrom size fuel l).flatten=l := by
  induction fuel generalizing l with
  | zero => exact (List.length_eq_zero_iff.mp (by omega)).symm
  | succ fuel ih =>
    rw [chunksFrom]
    split_ifs with hzero hsize
    · exact (List.length_eq_zero_iff.mp hzero).symm
    · simp
    · rw [List.flatten_cons,ih (l.drop size) (by rw [List.length_drop]; omega),List.take_append_drop]

theorem chunks_flatten (size : ℕ) (l : List α) : (chunks size l).flatten=l :=
  chunksFrom_flatten size l.length l (Nat.le_refl _)

/-- The pieces are no longer than the list. -/
theorem chunks_length_le {size : ℕ} {l piece : List α} (h : piece ∈ chunks size l) :
    piece.length ≤ l.length := by
  have hsub := List.sublist_flatten_of_mem h
  rw [chunks_flatten] at hsub
  exact hsub.length_le

/-! Pieces that begin with a header of fixed length -/

/-- The elements behind the headers; a piece that is no longer than a header counts for nothing. -/
def payloadTotal (header : ℕ) (pieces : List (List α)) : ℕ :=
  (pieces.map (fun piece => piece.length-header)).sum

lemma payloadTotal_chunksFrom (header size fuel : ℕ) (l : List α) :
    payloadTotal header (chunksFrom size fuel l) ≤ l.length-header := by
  induction fuel generalizing l with
  | zero => simp [chunksFrom,payloadTotal]
  | succ fuel ih =>
    rw [chunksFrom]
    split_ifs with hzero hsize
    · simp [payloadTotal]
    · simp [payloadTotal]
    · have htail := ih (l.drop size)
      rw [List.length_drop] at htail
      simp only [payloadTotal,List.map_cons,List.sum_cons,List.length_take] at htail ⊢
      omega

theorem payloadTotal_chunks (header size : ℕ) (l : List α) :
    payloadTotal header (chunks size l) ≤ l.length-header :=
  payloadTotal_chunksFrom header size l.length l

/-- Every cut costs a header. -/
theorem payloadTotal_cut {header size : ℕ} {l : List α} (hheader : 0 < header) (hlong : header < l.length)
    (hsize : 0 < size) (hcut : size < l.length) :
    payloadTotal header (chunks size l) < l.length-header := by
  obtain ⟨fuel,_,hpieces⟩ := chunks_cut hsize hcut
  rw [hpieces]
  have htail := payloadTotal_chunksFrom header size fuel (l.drop size)
  rw [List.length_drop] at htail
  simp only [payloadTotal,List.map_cons,List.sum_cons,List.length_take] at htail ⊢
  omega

end RotatorProxy.Library
