import Mathlib.Data.List.Basic
import Mathlib.Logic.Function.Basic

/-! A file is replaced by writing another one and renaming it. The machine may stop between any two operations of the
disk; what it leaves is the old content or the new one, provided that the other file is another one. -/
namespace RotatorProxy.Library

/-- The content of each file that there is. -/
abbrev Disk (π β : Type*) := π → Option (List β)

inductive DiskOp (π β : Type*)
  | truncate (path : π)
  | append (path : π) (content : List β)
  | rename (source target : π)

variable {π β : Type*}

/-- The content may go to the disk in any pieces. -/
def replaceOps (scratch path : π) (pieces : List (List β)) : List (DiskOp π β) :=
  .truncate scratch::pieces.map (.append scratch)++[.rename scratch path]

/-- Where the replacement may be stopped. -/
lemma stopped_cases {scratch path : π} {pieces : List (List β)} {ops : List (DiskOp π β)}
    (h : ops <+: replaceOps scratch path pieces) :
    ops=[] ∨ (∃ done, done <+: pieces ∧ ops = .truncate scratch::done.map (.append scratch)) ∨
      ops=replaceOps scratch path pieces := by
  cases ops with
  | nil => exact .inl rfl
  | cons op ops =>
    obtain ⟨rfl,hrest⟩ := List.cons_prefix_cons.mp h
    obtain hall | hpart := List.prefix_concat_iff.mp hrest
    · exact .inr (.inr (congrArg _ hall))
    · obtain ⟨done,hdone,rfl⟩ := List.prefix_map_iff.mp hpart
      exact .inr (.inl ⟨done,hdone,rfl⟩)

variable [DecidableEq π]

namespace Disk

/-- A file that is renamed to itself stays. -/
def apply (disk : Disk π β) : DiskOp π β → Disk π β
  | .truncate path => Function.update disk path (some [])
  | .append path content => Function.update disk path ((disk path).map (·++content))
  | .rename source target =>
    if source=target then disk else Function.update (Function.update disk target (disk source)) source none

def run (disk : Disk π β) (ops : List (DiskOp π β)) : Disk π β := ops.foldl apply disk

variable (disk : Disk π β) {scratch path : π} {pieces : List (List β)}

lemma run_append (ops ops' : List (DiskOp π β)) : disk.run (ops++ops')=(disk.run ops).run ops' := List.foldl_append

lemma run_pieces {written : List β} (h : disk scratch=some written) (pieces : List (List β)) :
    disk.run (pieces.map (.append scratch))=Function.update disk scratch (some (written++pieces.flatten)) := by
  induction pieces generalizing disk written with
  | nil => simp [run,← h]
  | cons piece pieces ih =>
    have hfirst : (disk.apply (.append scratch piece)) scratch=some (written++piece) := by simp [apply,h]
    change (disk.apply (.append scratch piece)).run _=_
    rw [ih _ hfirst,List.flatten_cons,← List.append_assoc]
    exact Function.update_idem _ _ _

/-- Before it is renamed only the scratch file is touched, and it holds a part of the content. -/
lemma run_writes (pieces : List (List β)) : disk.run (.truncate scratch::pieces.map (.append scratch))=
    Function.update disk scratch (some pieces.flatten) := by
  change (disk.apply (.truncate scratch)).run _=_
  rw [run_pieces _ (show (disk.apply (.truncate scratch)) scratch=some [] by simp [apply])]
  exact Function.update_idem _ _ _

theorem replaced (hne : scratch ≠ path) (pieces : List (List β)) :
    (disk.run (replaceOps scratch path pieces)) path=some pieces.flatten := by
  rw [replaceOps,run_append,run_writes]
  simp [run,apply,hne,Function.update_of_ne hne.symm]

/-- The file has its old content as long as the new one is not complete. -/
theorem stopped (hne : scratch ≠ path) {ops : List (DiskOp π β)} (h : ops <+: replaceOps scratch path pieces) :
    (disk.run ops) path=disk path ∨ (disk.run ops) path=some pieces.flatten := by
  obtain rfl | ⟨done,_,rfl⟩ | rfl := stopped_cases h
  · exact .inl rfl
  · rw [run_writes,Function.update_of_ne hne.symm]
    exact .inl rfl
  · exact .inr (disk.replaced hne pieces)

end Disk
end RotatorProxy.Library
