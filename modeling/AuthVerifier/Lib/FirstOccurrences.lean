import Mathlib.Data.List.Basic
import Mathlib.Data.List.Induction

/-! The distinct members of a list, in the order in which they first occur. -/

set_option autoImplicit false

namespace FirstOccurrences
variable {α : Type} [DecidableEq α]

/-- The members of `l` without repetition, each where it first occurs. -/
structure Of (l r : List α) : Prop where
  mem_iff : ∀ x, x ∈ r ↔ x ∈ l
  ordered : r.Pairwise (fun x y => l.idxOf x < l.idxOf y)

def insertNew (acc : List α) (x : α) : List α := if x ∈ acc then acc else acc ++ [x]

def firsts (l : List α) : List α := l.foldl insertNew []

theorem firsts_concat (l : List α) (x : α) : firsts (l ++ [x]) = insertNew (firsts l) x := by
  simp [firsts]

theorem Of.nodup {l r : List α} (h : Of l r) : r.Nodup :=
  h.ordered.imp fun hlt heq => absurd (congrArg l.idxOf heq) (Nat.ne_of_lt hlt)

theorem Of.concat_of_mem {l r : List α} {x : α} (h : Of l r) (hx : x ∈ l) : Of (l ++ [x]) r where
  mem_iff := fun y => by
    rw [h.mem_iff, List.mem_append, List.mem_singleton]
    exact ⟨.inl, fun hy => hy.elim id (fun he => he ▸ hx)⟩
  ordered := h.ordered.imp_of_mem fun {y z} hy hz hlt => by
    rwa [List.idxOf_append_of_mem ((h.mem_iff y).mp hy),
      List.idxOf_append_of_mem ((h.mem_iff z).mp hz)]

theorem Of.concat_new {l r : List α} {x : α} (h : Of l r) (hx : x ∉ l) :
    Of (l ++ [x]) (r ++ [x]) where
  mem_iff := fun y => by simp only [List.mem_append, h.mem_iff]
  ordered := by
    rw [List.pairwise_append]
    refine ⟨h.ordered.imp_of_mem fun {y z} hy hz hlt => ?_, List.pairwise_singleton _ _, ?_⟩
    · rwa [List.idxOf_append_of_mem ((h.mem_iff y).mp hy),
        List.idxOf_append_of_mem ((h.mem_iff z).mp hz)]
    · intro y hy z hz
      obtain rfl := List.mem_singleton.mp hz
      have hy' := (h.mem_iff y).mp hy
      rw [List.idxOf_append_of_mem hy', List.idxOf_append_of_notMem hx]
      have hlt := List.idxOf_lt_length_of_mem hy'
      omega

theorem of_firsts (l : List α) : Of l (firsts l) := by
  induction l using List.reverseRecOn with
  | nil => exact ⟨fun x => Iff.rfl, List.Pairwise.nil⟩
  | append_singleton l x ih =>
    rw [firsts_concat, insertNew]
    split
    · rename_i hx
      exact ih.concat_of_mem ((ih.mem_iff x).mp hx)
    · rename_i hx
      exact ih.concat_new (fun hmem => hx ((ih.mem_iff x).mpr hmem))

end FirstOccurrences
