import AuthVerifier.Lib.Table

/-!
Jobs that run side by side over one shared state. A job is known by a number and is as far as its
phase says; the shared state keeps the jobs in progress.
-/

set_option autoImplicit false

namespace Concurrent
open Relational

structure Job (φ : Type) where
  pid : Nat
  phase : φ
  deriving DecidableEq

abbrev Jobs (φ : Type) := Table (Job φ) Nat Job.pid

namespace Jobs
variable {φ : Type}

def setPhase (js : Jobs φ) (pid : Nat) (phase : φ) : Jobs φ :=
  js.updateWhere (fun j => j.pid == pid) (fun j => { j with phase := phase }) (fun _ => rfl)

def finish (js : Jobs φ) (pid : Nat) : Jobs φ := js.deleteWhere (fun j => j.pid == pid)

def start (js : Jobs φ) (pid : Nat) (phase : φ) : Jobs φ :=
  if h : pid ∈ js.keys then js else js.insert ⟨pid, phase⟩ h

section
variable {js : Jobs φ} {pid : Nat} {phase : φ} {j : Job φ}

theorem mem_setPhase : j ∈ js.setPhase pid phase ↔
    (j ∈ js ∧ j.pid ≠ pid) ∨ (j = ⟨pid, phase⟩ ∧ pid ∈ js.keys) := by
  refine (@Table.mem_updateWhere_key _ _ _ _ js pid (fun j => { j with phase := phase })
    (fun _ => rfl) j).trans (or_congr_right ?_)
  constructor
  · rintro ⟨y, hy, rfl, rfl⟩
    exact ⟨rfl, Table.key_mem_keys hy⟩
  · rintro ⟨rfl, hk⟩
    obtain ⟨y, hy, rfl⟩ := Table.mem_keys.mp hk
    exact ⟨y, hy, rfl, rfl⟩

theorem mem_finish : j ∈ js.finish pid ↔ j ∈ js ∧ j.pid ≠ pid := by
  simp [finish]

theorem mem_start (h : j ∈ js.start pid phase) : j ∈ js ∨ j = ⟨pid, phase⟩ := by
  unfold start at h
  split at h
  · exact .inl h
  · rename_i hk
    exact (Table.mem_insert (h := hk)).mp h

theorem mem_start_of_mem (h : j ∈ js) : j ∈ js.start pid phase := by
  unfold start
  split
  · exact h
  · exact Table.mem_insert.mpr (.inl h)

end
end Jobs
end Concurrent
