import Mathlib.Data.List.Perm.Basic

/-!
# A ledger of acquired resources

A ledger lists the resources that are held.  Releasing one that is not held
marks the ledger as misused, so a settled ledger stands for code that has
released everything it acquired exactly once.
-/

namespace SpeechModules

/-- The resources that are held, and whether one was released that was not. -/
structure Ledger (ρ : Type*) where
  held : List ρ
  misused : Bool

namespace Ledger

variable {ρ : Type*}

def empty : Ledger ρ :=
  ⟨[], false⟩

def acquire (resource : ρ) (ledger : Ledger ρ) : Ledger ρ :=
  { ledger with held := resource :: ledger.held }

/-- Everything acquired has been released exactly once. -/
def Settled (ledger : Ledger ρ) : Prop :=
  ledger.held = [] ∧ ledger.misused = false

theorem settled_empty : (empty : Ledger ρ).Settled :=
  ⟨rfl, rfl⟩

theorem not_settled_of_mem {ledger : Ledger ρ} {resource : ρ}
    (member : resource ∈ ledger.held) : ¬ ledger.Settled := by
  rintro ⟨nothing, -⟩
  rw [nothing] at member
  cases member

variable [DecidableEq ρ]

def release (resource : ρ) (ledger : Ledger ρ) : Ledger ρ :=
  if resource ∈ ledger.held then
    { ledger with held := ledger.held.erase resource }
  else { ledger with misused := true }

/-- Release one resource after the other. -/
def releaseAll : List ρ → Ledger ρ → Ledger ρ
  | [], ledger => ledger
  | resource :: resources, ledger =>
      releaseAll resources (ledger.release resource)

/-- Releasing exactly what is held, in any order, settles the ledger. -/
theorem releaseAll_settled {resources : List ρ} {ledger : Ledger ρ}
    (same : ledger.held.Perm resources) (clean : ledger.misused = false) :
    (releaseAll resources ledger).Settled := by
  induction resources generalizing ledger with
  | nil => exact ⟨same.eq_nil, clean⟩
  | cons resource resources ih =>
      have member : resource ∈ ledger.held := same.mem_iff.mpr (by simp)
      apply ih
      · rw [release, if_pos member]
        have erased := same.erase resource
        rwa [List.erase_cons_head] at erased
      · rw [release, if_pos member]
        exact clean

/-- A resource that is not among those released stays held. -/
theorem mem_releaseAll {resources : List ρ} {ledger : Ledger ρ}
    {resource : ρ} (member : resource ∈ ledger.held)
    (forgotten : resource ∉ resources) :
    resource ∈ (releaseAll resources ledger).held := by
  induction resources generalizing ledger with
  | nil => exact member
  | cons other resources ih =>
      rw [List.mem_cons, not_or] at forgotten
      apply ih _ forgotten.2
      unfold release
      split
      · exact (List.mem_erase_of_ne forgotten.1).mpr member
      · exact member

end Ledger

end SpeechModules
