import Evdevxx.Logic.Ledger

/-!
# Usage — is every resource used only while it is outstanding

A log of calls, newest first; a call may enter something in the ledger, and it may use a resource.

* `UsedLive` — every resource was outstanding when it was used;
* `outstanding_called` — what is outstanding stays so until a call releases it.
-/

namespace Evdevxx

namespace Ledger

universe u v

variable {γ : Type u} {ρ : Type v} {entry : γ → Option (Entry ρ)} {uses : γ → Option ρ}
variable {c : γ} {log before after : List γ} {r : ρ}

/-- Every call of the log that uses a resource was made while it was outstanding. -/
def UsedLive (entry : γ → Option (Entry ρ)) (uses : γ → Option ρ) : List γ → Prop
  | [] => True
  | c :: log =>
      (∀ r, uses c = some r → Outstanding (log.filterMap entry) r) ∧ UsedLive entry uses log

/-- What was outstanding before one of the calls. -/
theorem UsedLive.outstanding (h : UsedLive entry uses (after ++ c :: before))
    (hc : uses c = some r) : Outstanding (before.filterMap entry) r := by
  induction after with
  | nil => exact h.1 r hc
  | cons _ _ ih => exact ih h.2

/-- What is outstanding stays so until a call releases it. -/
theorem outstanding_called (hout : Outstanding (log.filterMap entry) r)
    (hc : entry c ≠ some (.released r)) : Outstanding ((c :: log).filterMap entry) r := by
  cases he : entry c with
  | none => rwa [List.filterMap_cons_none he]
  | some e =>
      rw [List.filterMap_cons_some he]
      cases e with
      | acquired r' => exact Or.inr hout
      | released r' =>
          refine ⟨fun heq => hc ?_, hout⟩
          rw [he, heq]

theorem acquired_called {e : Entry ρ} (h : e ∈ log.filterMap entry) (c : γ) :
    e ∈ (c :: log).filterMap entry := by
  rcases List.mem_filterMap.1 h with ⟨c', hc', he⟩
  exact List.mem_filterMap.2 ⟨c', List.mem_cons_of_mem _ hc', he⟩

end Ledger

end Evdevxx
