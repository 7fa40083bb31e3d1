import Mathlib.Data.List.Forall2
import Evdevxx.Logic.Memory
import Evdevxx.Logic.Precondition
import Evdevxx.Logic.Run

/-!
# Audit — are the failures of calls reported by exceptions

The state keeps a log of the calls that were made, newest first, and some calls have failed.  A
program accounts for its calls if it returns only if none of them has failed, and throws only if
exactly one has, and the exception reports it; or the exception is the program's own, and no call has
failed.  After a doubtful call nothing is claimed.

* `Audit.Accounts`, `Audit.Clears` — the contracts, with the rules for putting programs together;
* `Audit.run_reported` — along a run, the failures and the exceptions correspond one to one.
-/

namespace Evdevxx

universe u

/-- A log of calls, and how exceptions report those that have failed. -/
structure Audit (ε ω γ : Type u) where
  log : ω → List γ
  failed : γ → Bool
  reportedBy : γ → ε → Prop
  own : ε → Bool
  doubtful : γ → Prop

namespace Audit

variable {ε ω γ α β ι τ : Type u} (A : Audit ε ω γ)

/-- From `w` to `w'` calls were made, and none has failed. -/
def Clean (w w' : ω) : Prop :=
  ∃ new, A.log w' = new ++ A.log w ∧ new.filter A.failed = []

/-- The exception `e` is what there is to say about the calls from `w` to `w'`. -/
def Blamed (w : ω) (e : ε) (w' : ω) : Prop :=
  ∃ new, A.log w' = new ++ A.log w ∧
    (A.own e = true ∧ new.filter A.failed = [] ∨
      A.own e = false ∧ (∃ c, new.filter A.failed = [c] ∧ A.reportedBy c e) ∨
        ∃ c ∈ new, A.doubtful c)

/-- However `p` is called, it accounts for its calls. -/
def Accounts (p : Prog ε ω α) : Prop :=
  ∀ w, p.wp (fun _ w' => A.Clean w w') (A.Blamed w) w

/-- No call that `p` makes fails, and `p` does not throw. -/
def Clears (p : Prog ε ω α) : Prop :=
  ∀ w, p.wp (fun _ w' => A.Clean w w') (fun _ _ => False) w

/-- If `p` ends, it accounts for its calls; it may reach `std::terminate` instead. -/
structure Honest (p : Prog ε ω α) : Prop where
  returned : ∀ {w a w'}, p w = .returned a w' → A.Clean w w'
  threw : ∀ {w e w'}, p w = .threw e w' → A.Blamed w e w'

section Rules

variable {A} {p : Prog ε ω α} {f : α → Prog ε ω β} {w w₁ w₂ : ω} {e : ε} {c : γ}

theorem Clean.of_log (h : A.log w₁ = A.log w) : A.Clean w w₁ :=
  ⟨[], h, rfl⟩

theorem Clean.refl (w : ω) : A.Clean w w :=
  Clean.of_log rfl

theorem Clean.trans (h : A.Clean w w₁) (h' : A.Clean w₁ w₂) : A.Clean w w₂ := by
  rcases h with ⟨new, hlog, hnone⟩
  rcases h' with ⟨new', hlog', hnone'⟩
  exact ⟨new' ++ new, by rw [hlog', hlog, List.append_assoc], by rw [List.filter_append, hnone',
    hnone, List.append_nil]⟩

/-- A call that has not failed. -/
theorem Clean.call (hlog : A.log w₁ = c :: A.log w) (hok : A.failed c = false) : A.Clean w w₁ :=
  ⟨[c], hlog, by simp [hok]⟩

/-- Clean calls before the last one do not matter. -/
theorem Blamed.after (h : A.Clean w w₁) (h' : A.Blamed w₁ e w₂) : A.Blamed w e w₂ := by
  rcases h with ⟨new, hlog, hnone⟩
  rcases h' with ⟨new', hlog', hcases⟩
  have hfilter : (new' ++ new).filter A.failed = new'.filter A.failed := by
    rw [List.filter_append, hnone, List.append_nil]
  refine ⟨new' ++ new, by rw [hlog', hlog, List.append_assoc], ?_⟩
  rw [hfilter]
  rcases hcases with hown | hfail | ⟨c, hc, hdoubt⟩
  · exact Or.inl hown
  · exact Or.inr (Or.inl hfail)
  · exact Or.inr (Or.inr ⟨c, List.mem_append_left _ hc, hdoubt⟩)

/-- Clean calls behind the failed one do not matter. -/
theorem Blamed.before (h : A.Blamed w e w₁) (h' : A.Clean w₁ w₂) : A.Blamed w e w₂ := by
  rcases h with ⟨new, hlog, hcases⟩
  rcases h' with ⟨new', hlog', hnone⟩
  have hfilter : (new' ++ new).filter A.failed = new.filter A.failed := by
    rw [List.filter_append, hnone, List.nil_append]
  refine ⟨new' ++ new, by rw [hlog', hlog, List.append_assoc], ?_⟩
  rw [hfilter]
  rcases hcases with hown | hfail | ⟨c, hc, hdoubt⟩
  · exact Or.inl hown
  · exact Or.inr (Or.inl hfail)
  · exact Or.inr (Or.inr ⟨c, List.mem_append_right _ hc, hdoubt⟩)

/-- A call that has failed, and the exception that reports it. -/
theorem Blamed.call (hlog : A.log w₁ = c :: A.log w) (hfailed : A.failed c = true)
    (hown : A.own e = false) (hreported : A.reportedBy c e) : A.Blamed w e w₁ :=
  ⟨[c], hlog, Or.inr (Or.inl ⟨hown, c, by simp [hfailed], hreported⟩)⟩

theorem Blamed.doubt (hlog : A.log w₁ = c :: A.log w) (hdoubt : A.doubtful c) : A.Blamed w e w₁ :=
  ⟨[c], hlog, Or.inr (Or.inr ⟨c, List.mem_singleton_self c, hdoubt⟩)⟩

theorem Blamed.of_own (hown : A.own e = true) (w : ω) : A.Blamed w e w :=
  ⟨[], rfl, Or.inl ⟨hown, rfl⟩⟩

theorem Clears.accounts (hp : A.Clears p) : A.Accounts p := fun w =>
  Prog.wp_mono (fun _ _ h => h) (fun _ _ h => h.elim) (hp w)

theorem clears_pure (a : α) : A.Clears (pure a : Prog ε ω α) := fun w =>
  Clean.refl w

theorem accounts_own (hown : A.own e = true) : A.Accounts (Prog.throw e : Prog ε ω α) := fun w =>
  Blamed.of_own hown w

/-- What leaves the log as it is. -/
theorem clears_of_returned {a : ω → α} {g : ω → ω} (hp : ∀ w, p w = .returned (a w) (g w))
    (hlog : ∀ w, A.log (g w) = A.log w) : A.Clears p := by
  intro w
  unfold Prog.wp
  rw [hp]
  exact Clean.of_log (hlog w)

theorem Clears.bind (hp : A.Clears p) (hf : ∀ a, A.Clears (f a)) : A.Clears (p >>= f) := by
  intro w
  refine Prog.wp_bind.2 (Prog.wp_mono (fun a w₁ h => ?_) (fun _ _ h => h) (hp w))
  exact Prog.wp_mono (fun _ _ h' => h.trans h') (fun _ _ h' => h') (hf a w₁)

theorem Accounts.bind (hp : A.Accounts p) (hf : ∀ a, A.Accounts (f a)) : A.Accounts (p >>= f) := by
  intro w
  refine Prog.wp_bind.2 (Prog.wp_mono (fun a w₁ h => ?_) (fun _ _ h => h) (hp w))
  exact Prog.wp_mono (fun _ _ h' => h.trans h') (fun _ _ h' => h'.after h) (hf a w₁)

/-- After a call that has not failed, a program that accounts for its calls. -/
theorem Accounts.behind (hp : A.Accounts p) (hlog : A.log w₁ = c :: A.log w)
    (hok : A.failed c = false) : p.wp (fun _ w' => A.Clean w w') (A.Blamed w) w₁ :=
  Prog.wp_mono (fun _ _ h => (Clean.call hlog hok).trans h)
    (fun _ _ h => h.after (Clean.call hlog hok)) (hp w₁)

/-- A call, and what is done with its answer; the entry of the log may tell of the state after it. -/
theorem accounts_call {call : Prog ε ω α} (mk : α → ω → γ)
    (hcall : ∀ w, ∃ a w', call w = .returned a w' ∧ A.log w' = mk a w' :: A.log w)
    (hf : ∀ a w w', A.log w' = mk a w' :: A.log w →
      (f a).wp (fun _ w' => A.Clean w w') (A.Blamed w) w') : A.Accounts (call >>= f) := by
  intro w
  rcases hcall w with ⟨a, w', hret, hlog⟩
  refine Prog.wp_bind.2 ?_
  unfold Prog.wp
  rw [hret]
  exact hf a w w' hlog

/-- The boundary of a `noexcept` function that does not throw. -/
theorem Clears.noexcept (hp : A.Clears p) : A.Clears (Prog.noexcept p) := fun w =>
  Prog.wp_noexcept.2 (hp w)

theorem Clears.ite {c : Prop} [Decidable c] {q : Prog ε ω α} (hp : A.Clears p) (hq : A.Clears q) :
    A.Clears (if c then p else q) := by
  split
  · exact hp
  · exact hq

theorem Accounts.honest (hp : A.Accounts p) : A.Honest p where
  returned := by
    intro w a w' hret
    have hend := hp w
    unfold Prog.wp at hend
    rw [hret] at hend
    exact hend
  threw := by
    intro w e w' hthrew
    have hend := hp w
    unfold Prog.wp at hend
    rw [hthrew] at hend
    exact hend

/-- The boundary of a `noexcept` function, whether or not the function throws. -/
theorem Accounts.honest_noexcept (hp : A.Accounts p) : A.Honest (Prog.noexcept p) where
  returned := by
    intro w a w' hret
    unfold Prog.noexcept at hret
    cases hbody : p w with
    | threw e w₁ =>
        rw [hbody] at hret
        cases hret
    | _ =>
        rw [hbody] at hret
        exact hp.honest.returned (hbody.trans hret)
  threw := by
    intro w e w' hthrew
    unfold Prog.noexcept at hthrew
    cases hbody : p w with
    | _ =>
        rw [hbody] at hthrew
        cases hthrew

/-- A constructor accounts for the calls of its body. -/
theorem Accounts.construct {M : Memory ω ι τ} (hlog : ∀ w i x, A.log (M.set w i x) = A.log w)
    {body : Prog ε ω PUnit} (hbody : A.Accounts body) (i : ι) (x : τ) :
    A.Accounts (M.construct i x body) := by
  intro w
  cases hget : M.get w i with
  | some y =>
      unfold Prog.wp
      rw [Memory.construct_apply_occupied hget]
      trivial
  | none =>
      have hborn : A.Clean w (M.set w i (some x)) := Clean.of_log (hlog w i (some x))
      have hend := hbody (M.set w i (some x))
      unfold Prog.wp at hend ⊢
      rw [Memory.construct_apply hget]
      unfold Prog.catchRethrow
      cases hb : body (M.set w i (some x)) with
      | returned u w₁ =>
          rw [hb] at hend
          exact hborn.trans hend
      | threw e w₁ =>
          rw [hb] at hend
          exact (hend.after hborn).before (Clean.of_log (hlog w₁ i none))
      | terminated =>
          rw [hb] at hend
          exact hend
      | undefined => trivial
      | exhausted => trivial

end Rules

/-! ## Runs -/

/-- One action: the exception it ends with, if it does. -/
def Step {κ : Type u} (exec : κ → Prog ε ω PUnit) (w : ω) (l : κ × Option ε) (w' : ω) : Prop :=
  (exec l.1 w).EndsBy l.2 w'

variable {A} {κ : Type u} {exec : κ → Prog ε ω PUnit} {w₀ w w' : ω} {l : κ × Option ε}
variable {labels : List (κ × Option ε)}

/-- What one action adds to the failures and to the exceptions. -/
theorem step_reported (honest : ∀ a, A.Honest (exec a)) (hstep : Step exec w l w')
    (hsure : ∀ c ∈ A.log w', ¬ A.doubtful c) :
    ∃ new, A.log w' = new ++ A.log w ∧
      List.Forall₂ A.reportedBy (new.reverse.filter A.failed)
        (l.2.toList.filter fun e => !A.own e) := by
  rcases l with ⟨a, r⟩
  cases r with
  | none =>
      rcases (honest a).returned hstep with ⟨new, hlog, hnone⟩
      exact ⟨new, hlog, by simp [List.filter_reverse, hnone]⟩
  | some e =>
      rcases (honest a).threw hstep with
        ⟨new, hlog, ⟨hown, hnone⟩ | ⟨hown, c, hone, hreported⟩ | ⟨c, hc, hdoubt⟩⟩
      · exact ⟨new, hlog, by simp [List.filter_reverse, hown, hnone]⟩
      · exact ⟨new, hlog, by simpa [List.filter_reverse, hown, hone] using hreported⟩
      · exact absurd hdoubt (hsure c (by rw [hlog]; exact List.mem_append_left _ hc))

/-- Along a run of honest actions, the calls that fail and the exceptions that are thrown correspond
one to one and come in the same order. -/
theorem run_reported (honest : ∀ a, A.Honest (exec a)) (hstart : A.log w₀ = [])
    (run : Run (Step exec) w₀ labels w) (hsure : ∀ c ∈ A.log w, ¬ A.doubtful c) :
    List.Forall₂ A.reportedBy ((A.log w).reverse.filter A.failed)
      ((labels.filterMap Prod.snd).filter fun e => !A.own e) := by
  induction run with
  | nil =>
      rw [hstart]
      exact List.Forall₂.nil
  | @snoc labels w w' l run hstep ih =>
      rcases step_reported honest hstep hsure with ⟨new, hlog, hnew⟩
      have hbefore := ih fun c hc => hsure c (by rw [hlog]; exact List.mem_append_right _ hc)
      have hlast : (labels ++ [l]).filterMap Prod.snd = labels.filterMap Prod.snd ++ l.2.toList := by
        rw [List.filterMap_append]
        cases hl : l.2 with
        | none => simp [hl]
        | some e => simp [hl]
      rw [hlast, List.filter_append, hlog, List.reverse_append, List.filter_append]
      exact List.rel_append hbefore hnew

end Audit

end Evdevxx
