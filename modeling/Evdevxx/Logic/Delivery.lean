import Evdevxx.Logic.Scope

/-!
# Delivery — a program that makes the calls of a plan, until one is refused

The calls are recorded with their answers, oldest first.  `Prog.Delivers` says that a program makes
the calls of a plan in their order, that it returns if all of them are accepted, and that it throws
behind the first one that is refused; the plan of a sequence is the concatenation of the plans.
-/

namespace Evdevxx

universe u

/-- A kind of call: what is asked for, whether the answer accepts it, and the exception for a call that
is refused. -/
structure Channel (ε γ κ : Type u) where
  asked : γ → κ
  accepted : γ → Prop
  refusal : γ → ε

namespace Channel

variable {ε γ κ : Type u} (C : Channel ε γ κ)

/-- The calls are those of the plan, and all of them were accepted. -/
structure Complete (plan : List κ) (calls : List γ) : Prop where
  asked : calls.map C.asked = plan
  accepted : ∀ c ∈ calls, C.accepted c

/-- The calls are the first ones of the plan; the last one, and no other, was refused, and `e` is the
exception for it. -/
structure Stopped (plan : List κ) (e : ε) (calls : List γ) : Prop where
  asked : calls.map C.asked <+: plan
  refused : ∃ before last, calls = before ++ [last] ∧ (∀ c ∈ before, C.accepted c) ∧
    ¬ C.accepted last ∧ e = C.refusal last

variable {C} {plan plan' : List κ} {calls calls' : List γ} {e : ε}

theorem Complete.append (h : C.Complete plan calls) (h' : C.Complete plan' calls') :
    C.Complete (plan ++ plan') (calls ++ calls') where
  asked := by rw [List.map_append, h.asked, h'.asked]
  accepted := by
    intro c hc
    rcases List.mem_append.1 hc with hc | hc
    · exact h.accepted c hc
    · exact h'.accepted c hc

/-- What stops a plan stops every plan that begins with it. -/
theorem Stopped.weaken (h : C.Stopped plan e calls) (plan' : List κ) :
    C.Stopped (plan ++ plan') e calls where
  asked := h.asked.trans (List.prefix_append plan plan')
  refused := h.refused

theorem Stopped.after (h : C.Complete plan calls) (h' : C.Stopped plan' e calls') :
    C.Stopped (plan ++ plan') e (calls ++ calls') where
  asked := by
    rw [List.map_append, h.asked]
    exact (List.prefix_append_right_inj plan).2 h'.asked
  refused := by
    rcases h'.refused with ⟨before, last, rfl, hbefore, hlast, he⟩
    refine ⟨calls ++ before, last, (List.append_assoc ..).symm, fun c hc => ?_, hlast, he⟩
    rcases List.mem_append.1 hc with hc | hc
    · exact h.accepted c hc
    · exact hbefore c hc

end Channel

namespace Prog

variable {ε ω γ κ α β : Type u}

/-- From every state with `I`, and whatever was called before, `p` makes the calls of the plan until
one is refused; `I` holds again behind them. -/
def Delivers (C : Channel ε γ κ) (I : ω → Prop) (p : Prog ε (ω × List γ) PUnit) (plan : List κ) :
    Prop :=
  ∀ w done, I w → p.Ends False
    (fun _ t => I t.1 ∧ ∃ calls, t.2 = done ++ calls ∧ C.Complete plan calls)
    (fun e t => I t.1 ∧ ∃ calls, t.2 = done ++ calls ∧ C.Stopped plan e calls) (w, done)

variable {C : Channel ε γ κ} {I : ω → Prop} {p q : Prog ε (ω × List γ) PUnit} {plan plan' : List κ}

theorem delivers_pure : Delivers C I (pure ⟨⟩) [] :=
  fun _ done hI => ⟨hI, [], (List.append_nil done).symm, rfl, nofun⟩

/-- What is done beside the calls. -/
theorem delivers_onFst {p : Prog ε ω PUnit} (hp : ∀ w, I w → ∃ w', p w = .returned ⟨⟩ w' ∧ I w') :
    Delivers C I (onFst p) [] := by
  intro w done hI
  rcases hp w hI with ⟨w', hret, hI'⟩
  exact ends_onFst.2 (ends_of_returned hret ⟨hI', [], (List.append_nil done).symm, rfl, nofun⟩)

theorem Delivers.bind (hp : Delivers C I p plan) (hq : Delivers C I q plan') :
    Delivers C I (p >>= fun _ => q) (plan ++ plan') := by
  intro w done hI
  refine ends_bind.2 ((hp w done hI).mono ?_ ?_)
  · rintro _ ⟨w₁, _⟩ ⟨hI₁, calls, rfl, hcomplete⟩
    refine (hq w₁ (done ++ calls) hI₁).mono ?_ ?_
    · rintro _ t ⟨hI', calls', hcalls', hcomplete'⟩
      exact ⟨hI', calls ++ calls', by rw [hcalls', List.append_assoc], hcomplete.append hcomplete'⟩
    · rintro e t ⟨hI', calls', hcalls', hstopped⟩
      exact ⟨hI', calls ++ calls', by rw [hcalls', List.append_assoc],
        Channel.Stopped.after hcomplete hstopped⟩
  · rintro e t ⟨hI', calls, hcalls, hstopped⟩
    exact ⟨hI', calls, hcalls, hstopped.weaken plan'⟩

theorem delivers_forEach {body : β → Prog ε (ω × List γ) PUnit} {plans : β → List κ}
    (hbody : ∀ x, Delivers C I (body x) (plans x)) (xs : List β) :
    Delivers C I (forEach body xs) (xs.flatMap plans) := by
  induction xs with
  | nil => exact delivers_pure
  | cons x xs ih => exact (hbody x).bind ih

end Prog

end Evdevxx
