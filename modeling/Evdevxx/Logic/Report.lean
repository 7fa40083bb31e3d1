import Evdevxx.Logic.Scope

/-!
# Report — programs that only write

A report is what a program writes until it ends, and the exception that cuts it short if there is one.
`Prog.Writes` says that a program writes a report whatever was written before, and that it changes
nothing else.  The reports of the parts of a program are put together with `append` and `concat`.
-/

namespace Evdevxx

universe u

/-- What is written, and why nothing more is. -/
structure Report (ε γ : Type u) where
  shown : List γ
  error : Option ε
  deriving DecidableEq, Repr

namespace Report

variable {ε γ : Type u} {e : ε} {r : Report ε γ} {rs : List (Report ε γ)}

/-- A report that is not cut short. -/
def done (shown : List γ) : Report ε γ where
  shown := shown
  error := none

/-- Nothing is written before the exception. -/
def failed (e : ε) : Report ε γ where
  shown := []
  error := some e

/-- `r`, and then `r'` unless `r` is cut short. -/
def append (r r' : Report ε γ) : Report ε γ :=
  match r.error with
  | some _ => r
  | none => { shown := r.shown ++ r'.shown, error := r'.error }

/-- One report after the other. -/
def concat (rs : List (Report ε γ)) : Report ε γ :=
  rs.foldr append (done [])

/-- The report is not cut short. -/
def Full (r : Report ε γ) : Prop :=
  r.error = none

@[simp] theorem full_done (shown : List γ) : (done shown : Report ε γ).Full := rfl

@[simp] theorem not_full_failed (e : ε) : ¬ (failed e : Report ε γ).Full := nofun

@[simp] theorem concat_nil : concat ([] : List (Report ε γ)) = done [] := rfl

@[simp] theorem concat_cons (r : Report ε γ) (rs : List (Report ε γ)) :
    concat (r :: rs) = r.append (concat rs) := rfl

theorem append_of_full (h : r.Full) (r' : Report ε γ) :
    r.append r' = { shown := r.shown ++ r'.shown, error := r'.error } := by
  unfold append
  rw [show r.error = none from h]

theorem append_of_error (h : r.error = some e) (r' : Report ε γ) : r.append r' = r := by
  unfold append
  rw [h]

theorem done_append (shown : List γ) (r : Report ε γ) :
    (done shown).append r = { shown := shown ++ r.shown, error := r.error } := rfl

@[simp] theorem done_append_done (shown shown' : List γ) :
    (done shown : Report ε γ).append (done shown') = done (shown ++ shown') := rfl

@[simp] theorem done_append_done_append (shown shown' : List γ) (r : Report ε γ) :
    (done shown).append ((done shown').append r) = (done (shown ++ shown')).append r := by
  simp only [done_append, List.append_assoc]

/-- Full reports together are one report. -/
theorem concat_done {β : Type u} (f : β → List γ) (xs : List β) :
    (concat (xs.map fun x => done (f x)) : Report ε γ) = done (xs.flatMap f) := by
  induction xs with
  | nil => rfl
  | cons x xs ih => rw [List.map_cons, concat_cons, ih, done_append_done, List.flatMap_cons]

@[simp] theorem full_append_iff (r r' : Report ε γ) : (r.append r').Full ↔ r.Full ∧ r'.Full := by
  cases h : r.error with
  | none =>
      have hfull : r.Full := h
      rw [append_of_full hfull]
      exact (and_iff_right hfull).symm
  | some e => simp [append_of_error h, Full, h]

/-- Several reports are full together exactly if each is. -/
@[simp] theorem full_concat_iff (rs : List (Report ε γ)) : (concat rs).Full ↔ ∀ r ∈ rs, r.Full := by
  induction rs with
  | nil => simp
  | cons r rs ih => simp [ih]

/-- What full reports write together. -/
theorem shown_concat (h : ∀ r ∈ rs, r.Full) : (concat rs).shown = rs.flatMap shown := by
  induction rs with
  | nil => rfl
  | cons r rs ih =>
      rw [concat_cons, append_of_full (h r List.mem_cons_self), List.flatMap_cons,
        ih fun r hr => h r (List.mem_cons_of_mem _ hr)]

/-- The first report that is cut short is the last one that writes anything. -/
theorem concat_of_error (h : (concat rs).error = some e) :
    ∃ before r after, rs = before ++ r :: after ∧ (∀ r' ∈ before, r'.Full) ∧ r.error = some e ∧
      (concat rs).shown = before.flatMap shown ++ r.shown := by
  induction rs with
  | nil => cases h
  | cons r rs ih =>
      cases hr : r.error with
      | some e' =>
          rw [concat_cons, append_of_error hr] at h ⊢
          exact ⟨[], r, rs, rfl, by simp, h, rfl⟩
      | none =>
          have hfull : r.Full := hr
          rw [concat_cons, append_of_full hfull] at h ⊢
          rcases ih h with ⟨before, r', after, rfl, hbefore, herror, hshown⟩
          refine ⟨r :: before, r', after, rfl, ?_, herror, ?_⟩
          · exact List.forall_mem_cons.2 ⟨hfull, hbefore⟩
          · simp only [hshown, List.flatMap_cons, List.append_assoc]

end Report

namespace Prog

variable {ε ω γ α β : Type u}

/-- `p` writes `r` behind what was written before; nothing else happens. -/
def Writes (p : Prog ε (ω × List γ) PUnit) (r : Report ε γ) (w : ω) : Prop :=
  ∀ out, p (w, out) = match r.error with
    | none => .returned ⟨⟩ (w, out ++ r.shown)
    | some e => .threw e (w, out ++ r.shown)

/-- Write something. -/
def write (shown : List γ) : Prog ε (ω × List γ) PUnit :=
  modify fun s => (s.1, s.2 ++ shown)

section Rules

variable {p q : Prog ε (ω × List γ) PUnit} {r r' : Report ε γ} {w : ω} {ask : Prog ε ω α} {a : α}
variable {e : ε} {k : α → Prog ε (ω × List γ) PUnit}

theorem writes_nothing : (pure ⟨⟩ : Prog ε (ω × List γ) PUnit).Writes (.done []) w := by
  intro out
  simp [Report.done]

theorem writes_write (shown : List γ) :
    (write shown : Prog ε (ω × List γ) PUnit).Writes (.done shown) w := fun _ => rfl

theorem Writes.bind (hp : p.Writes r w) (hq : q.Writes r' w) :
    (do p; q).Writes (r.append r') w := by
  intro out
  cases hr : r.error with
  | some e =>
      have hrun := hp out
      rw [hr] at hrun
      rw [bind_apply, hrun, Report.append_of_error hr, hr]
      rfl
  | none =>
      have hrun := hp out
      have hfull : r.Full := hr
      rw [hr] at hrun
      rw [bind_apply, hrun, Report.append_of_full hfull, Outcome.returned_andThen, hq,
        List.append_assoc]

theorem Writes.of_eq (hp : p.Writes r w) (hr : r = r') : p.Writes r' w :=
  hr ▸ hp

/-- A query that changes nothing, and what is written with its result. -/
theorem Writes.of_asked (hask : ask w = .returned a w) (hk : (k a).Writes r w) :
    (onFst ask >>= k).Writes r w := by
  intro out
  rw [bind_apply, onFst, hask]
  exact hk out

/-- A query that fails, before anything is written. -/
theorem writes_of_failed (hask : ask w = .threw e w) :
    (onFst ask >>= k).Writes (.failed e) w := by
  intro out
  rw [bind_apply, onFst, hask]
  simp [Report.failed]

/-- A loop writes the reports of its iterations one after the other. -/
theorem writes_forEach {body : β → Prog ε (ω × List γ) PUnit} {f : β → Report ε γ}
    (hbody : ∀ x, (body x).Writes (f x) w) (xs : List β) :
    (forEach body xs).Writes (.concat (xs.map f)) w := by
  induction xs with
  | nil => exact writes_nothing
  | cons x xs ih => exact (hbody x).bind ih

/-- How a program that only writes ends. -/
theorem Writes.ends (h : p.Writes r w) (lim : Prop) (out : List γ) :
    p.Ends lim (fun _ s => s = (w, out ++ r.shown) ∧ r.error = none)
      (fun e s => s = (w, out ++ r.shown) ∧ r.error = some e) (w, out) := by
  have hrun := h out
  cases hr : r.error with
  | none =>
      rw [hr] at hrun
      exact ends_of_returned hrun ⟨rfl, rfl⟩
  | some e =>
      rw [hr] at hrun
      exact ends_of_threw hrun ⟨rfl, rfl⟩

end Rules

end Prog

end Evdevxx
