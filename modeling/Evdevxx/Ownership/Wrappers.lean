import Evdevxx.Logic.Run
import Evdevxx.Model.Wrapper

/-!
# Wrappers — ownership in the template `basic_wrapper`

A wrapper holds its `raw`, unless that is `InvalidValue`; the wrappers are the owners of the
ownership machine, and every action of a client is a sequence of its moves, as long as a wrapper
that is released holds nothing afterwards.  But `release()` resets `raw` to `T{}`, so this depends on
whether `InvalidValue` is `T{}`.
-/

namespace Evdevxx

open Ledger (Entry Outstanding Books Move Moves Balanced)

namespace BasicWrapper

variable {T : Type} [DecidableEq T] {InvalidValue : T}

/-! ## What an action can do -/

section Effects

variable [Inhabited T]

/-- The effects of the actions on the objects and the logs. -/
inductive Effect (w : Wrappers T InvalidValue) :
    WrapperAction T → Wrappers T InvalidValue → Prop where
  | construct {i : Nat} (hfree : w.objects i = none) : Effect w (.construct i) (w.set i (some {}))
  | constructFrom {i : Nat} {src : T} (hsrc : src ≠ InvalidValue) (hfree : w.objects i = none) :
      Effect w (.constructFrom i src) ((w.set i (some { raw := src })).enter (.acquired src))
  | release {i : Nat} {B : BasicWrapper T InvalidValue} (hB : w.objects i = some B) :
      Effect w (.release i) ((w.set i (some { raw := default })).giveUp B.raw)
  | acquire {i : Nat} {newState : T} {B : BasicWrapper T InvalidValue}
      (hnew : newState ≠ InvalidValue) (hB : w.objects i = some B) (hraw : B.raw = InvalidValue) :
      Effect w (.acquire i newState)
        ((w.set i (some { raw := newState })).enter (.acquired newState))
  | moveConstruct {i other : Nat} {C : BasicWrapper T InvalidValue} (hfree : w.objects i = none)
      (hC : w.objects other = some C) :
      Effect w (.moveConstruct i other)
        ((w.set other (some { raw := default })).set i (some { raw := C.raw }))
  | moveSelf {i : Nat} {B : BasicWrapper T InvalidValue} (hB : w.objects i = some B) :
      Effect w (.moveAssign i i) w
  | moveAssign {i other : Nat} {B C : BasicWrapper T InvalidValue} (hne : i ≠ other)
      (hB : w.objects i = some B) (hC : w.objects other = some C) :
      Effect w (.moveAssign i other)
        (((w.discard B.raw).set other (some { raw := default })).set i (some { raw := C.raw }))
  | destruct {i : Nat} {B : BasicWrapper T InvalidValue} (hB : w.objects i = some B) :
      Effect w (.destruct i) ((w.discard B.raw).set i none)

variable {w w' : Wrappers T InvalidValue} {a : WrapperAction T}

theorem effect_of_step (h : Step w a w') : Effect w a w' := by
  rcases h with ⟨hallowed, hexec⟩
  cases a with
  | construct i =>
      cases hi : w.objects i with
      | none =>
          rw [exec, allocate_apply hi] at hexec
          cases hexec
          exact .construct hi
      | some B =>
          rw [exec, allocate_apply_some hi] at hexec
          cases hexec
  | constructFrom i src =>
      cases hi : w.objects i with
      | none =>
          simp only [exec, Prog.bind_apply, allocate_apply hi, Outcome.returned_andThen] at hexec
          cases hexec
          exact .constructFrom hallowed hi
      | some B =>
          simp [exec, allocate_apply_some hi] at hexec
  | release i =>
      cases hi : w.objects i with
      | none => simp [exec, doRelease_apply_none hi] at hexec
      | some B =>
          simp only [exec, Prog.bind_apply, doRelease_apply hi, Outcome.returned_andThen] at hexec
          cases hexec
          exact .release hi
  | acquire i newState =>
      cases hi : w.objects i with
      | none => simp [exec, doAcquire_apply_none hi] at hexec
      | some B =>
          simp only [exec, Prog.bind_apply, doAcquire_apply hi, Outcome.returned_andThen] at hexec
          cases hexec
          have hraw : B.raw = InvalidValue := by simpa [isValid] using hallowed.2 B hi
          exact .acquire hallowed.1 hi hraw
  | moveConstruct i other =>
      cases hother : w.objects other with
      | none => simp [exec, moveConstruct, load_apply_none hother] at hexec
      | some C =>
          cases hi : w.objects i with
          | some B =>
              simp [exec, moveConstruct, load_apply hother, allocate_apply_some hi] at hexec
          | none =>
              rw [exec, moveConstruct_apply hi hother] at hexec
              cases hexec
              exact .moveConstruct hi hother
  | moveAssign i other =>
      cases hi : w.objects i with
      | none => simp [exec, moveAssign, load_apply_none hi] at hexec
      | some B =>
          by_cases hne : i = other
          · subst hne
            rw [exec, moveAssign_apply_self hi] at hexec
            cases hexec
            exact .moveSelf hi
          · cases hother : w.objects other with
            | none =>
                rw [exec, moveAssign_apply_none hi hother] at hexec
                cases hexec
            | some C =>
                rw [exec, moveAssign_apply hne hi hother] at hexec
                cases hexec
                exact .moveAssign hne hi hother
  | destruct i =>
      cases hi : w.objects i with
      | none => simp [exec, destroy_apply_none hi] at hexec
      | some B =>
          have hset : memory.set ((w.discard B.raw).set i (some { raw := default })) i none =
              (w.discard B.raw).set i none := Wrappers.set_set _ _ _ _
          simp only [exec, Prog.bind_apply, destroy_apply hi, Outcome.returned_andThen,
            Memory.deallocate_apply, hset] at hexec
          cases hexec
          exact .destruct hi

end Effects

/-! ## Wrappers as owners -/

/-- What a wrapper holds. -/
def held (B : BasicWrapper T InvalidValue) : Option T :=
  if B.raw = InvalidValue then none else some B.raw

/-- What the wrapper at an address holds, if one lives there. -/
def holder (w : Wrappers T InvalidValue) (i : Nat) : Option T :=
  (w.objects i).bind held

/-- The state of the ownership machine; a handle is in use from when it is handed over until it is
given up. -/
def books (w : Wrappers T InvalidValue) : Books Nat T where
  log := w.log
  holder := holder w
  inUse := Outstanding w.log

section Owners

variable {w : Wrappers T InvalidValue} {i other : Nat} {B C : BasicWrapper T InvalidValue}
variable {X : Option (BasicWrapper T InvalidValue)} {v : T}

theorem holder_of_some (hB : w.objects i = some B) : holder w i = held B := by
  simp [holder, hB]

theorem holder_of_free (hfree : w.objects i = none) : holder w i = none := by
  simp [holder, hfree]

theorem holder_eq_some_iff :
    holder w i = some v ↔ ∃ B, w.objects i = some B ∧ B.raw = v ∧ v ≠ InvalidValue := by
  cases hi : w.objects i with
  | none => simp [holder, hi]
  | some B =>
      by_cases hraw : B.raw = InvalidValue
      · simp only [holder_of_some hi, held, hraw, if_true, Option.some.injEq, exists_eq_left']
        exact ⟨fun h => (nomatch h), fun h => absurd h.1.symm h.2⟩
      · simp only [holder_of_some hi, held, hraw, if_false, Option.some.injEq, exists_eq_left']
        exact ⟨fun h => ⟨h, h ▸ hraw⟩, fun h => h.1⟩

theorem holder_set (w : Wrappers T InvalidValue) (i : Nat)
    (X : Option (BasicWrapper T InvalidValue)) :
    holder (w.set i X) = Function.update (holder w) i (X.bind held) := by
  funext k
  by_cases hk : k = i
  · simp [holder, hk]
  · simp [holder, hk]

theorem books_discard_set (w : Wrappers T InvalidValue) (v : T) (i : Nat)
    (X : Option (BasicWrapper T InvalidValue)) :
    books ((w.discard v).set i X) = books ((w.giveUp v).set i X) := by
  unfold Wrappers.discard Wrappers.giveUp
  split <;> rfl

/-- A write that does not change what the wrapper holds. -/
theorem books_set_of_held (hX : X.bind held = holder w i) : books (w.set i X) = books w := by
  have hself : Function.update (holder w) i (X.bind held) = holder w := by
    rw [hX, Function.update_eq_self]
  simp only [books, holder_set, hself, Wrappers.set_log]

/-! ## Actions as moves -/

/-- A handle that no wrapper has is handed to an empty wrapper, or to a new one. -/
theorem moves_handed (hv : v ≠ InvalidValue) (hfree : holder w i = none)
    (hnew : ¬ Outstanding w.log v) :
    Moves (books w) (books ((w.set i (some { raw := v })).enter (.acquired v))) := by
  have hbooks : books ((w.set i (some { raw := v })).enter (.acquired v)) =
      ⟨.acquired v :: w.log, Function.update (holder w) i (some v),
        Function.update (Outstanding w.log) v True⟩ := by
    have hholder : holder ((w.set i (some { raw := v })).enter (.acquired v)) =
        Function.update (holder w) i (some v) := by
      have hset := holder_set w i (some { raw := v })
      simp only [Option.bind_some, held, hv, if_false] at hset
      exact hset
    simp only [books, hholder, Wrappers.enter_log, Wrappers.set_log, Ledger.outstanding_acquired]
  rw [hbooks]
  exact Relation.ReflTransGen.single (Move.gain (b := books w) hfree hnew)

/-- A wrapper gives up what it holds, and is empty afterwards or gone. -/
theorem moves_givenUp (hB : w.objects i = some B) (hX : X.bind held = none) :
    Moves (books w) (books ((w.giveUp B.raw).set i X)) := by
  by_cases hraw : B.raw = InvalidValue
  · have hnone : X.bind held = holder w i := by
      rw [hX, holder_of_some hB, held, if_pos hraw]
    rw [Wrappers.giveUp, if_neg (not_not.2 hraw), books_set_of_held hnone]
    exact Relation.ReflTransGen.refl
  · have hheld : holder w i = some B.raw := by rw [holder_of_some hB, held, if_neg hraw]
    have hbooks : books ((w.giveUp B.raw).set i X) =
        ⟨.released B.raw :: w.log, Function.update (holder w) i none,
          Function.update (Outstanding w.log) B.raw False⟩ := by
      have hholder : holder ((w.enter (.released B.raw)).set i X) =
          Function.update (holder w) i none := by
        rw [holder_set, hX]
        rfl
      rw [Wrappers.giveUp, if_pos hraw]
      simp only [books, hholder, Wrappers.enter_log, Wrappers.set_log,
        Ledger.outstanding_released]
    rw [hbooks]
    exact Relation.ReflTransGen.single (Move.drop (b := books w) hheld)

/-- What a wrapper frees is what it held. -/
theorem discard_freed (hB : w.objects i = some B) :
    (∀ e ∈ w.log, e ∈ (w.discard B.raw).log) ∧
      ∀ v ∈ (w.discard B.raw).freed, v ∈ w.freed ∨ ∃ k, holder w k = some v := by
  by_cases hraw : B.raw = InvalidValue
  · rw [Wrappers.discard, if_neg (not_not.2 hraw)]
    exact ⟨fun e he => he, fun v hv => Or.inl hv⟩
  · rw [Wrappers.discard, if_pos hraw]
    refine ⟨fun e he => List.mem_cons_of_mem _ he, fun v hv => ?_⟩
    rcases List.mem_cons.1 hv with rfl | hv
    · exact Or.inr ⟨i, holder_eq_some_iff.2 ⟨B, hB, rfl, hraw⟩⟩
    · exact Or.inl hv

variable [Inhabited T]

/-- Where `T{}` is `InvalidValue`, a wrapper holds nothing after `release()`. -/
theorem held_released (hdefault : InvalidValue = default) :
    (some { raw := default } : Option (BasicWrapper T InvalidValue)).bind held = none := by
  simp [held, hdefault]

/-- Where `T{}` is `InvalidValue`, moving leaves the source empty. -/
theorem moves_transferred (hdefault : InvalidValue = default)
    (hfree : holder w i = none) (hC : w.objects other = some C) :
    Moves (books w)
      (books ((w.set other (some { raw := default })).set i (some { raw := C.raw }))) := by
  have hholder : holder ((w.set other (some { raw := default })).set i (some { raw := C.raw })) =
      Function.update (Function.update (holder w) other none) i (held C) := by
    rw [holder_set, holder_set, held_released hdefault]
    rfl
  cases hheld : held C with
  | none =>
      -- There was nothing to move.
      have hother : holder w other = none := (holder_of_some hC).trans hheld
      have hsource : Function.update (holder w) other none = holder w :=
        Function.update_eq_self_iff.2 hother.symm
      have hsame : Function.update (Function.update (holder w) other none) i none = holder w := by
        rw [hsource]
        exact Function.update_eq_self_iff.2 hfree.symm
      simp only [books, hholder, hheld, hsame, Wrappers.set_log]
      exact Relation.ReflTransGen.refl
  | some v =>
      have hgive : Move (books w)
          ⟨w.log, Function.update (Function.update (holder w) other none) i (some v),
            Outstanding w.log⟩ :=
        Move.give (b := books w) ((holder_of_some hC).trans hheld) hfree
      simp only [books, hholder, hheld, Wrappers.set_log]
      exact Relation.ReflTransGen.single hgive

/-- From balanced books, an action is a sequence of moves, if the wrappers it empties hold nothing
afterwards and the handle it hands over is not held. -/
theorem moves_of_effect {w' : Wrappers T InvalidValue} {a : WrapperAction T}
    (hb : Balanced (books w)) (h : Effect w a w')
    (hdefault : a.emptied ≠ none → InvalidValue = default)
    (hunheld : ∀ v, a.handed = some v → ∀ k, holder w k ≠ some v) :
    Moves (books w) (books w') := by
  -- What is outstanding is held by some wrapper.
  have hnew : ∀ v, a.handed = some v → ¬ Outstanding w.log v := by
    intro v hv hout
    rcases hb.kept hout with ⟨k, hk⟩
    exact hunheld v hv k hk
  cases h with
  | @construct i hfree =>
      have hX : (some {} : Option (BasicWrapper T InvalidValue)).bind held = none := by simp [held]
      rw [books_set_of_held (hX.trans (holder_of_free hfree).symm)]
      exact Relation.ReflTransGen.refl
  | @constructFrom i src hsrc hfree =>
      exact moves_handed hsrc (holder_of_free hfree) (hnew _ rfl)
  | @release i B hB =>
      rw [Wrappers.giveUp_set]
      exact moves_givenUp hB (held_released (hdefault (by simp [WrapperAction.emptied])))
  | @acquire i newState B hne hB hraw =>
      have hnone : holder w i = none := by rw [holder_of_some hB, held, if_pos hraw]
      exact moves_handed hne hnone (hnew _ rfl)
  | @moveConstruct i other C hfree hC =>
      exact moves_transferred (hdefault (by simp [WrapperAction.emptied])) (holder_of_free hfree) hC
  | moveSelf hB => exact Relation.ReflTransGen.refl
  | @moveAssign i other B C hne hB hC =>
      have hT : InvalidValue = default := hdefault (by simp [WrapperAction.emptied, hne])
      -- First the handle of the target is given up, then that of the source is moved into it.
      have hfirst : Moves (books w) (books ((w.discard B.raw).set i (some { raw := default }))) := by
        have hgiven := moves_givenUp hB (held_released hT)
        rw [← books_discard_set] at hgiven
        exact hgiven
      have hnone : holder ((w.discard B.raw).set i (some { raw := default })) i = none := by
        rw [holder_set, held_released hT, Function.update_self]
      have hC' : ((w.discard B.raw).set i (some { raw := default })).objects other = some C := by
        simp [Ne.symm hne, hC]
      have hsecond := moves_transferred hT hnone hC'
      rw [Wrappers.set_comm _ hne, Wrappers.set_set] at hsecond
      exact hfirst.trans hsecond
  | @destruct i B hB =>
      have hgiven := moves_givenUp (X := none) hB rfl
      rw [← books_discard_set] at hgiven
      exact hgiven

/-- The log only grows, and what is freed was held. -/
theorem effect_freed {w' : Wrappers T InvalidValue} {a : WrapperAction T} (h : Effect w a w') :
    (∀ e ∈ w.log, e ∈ w'.log) ∧ ∀ v ∈ w'.freed, v ∈ w.freed ∨ ∃ k, holder w k = some v := by
  have hkept : ∀ {l : List (Entry T)} {e' : Entry T}, w.log = l → ∀ e ∈ w.log, e ∈ e' :: l := by
    intro l e' hl e he
    exact List.mem_cons_of_mem _ (hl ▸ he)
  cases h with
  | construct => exact ⟨fun e he => he, fun v hv => Or.inl hv⟩
  | constructFrom => exact ⟨hkept rfl, fun v hv => Or.inl hv⟩
  | @release i B hB =>
      unfold Wrappers.giveUp
      split
      · exact ⟨hkept rfl, fun v hv => Or.inl hv⟩
      · exact ⟨fun e he => he, fun v hv => Or.inl hv⟩
  | acquire => exact ⟨hkept rfl, fun v hv => Or.inl hv⟩
  | moveConstruct => exact ⟨fun e he => he, fun v hv => Or.inl hv⟩
  | moveSelf => exact ⟨fun e he => he, fun v hv => Or.inl hv⟩
  | moveAssign hne hB hC => exact discard_freed hB
  | destruct hB => exact discard_freed hB

end Owners

/-! ## Sound ownership -/

/-- Every handle is held by at most one wrapper, and only what was handed to a wrapper is freed. -/
structure Sound (w : Wrappers T InvalidValue) : Prop where
  unique : ∀ i j B C, w.objects i = some B → w.objects j = some C → B.data = C.data →
    B.data ≠ InvalidValue → i = j
  freed : ∀ v ∈ w.freed, Entry.acquired v ∈ w.log

/-- What every client keeps: the books are balanced, and only what was handed over was freed. -/
structure Kept (w : Wrappers T InvalidValue) : Prop where
  balanced : Balanced (books w)
  freed : ∀ v ∈ w.freed, Entry.acquired v ∈ w.log

section Ownership

variable {w w' : Wrappers T InvalidValue} {a : WrapperAction T}

theorem Kept.sound (h : Kept w) : Sound w where
  unique := by
    intro i j B C hB hC hsame hne
    have hi : holder w i = some B.raw := holder_eq_some_iff.2 ⟨B, hB, rfl, hne⟩
    have hj : holder w j = some B.raw := holder_eq_some_iff.2 ⟨C, hC, hsame.symm, hne⟩
    exact h.balanced.unique hi hj
  freed := h.freed

variable (InvalidValue) in
theorem kept_init : Kept (Wrappers.init : Wrappers T InvalidValue) where
  balanced := Balanced.initial _
  freed := by
    intro v hv
    cases hv

variable [Inhabited T]

/-- A wrapper that was released or moved from is not valid, and holds `InvalidValue`. -/
def Empties (a : WrapperAction T) (w' : Wrappers T InvalidValue) : Prop :=
  ∀ i B, a.emptied = some i → w'.objects i = some B → B.isValid = false ∧ B.data = InvalidValue

/-- The action keeps the ownership sound and empties what it releases or moves from. -/
def Keeps (w : Wrappers T InvalidValue) (a : WrapperAction T) : Prop :=
  ∀ w', Step w a w' → Sound w' ∧ Empties a w'

/-- If the action can be performed, then it releases nothing and moves from nothing unless
`InvalidValue` is `T{}`, and hands over no handle that a wrapper holds. -/
def Clean (w : Wrappers T InvalidValue) (a : WrapperAction T) : Prop :=
  ∀ w', Step w a w' → (a.emptied ≠ none → InvalidValue = default) ∧
    ∀ v, a.handed = some v → ∀ k B, w.objects k = some B → B.data ≠ v

theorem Kept.step (h : Kept w) (hclean : Clean w a) (hstep : Step w a w') : Kept w' := by
  rcases hclean w' hstep with ⟨hdefault, hunheld⟩
  have heffect := effect_of_step hstep
  have hholder : ∀ v, a.handed = some v → ∀ k, holder w k ≠ some v := by
    intro v hv k hk
    rcases holder_eq_some_iff.1 hk with ⟨B, hB, hraw, _⟩
    exact hunheld v hv k B hB hraw
  rcases effect_freed heffect with ⟨hgrows, hwas⟩
  refine ⟨h.balanced.moves (moves_of_effect h.balanced heffect hdefault hholder), fun v hv => ?_⟩
  rcases hwas v hv with hold | ⟨k, hk⟩
  · exact hgrows _ (h.freed v hold)
  · exact hgrows _ (Ledger.mem_of_outstanding (h.balanced.used hk))

/-- The object that was released, or moved from, holds `T{}`. -/
theorem emptied_of_effect (h : Effect w a w') {i : Nat} (hi : a.emptied = some i) :
    w'.objects i = some { raw := default } := by
  cases h with
  | construct => cases hi
  | constructFrom => cases hi
  | release hB =>
      cases hi
      simp
  | acquire => cases hi
  | moveConstruct hfree hC =>
      cases hi
      have hne := ne_of_lives_of_free hC hfree
      simp [hne]
  | moveSelf => simp [WrapperAction.emptied] at hi
  | moveAssign hne hB hC =>
      simp only [WrapperAction.emptied, if_neg hne, Option.some.injEq] at hi
      subst hi
      simp [Ne.symm hne]
  | destruct => cases hi

/-- After a handle was handed over, there is a new holder of it, and the others are who they were. -/
theorem handed_of_effect (h : Effect w a w') {v : T} (hv : a.handed = some v) :
    v ≠ InvalidValue ∧ ∃ i, w'.objects i = some { raw := v } ∧
      ∀ k B, w.objects k = some B → B.data = v → k ≠ i ∧ w'.objects k = some B := by
  cases h with
  | construct => cases hv
  | @constructFrom i src hsrc hfree =>
      cases hv
      refine ⟨hsrc, i, by simp, fun k B hB _ => ?_⟩
      have hne := ne_of_lives_of_free hB hfree
      exact ⟨hne, by simp [hne, hB]⟩
  | release => cases hv
  | @acquire i newState B hnew hB hraw =>
      cases hv
      refine ⟨hnew, i, by simp, fun k C hC hdata => ?_⟩
      have hne : k ≠ i := by
        rintro rfl
        rw [hB] at hC
        cases hC
        exact hnew (hdata.symm.trans hraw)
      exact ⟨hne, by simp [hne, hC]⟩
  | moveConstruct => cases hv
  | moveSelf => cases hv
  | moveAssign => cases hv
  | destruct => cases hv

theorem keeps_iff_clean (h : Kept w) : Keeps w a ↔ Clean w a := by
  constructor
  · intro hkeeps w' hstep
    rcases hkeeps w' hstep with ⟨hsound, hempties⟩
    have heffect := effect_of_step hstep
    refine ⟨fun hsome => ?_, fun v hv k B hB hdata => ?_⟩
    · rcases Option.ne_none_iff_exists'.1 hsome with ⟨i, hi⟩
      exact (hempties i _ hi (emptied_of_effect heffect hi)).2.symm
    · rcases handed_of_effect heffect hv with ⟨hne, i, hi, hothers⟩
      rcases hothers k B hB hdata with ⟨hki, hB'⟩
      -- Two wrappers would hold the handle.
      exact hki (hsound.unique k i B _ hB' hi hdata (hdata ▸ hne))
  · intro hclean w' hstep
    refine ⟨(h.step hclean hstep).sound, fun i B hi hB => ?_⟩
    have hdefault : InvalidValue = default :=
      (hclean w' hstep).1 (by rw [hi]; exact Option.some_ne_none i)
    have hsame := (emptied_of_effect (effect_of_step hstep) hi).symm.trans hB
    cases hsame
    simp [isValid, data, hdefault]

/-- For every type and every `InvalidValue`, ownership is sound along a run exactly if `InvalidValue`
is `T{}` whenever something is released or moved from, and no handle is handed over that a wrapper
holds. -/
theorem wrapper_ownership_iff (InvalidValue : T) (actions : List (WrapperAction T)) :
    Always Step Keeps (Wrappers.init : Wrappers T InvalidValue) actions ↔
      Always Step Clean (Wrappers.init : Wrappers T InvalidValue) actions :=
  Always.congr_of_invariant Kept (fun _ => True) (fun _ _ h _ => keeps_iff_clean h)
    (fun _ _ _ h _ hclean hstep => h.step hclean hstep) _ (kept_init InvalidValue)
    (fun _ _ => trivial)

/-- A wrapper of descriptors, with `-1` as the invalid one: after a release it is valid, and holds
the descriptor 0. -/
theorem released_descriptor_is_valid :
    ¬ Always Step Keeps (Wrappers.init : Wrappers Int (-1)) [.constructFrom 0 3, .release 0] := by
  intro hall
  let w₀ : Wrappers Int (-1) := Wrappers.init
  let w₁ := (w₀.set 0 (some { raw := 3 })).enter (.acquired 3)
  have hconstructed : Step w₀ (.constructFrom 0 3) w₁ :=
    ⟨show (3 : Int) ≠ -1 by decide, rfl⟩
  have hreleased : Step w₁ (.release 0) ((w₁.set 0 (some { raw := 0 })).giveUp 3) := ⟨trivial, rfl⟩
  have hempty := ((hall.2 _ hconstructed).1 _ hreleased).2 0 { raw := 0 } rfl rfl
  exact absurd hempty.1 (by decide)

end Ownership

end BasicWrapper

end Evdevxx
