import Evdevxx.Model.System
import Evdevxx.Device.Evaluation

/-!
# Steps — what one action on a `Device` can do

Constructors, moves, `destroy` and the destructor are made of four elementary changes (an empty
object is born or dies, an object is emptied and its values disposed of, an object's values go to
an empty one); `create`, `open`, `set_fd` and `change_fd` are changes of their own.
`DeviceInvariant` lists what an invariant has to survive, and `DeviceInvariant.step` derives that
every action keeps it, so that an invariant never has to be taken through the action list again.
-/

namespace Evdevxx

variable {σ : Type} {P : Platform σ}

namespace Device

variable {w w' : World σ} {this other : DeviceId} {D E : Device}

/-! ## The ways each member function can end -/

theorem after_create (hD : w.devices this = some D)
    (h : (create P this w).after = some w') :
    let w₁ := w.called (.libevdevNew (P.libevdevNew w.env).1) (P.libevdevNew w.env).2
    ((P.libevdevNew w.env).1 = none ∧ w' = w₁) ∨
      ∃ p, (P.libevdevNew w.env).1 = some p ∧
        w' = (w₁.disposed P D).setDevice this (some { raw := some p, ownedFd := -1 }) := by
  rw [create_apply hD] at h
  cases hp : (P.libevdevNew w.env).1 with
  | none => simp_all
  | some p => simp_all

theorem after_createFd {fd : Fd} (hD : w.devices this = some D)
    (h : (createFd P this fd w).after = some w') :
    let r := P.libevdevNewFromFd fd w.env
    let w₁ := w.called (.libevdevNewFromFd fd r.1.1 r.1.2) r.2
    (r.1.1 < 0 ∧ w' = w₁) ∨
      (0 ≤ r.1.1 ∧ w' = (w₁.disposed P D).setDevice this
        (some { raw := r.1.2, ownedFd := fd })) := by
  rw [createFd_apply hD] at h
  by_cases hneg : (P.libevdevNewFromFd fd w.env).1.1 < 0
  · simp only [hneg, if_true, Outcome.after_threw, Option.some.injEq] at h
    exact Or.inl ⟨hneg, h.symm⟩
  · simp only [hneg, if_false, Outcome.after_returned, Option.some.injEq] at h
    exact Or.inr ⟨by omega, h.symm⟩

theorem after_createPath {filename : String} {flags : BitVec 32} (hD : w.devices this = some D)
    (h : (createPath P this filename flags w).after = some w') :
    let o := P.posixOpen filename flags w.env
    let w₁ := w.called (.posixOpen filename flags o.1 (P.errno o.2)) o.2
    let r := P.libevdevNewFromFd o.1 o.2
    let w₂ := w₁.called (.libevdevNewFromFd o.1 r.1.1 r.1.2) r.2
    (o.1 < 1 ∧ w' = w₁) ∨
      (1 ≤ o.1 ∧ r.1.1 < 0 ∧ w' = w₂.called (.posixClose o.1) (P.posixClose o.1 r.2)) ∨
      (1 ≤ o.1 ∧ 0 ≤ r.1.1 ∧ w' = (w₂.disposed P D).setDevice this
        (some { raw := r.1.2, ownedFd := o.1 })) := by
  rw [createPath_apply hD] at h
  by_cases hlow : (P.posixOpen filename flags w.env).1 < 1
  · simp only [hlow, if_true, Outcome.after_threw, Option.some.injEq] at h
    exact Or.inl ⟨hlow, h.symm⟩
  · by_cases hneg : (P.libevdevNewFromFd (P.posixOpen filename flags w.env).1
        (P.posixOpen filename flags w.env).2).1.1 < 0
    · simp only [hlow, hneg, if_true, if_false, Outcome.after_threw, Option.some.injEq] at h
      exact Or.inr (Or.inl ⟨by omega, hneg, h.symm⟩)
    · simp only [hlow, hneg, if_false, Outcome.after_returned, Option.some.injEq] at h
      exact Or.inr (Or.inr ⟨by omega, by omega, h.symm⟩)

theorem after_setFd {fd : Fd} (hD : w.devices this = some D)
    (h : (setFd P this fd w).after = some w') :
    ∃ p, D.raw = some p ∧
      w' = w.called (.libevdevSetFd p fd (P.libevdevSetFd p fd w.env).1)
        (P.libevdevSetFd p fd w.env).2 := by
  cases hraw : D.raw with
  | none => simp [setFd_apply_invalid hD hraw] at h
  | some p =>
      refine ⟨p, rfl, ?_⟩
      rw [setFd_apply hD hraw] at h
      simp only at h
      -- Whether it throws or returns, the world is the one after the call.
      split at h <;> simpa using h.symm

theorem after_changeFd {fd : Fd} (hD : w.devices this = some D)
    (h : (changeFd P this fd w).after = some w') :
    ∃ p, D.raw = some p ∧
      w' = w.called (.libevdevChangeFd p fd (P.libevdevChangeFd p fd w.env).1)
        (P.libevdevChangeFd p fd w.env).2 := by
  cases hraw : D.raw with
  | none => simp [changeFd_apply_invalid hD hraw] at h
  | some p =>
      refine ⟨p, rfl, ?_⟩
      rw [changeFd_apply hD hraw] at h
      simp only at h
      split at h <;> simpa using h.symm

/-- `open` is refused, or `::open` fails, or its descriptor is recorded and handed to libevdev. -/
theorem after_openPath {filename : String} {flags : BitVec 32} (hD : w.devices this = some D)
    (h : (openPath P this filename flags w).after = some w') :
    let o := P.posixOpen filename flags w.env
    let w₁ := w.called (.posixOpen filename flags o.1 (P.errno o.2)) o.2
    (D.ownedFd ≠ -1 ∧ w' = w) ∨
      (D.ownedFd = -1 ∧ o.1 < 0 ∧ w' = w₁.setDevice this (some { D with ownedFd := o.1 })) ∨
      ∃ p, D.raw = some p ∧ D.ownedFd = -1 ∧ 0 ≤ o.1 ∧
        w' = (w₁.called (.libevdevSetFd p o.1 (P.libevdevSetFd p o.1 o.2).1)
          (P.libevdevSetFd p o.1 o.2).2).setDevice this (some { D with ownedFd := o.1 }) := by
  by_cases hopen : D.ownedFd = -1
  · rcases D with ⟨⟨raw⟩, fd⟩
    cases raw with
    | none =>
        -- Without a handle only a failed `::open` has an end that is defined.
        rw [openPath_apply_invalid hD rfl hopen] at h
        by_cases hneg : (P.posixOpen filename flags w.env).1 < 0
        · simp only [hneg, if_true, Outcome.after_threw, Option.some.injEq] at h
          exact Or.inr (Or.inl ⟨hopen, hneg, h.symm⟩)
        · simp [hneg] at h
    | some p =>
        rw [openPath_apply hD rfl hopen] at h
        by_cases hneg : (P.posixOpen filename flags w.env).1 < 0
        · simp only [hneg, if_true, Outcome.after_threw, Option.some.injEq] at h
          exact Or.inr (Or.inl ⟨hopen, hneg, h.symm⟩)
        · simp only [hneg, if_false] at h
          refine Or.inr (Or.inr ⟨p, rfl, hopen, by omega, ?_⟩)
          split at h <;> simpa using h.symm
  · -- Refused, before any call.
    rw [openPath_apply_isOpen hD hopen] at h
    exact Or.inl ⟨hopen, by simpa using h.symm⟩

/-! ## Constructors -/

/-- A constructor of a `Device` that calls `create`, `createFd` or `createPath`: the object is born
empty, the body runs, and if it throws the object, still empty, dies. -/
def ConstructEnd (w : World σ) (this : DeviceId) (body : Op σ Unit)
    (w' : World σ) : Prop :=
  w.devices this = none ∧ ∃ w₁, (body (w.setDevice this (some {}))).after = some w₁ ∧
    (w' = w₁ ∨ (w₁.devices this = some {} ∧ w' = w₁.setDevice this none))

theorem constructEnd_of_after {body : Op σ Unit}
    (hbody : ∀ e w₁, body (w.setDevice this (some {})) = .threw e w₁ →
      w₁.devices this = some {})
    (h : (construct this body w).after = some w') : ConstructEnd w this body w' := by
  rcases after_construct h with ⟨hfree, hret | ⟨e, w₁, hthrew, rfl⟩⟩
  · exact ⟨hfree, w', by simp [hret], Or.inl rfl⟩
  · exact ⟨hfree, w₁, by simp [hthrew], Or.inr ⟨hbody e w₁ hthrew, rfl⟩⟩

/-- When `create` throws, the object is as it was. -/
theorem born_of_create_threw {e : Exn}
    (h : create P this (w.setDevice this (some {})) = .threw e w') :
    w'.devices this = some {} := by
  rw [create_apply (World.setDevice_devices_self _ _ _)] at h
  simp only at h
  split at h
  · cases h
    simp
  · cases h

theorem born_of_createFd_threw {fd : Fd} {e : Exn}
    (h : createFd P this fd (w.setDevice this (some {})) = .threw e w') :
    w'.devices this = some {} := by
  rw [createFd_apply (World.setDevice_devices_self _ _ _)] at h
  simp only at h
  split at h
  · cases h
    simp
  · cases h

theorem born_of_createPath_threw {filename : String} {flags : BitVec 32} {e : Exn}
    (h : createPath P this filename flags (w.setDevice this (some {})) = .threw e w') :
    w'.devices this = some {} := by
  rw [createPath_apply (World.setDevice_devices_self _ _ _)] at h
  simp only at h
  split at h
  · cases h
    simp
  · split at h
    · cases h
      simp
    · cases h

/-! ## Moves, `destroy` and the destructor -/

end Device

/-- The actions that create nothing: handles are moved from one object to another, or freed. -/
def DeviceAct.IsTransfer : DeviceAct → Prop
  | .moveConstruct _ _ => True
  | .moveAssign _ _ => True
  | .destroy _ => True
  | .destruct _ => True
  | _ => False

namespace Device

variable {w w' : World σ}

/-- The worlds in which these actions can end. -/
inductive Transferred (P : Platform σ) (w : World σ) : DeviceAct → World σ → Prop where
  /-- An object that is initialised from itself. -/
  | born {d : DeviceId} : w.devices d = none →
      Transferred P w (.moveConstruct d d) (w.setDevice d (some {}))
  | moved {d s : DeviceId} {E : Device} : w.devices d = none → w.devices s = some E →
      Transferred P w (.moveConstruct d s) ((w.setDevice s (some {})).setDevice d (some E))
  | kept {d : DeviceId} {D : Device} : w.devices d = some D →
      Transferred P w (.moveAssign d d) w
  | assigned {d s : DeviceId} {D E : Device} : w.devices d = some D → d ≠ s →
      w.devices s = some E →
      Transferred P w (.moveAssign d s)
        (((w.disposed P D).setDevice s (some {})).setDevice d (some E))
  | emptied {d : DeviceId} {D : Device} : w.devices d = some D →
      Transferred P w (.destroy d) ((w.disposed P D).setDevice d (some {}))
  | died {d : DeviceId} {D : Device} : w.devices d = some D →
      Transferred P w (.destruct d) ((w.disposed P D).setDevice d none)

/-- None of these actions throws. -/
theorem Transferred.returns {a : DeviceAct} (h : Transferred P w a w') :
    a.exec P w = .returned () w' := by
  cases h with
  | born hfree => exact moveConstruct_apply_self hfree
  | moved hfree hE => exact moveConstruct_apply hfree hE
  | kept hD => exact moveAssign_apply_self hD
  | assigned hD hds hE => exact moveAssign_apply hD hds hE
  | emptied hD => exact destroy_apply hD
  | died hD => exact destruct_apply hD

theorem Transferred.step {a : DeviceAct} (h : Transferred P w a w') : deviceStep P w a w' := by
  rw [deviceStep, h.returns, Outcome.after_returned]

theorem transferred_of_step {a : DeviceAct} (ha : a.IsTransfer) (h : deviceStep P w a w') :
    Transferred P w a w' := by
  cases a with
  | moveConstruct d s =>
      cases hD : w.devices d with
      | some D => simp [deviceStep, DeviceAct.exec, moveConstruct, construct_apply_occupied hD] at h
      | none =>
          by_cases hsd : s = d
          · subst hsd
            simp only [deviceStep, DeviceAct.exec, moveConstruct_apply_self hD,
              Outcome.after_returned, Option.some.injEq] at h
            exact h ▸ Transferred.born hD
          · cases hE : w.devices s with
            | none => simp [deviceStep, DeviceAct.exec, moveConstruct_apply_none hsd hE] at h
            | some E =>
                simp only [deviceStep, DeviceAct.exec, moveConstruct_apply hD hE,
                  Outcome.after_returned, Option.some.injEq] at h
                exact h ▸ Transferred.moved hD hE
  | moveAssign d s =>
      cases hD : w.devices d with
      | none => simp [deviceStep, DeviceAct.exec, moveAssign_apply_none hD] at h
      | some D =>
          by_cases hds : d = s
          · subst hds
            simp only [deviceStep, DeviceAct.exec, moveAssign_apply_self hD,
              Outcome.after_returned, Option.some.injEq] at h
            exact h ▸ Transferred.kept hD
          · cases hE : w.devices s with
            | none => simp [deviceStep, DeviceAct.exec, moveAssign_apply_from_none hD hE] at h
            | some E =>
                simp only [deviceStep, DeviceAct.exec, moveAssign_apply hD hds hE,
                  Outcome.after_returned, Option.some.injEq] at h
                exact h ▸ Transferred.assigned hD hds hE
  | destroy d =>
      cases hD : w.devices d with
      | none => simp [deviceStep, DeviceAct.exec, destroy_apply_none hD] at h
      | some D =>
          simp only [deviceStep, DeviceAct.exec, destroy_apply hD, Outcome.after_returned,
            Option.some.injEq] at h
          exact h ▸ Transferred.emptied hD
  | destruct d =>
      cases hD : w.devices d with
      | none => simp [deviceStep, DeviceAct.exec, destruct_apply_none hD] at h
      | some D =>
          simp only [deviceStep, DeviceAct.exec, destruct_apply hD, Outcome.after_returned,
            Option.some.injEq] at h
          exact h ▸ Transferred.died hD
  | _ => exact ha.elim

end Device

/-! ## Invariants of the actions on devices -/

/-- What an invariant `I` has to survive, for the actions that meet `G`. -/
structure DeviceInvariant (P : Platform σ) (G : World σ → DeviceAct → Prop)
    (I : World σ → Prop) : Prop where
  birth : ∀ {w d}, I w → w.devices d = none → I (w.setDevice d (some {}))
  death : ∀ {w d}, I w → w.devices d = some {} → I (w.setDevice d none)
  dispose : ∀ {w d D}, I w → w.devices d = some D → G w (.destroy d) →
    I ((w.disposed P D).setDevice d (some {}))
  give : ∀ {w d s E}, I w → d ≠ s → w.devices d = some {} → w.devices s = some E →
    G w (.destroy s) → I ((w.setDevice s (some {})).setDevice d (some E))
  create : ∀ {w d D w'}, I w → w.devices d = some D → G w (.create d) →
    (Device.create P d w).after = some w' → I w'
  createFd : ∀ {w d D fd w'}, I w → w.devices d = some D → G w (.createFd d fd) →
    (Device.createFd P d fd w).after = some w' → I w'
  createPath : ∀ {w d D filename flags w'}, I w → w.devices d = some D →
    G w (.createPath d filename flags) →
    (Device.createPath P d filename flags w).after = some w' → I w'
  openPath : ∀ {w d D filename flags w'}, I w → w.devices d = some D →
    G w (.openPath d filename flags) →
    (Device.openPath P d filename flags w).after = some w' → I w'
  setFd : ∀ {w d D fd w'}, I w → w.devices d = some D → G w (.setFd d fd) →
    (Device.setFd P d fd w).after = some w' → I w'
  changeFd : ∀ {w d D fd w'}, I w → w.devices d = some D → G w (.changeFd d fd) →
    (Device.changeFd P d fd w).after = some w' → I w'
  /-- A constructor meets the condition when its body does on the new object. -/
  constructDefault : ∀ {w d}, I w → w.devices d = none → G w (.constructDefault d) →
    G (w.setDevice d (some {})) (.create d)
  constructFd : ∀ {w d fd}, I w → w.devices d = none → G w (.constructFd d fd) →
    G (w.setDevice d (some {})) (.createFd d fd)
  constructPath : ∀ {w d filename flags}, I w → w.devices d = none →
    G w (.constructPath d filename flags) →
    G (w.setDevice d (some {})) (.createPath d filename flags)
  /-- A move meets the condition when the objects that lose their values may be destroyed. -/
  moveConstruct : ∀ {w d s}, w.devices d = none → G w (.moveConstruct d s) →
    G (w.setDevice d (some {})) (.destroy s)
  moveAssign : ∀ {w d s D}, d ≠ s → w.devices d = some D → G w (.moveAssign d s) →
    G w (.destroy d) ∧ G ((w.disposed P D).setDevice d (some {})) (.destroy s)
  destruct : ∀ {w d}, G w (.destruct d) → G w (.destroy d)

namespace DeviceInvariant

variable {G : World σ → DeviceAct → Prop} {I : World σ → Prop}

theorem constructEnd (inv : DeviceInvariant P G I) {w w' : World σ} {d : DeviceId}
    {body : Op σ Unit} (hI : I w)
    (hbody : ∀ {w₁}, I (w.setDevice d (some {})) →
      (body (w.setDevice d (some {}))).after = some w₁ → I w₁)
    (h : Device.ConstructEnd w d body w') : I w' := by
  rcases h with ⟨hfree, w₁, hafter, rfl | ⟨hempty, rfl⟩⟩
  · exact hbody (inv.birth hI hfree) hafter
  · exact inv.death (hbody (inv.birth hI hfree) hafter) hempty

/-- Every action that meets the condition keeps the invariant. -/
theorem step (inv : DeviceInvariant P G I) {w w' : World σ} {a : DeviceAct} (hI : I w)
    (hG : G w a) (hstep : deviceStep P w a w') : I w' := by
  cases a with
  | constructInvalid d =>
      rcases Device.after_construct hstep with ⟨hfree, hret | ⟨e, w₁, hthrew, _⟩⟩
      · cases hret
        exact inv.birth hI hfree
      · cases hthrew
  | constructDefault d =>
      have hend := Device.constructEnd_of_after
        (fun _ w₁ h => Device.born_of_create_threw h) hstep
      refine inv.constructEnd hI (fun hI' hafter => ?_) hend
      -- The condition on the constructor is one on `create` in the state after the birth.
      have hG' := inv.constructDefault hI hend.1 hG
      exact inv.create hI' (World.setDevice_devices_self _ _ _) hG' hafter
  | constructFd d fd =>
      have hend := Device.constructEnd_of_after
        (fun _ w₁ h => Device.born_of_createFd_threw h) hstep
      refine inv.constructEnd hI (fun hI' hafter => ?_) hend
      have hG' := inv.constructFd hI hend.1 hG
      exact inv.createFd hI' (World.setDevice_devices_self _ _ _) hG' hafter
  | constructPath d filename flags =>
      have hend := Device.constructEnd_of_after
        (fun _ w₁ h => Device.born_of_createPath_threw h) hstep
      refine inv.constructEnd hI (fun hI' hafter => ?_) hend
      have hG' := inv.constructPath hI hend.1 hG
      exact inv.createPath hI' (World.setDevice_devices_self _ _ _) hG' hafter
  | moveConstruct d s =>
      cases Device.transferred_of_step (a := .moveConstruct d s) trivial hstep with
      | born hD => exact inv.birth hI hD
      | moved hD hE =>
          have hsd : s ≠ d := ne_of_lives_of_free hE hD
          -- The new object is born, and then takes the values.
          have hgive := inv.give (inv.birth hI hD) (Ne.symm hsd) (s := s) (by simp)
            (by simpa [hsd] using hE) (inv.moveConstruct hD hG)
          rw [World.setDevice_comm _ _ (Ne.symm hsd), World.setDevice_setDevice] at hgive
          exact hgive
  | moveAssign d s =>
      cases Device.transferred_of_step (a := .moveAssign d s) trivial hstep with
      | kept _ => exact hI
      | assigned hD hds hE =>
          rcases inv.moveAssign hds hD hG with ⟨hGd, hGs⟩
          -- The target is disposed of first, and then takes the values of the source.
          have hgive := inv.give (inv.dispose hI hD hGd) hds (by simp)
            (by simpa [Ne.symm hds] using hE) hGs
          rw [World.setDevice_comm _ _ hds, World.setDevice_setDevice] at hgive
          exact hgive
  | create d =>
      cases hD : w.devices d with
      | none => simp [deviceStep, DeviceAct.exec, Device.create_apply_none hD] at hstep
      | some D => exact inv.create hI hD hG hstep
  | createFd d fd =>
      cases hD : w.devices d with
      | none => simp [deviceStep, DeviceAct.exec, Device.createFd_apply_none hD] at hstep
      | some D => exact inv.createFd hI hD hG hstep
  | createPath d filename flags =>
      cases hD : w.devices d with
      | none => simp [deviceStep, DeviceAct.exec, Device.createPath_apply_none hD] at hstep
      | some D => exact inv.createPath hI hD hG hstep
  | openPath d filename flags =>
      cases hD : w.devices d with
      | none => simp [deviceStep, DeviceAct.exec, Device.openPath_apply_none hD] at hstep
      | some D => exact inv.openPath hI hD hG hstep
  | setFd d fd =>
      cases hD : w.devices d with
      | none => simp [deviceStep, DeviceAct.exec, Device.setFd_apply_none hD] at hstep
      | some D => exact inv.setFd hI hD hG hstep
  | changeFd d fd =>
      cases hD : w.devices d with
      | none => simp [deviceStep, DeviceAct.exec, Device.changeFd_apply_none hD] at hstep
      | some D => exact inv.changeFd hI hD hG hstep
  | destroy d =>
      cases Device.transferred_of_step (a := .destroy d) trivial hstep with
      | emptied hD => exact inv.dispose hI hD hG
  | destruct d =>
      cases Device.transferred_of_step (a := .destruct d) trivial hstep with
      | died hD =>
          -- The destructor is `destroy`, and then the empty object dies.
          have hdeath := inv.death (inv.dispose hI hD (inv.destruct hG)) (d := d) (by simp)
          rw [World.setDevice_setDevice] at hdeath
          exact hdeath

/-- An invariant that holds at the start holds after every run of the actions that meet the
condition. -/
theorem run (inv : DeviceInvariant P G I) {w₀ w : World σ} {acts : List DeviceAct} (hstart : I w₀)
    (hrun : Run (Guarded G (deviceStep P)) w₀ acts w) : I w :=
  hrun.invariant I hstart fun _ _ _ hI hs => inv.step hI hs.1 hs.2

end DeviceInvariant

end Evdevxx
