import Evdevxx.Device.Lifetime
import Evdevxx.Uinput.Evaluation

/-!
# Lifetime — a block with a new device, and with a `Uinput` made from one

`Cleared` compares the worlds before and after a block: no object of the block is left, of the program
or of the platform.
-/

namespace Evdevxx

variable {σ : Type}

/-- The objects are the same, those of the program and those of libevdev. -/
structure World.Cleared (V : Views σ) (w w' : World σ) : Prop where
  devices : w'.devices = w.devices
  uinputs : w'.uinputs = w.uinputs
  grabbers : w'.grabbers = w.grabbers
  evdevs : V.evdevs w'.env = V.evdevs w.env
  udevs : V.uinputs w'.env = V.uinputs w.env

namespace World

variable {V : Views σ} {w w₁ w₂ : World σ}

theorem Kept.cleared (h : w.Kept V w₁) : w.Cleared V w₁ :=
  ⟨h.devices, h.uinputs, h.grabbers, h.env.2.1, h.env.2.2⟩

theorem Cleared.trans (h : w.Cleared V w₁) (h' : w₁.Cleared V w₂) : w.Cleared V w₂ :=
  ⟨h'.devices.trans h.devices, h'.uinputs.trans h.uinputs, h'.grabbers.trans h.grabbers,
    h'.evdevs.trans h.evdevs, h'.udevs.trans h.udevs⟩

end World

/-! ## A new device -/

namespace Device

variable {P : Platform σ} {V : Views σ} {w w₁ w₂ : World σ} {dev : DeviceId} {h : Handle}

/-- From `w` to `w₁` a device without a descriptor was constructed at `dev`. -/
structure Made (V : Views σ) (w : World σ) (dev : DeviceId) (h : Handle) (w₁ : World σ) : Prop where
  fresh : w.devices dev = none
  devices : w₁.devices = Function.update w.devices dev (some { raw := some h })
  uinputs : w₁.uinputs = w.uinputs
  grabbers : w₁.grabbers = w.grabbers
  notLive : V.evdevs w.env h = none
  evdevs : ∃ v, V.evdevs w₁.env = Function.update (V.evdevs w.env) h (some v)
  udevs : V.uinputs w₁.env = V.uinputs w.env

/-- `Device()` makes a device, or it throws. -/
theorem constructDefault_cases (hdoc : P.Documented V) (hfree : w.devices dev = none) :
    (∃ w₁, constructDefault P dev w =
        .threw (.std (.runtimeError "Could not construct libevdev device.")) w₁) ∨
      ∃ h w₁, constructDefault P dev w = .returned () w₁ ∧ Made V w dev h w₁ := by
  have hlaw := hdoc.libevdevNew w.env
  cases hnew : (P.libevdevNew w.env).1 with
  | none =>
      have hcreate := create_apply (P := P) (World.setDevice_devices_self w dev (some {}))
      rw [World.setDevice_env, hnew, if_pos rfl] at hcreate
      exact Or.inl ⟨_, construct_of_threw hfree hcreate⟩
  | some h =>
      simp only [hnew] at hlaw
      rcases hlaw with ⟨⟨hnotLive, hevdevs⟩, _, hudevs⟩
      exact Or.inr ⟨h, _, constructDefault_apply hfree hnew, hfree, rfl, rfl, rfl, hnotLive,
        ⟨_, hevdevs⟩, hudevs⟩

theorem Made.object (hmade : Made V w dev h w₁) (hcleared : w₁.Cleared V w₂) :
    w₂.devices dev = some { raw := some h } := by
  rw [hcleared.devices, hmade.devices, Function.update_self]

/-- The destructor removes all that was made for the device. -/
theorem Made.destruct (hdoc : P.Documented V) (hmade : Made V w dev h w₁)
    (hcleared : w₁.Cleared V w₂) :
    ∃ w₃, destruct P dev w₂ = .returned () w₃ ∧ w.Cleared V w₃ := by
  rcases hmade.evdevs with ⟨v, hevdevs⟩
  have hlive : V.evdevs w₂.env h = some v := by
    rw [hcleared.evdevs, hevdevs, Function.update_self]
  rcases hdoc.libevdevFree h w₂.env v hlive with ⟨hfree, _, hfreeU⟩
  refine ⟨_, destruct_apply (hmade.object hcleared), ?_⟩
  simp only [World.disposed, World.freed, World.closed_of_none]
  refine ⟨?_, ?_, ?_, ?_, ?_⟩
  · show Function.update w₂.devices dev none = w.devices
    rw [hcleared.devices, hmade.devices, Function.update_idem, ← hmade.fresh,
      Function.update_eq_self]
  · exact hcleared.uinputs.trans hmade.uinputs
  · exact hcleared.grabbers.trans hmade.grabbers
  · refine hfree.trans ?_
    rw [hcleared.evdevs, hevdevs, Function.update_idem, ← hmade.notLive, Function.update_eq_self]
  · exact hfreeU.trans (hcleared.udevs.trans hmade.udevs)

end Device

/-! ## A `Uinput` made from a device -/

namespace Uinput

variable {P : Platform σ} {V : Views σ} {w w₁ w₂ : World σ} {u : UinputId} {p : UinputHandle}
variable {dev : DeviceId} {D : Device} {h : Handle}

/-- From `w` to `w₁` a `Uinput` was constructed at `u`. -/
structure Made (V : Views σ) (w : World σ) (u : UinputId) (p : UinputHandle) (w₁ : World σ) :
    Prop where
  fresh : w.uinputs u = none
  devices : w₁.devices = w.devices
  uinputs : w₁.uinputs = Function.update w.uinputs u (some { raw := some p })
  grabbers : w₁.grabbers = w.grabbers
  evdevs : V.evdevs w₁.env = V.evdevs w.env
  notLive : V.uinputs w.env p = false
  udevs : V.uinputs w₁.env = Function.update (V.uinputs w.env) p true

/-- `Uinput(dev, fd)` makes a `Uinput` from a valid device, or it throws and nothing is left of it. -/
theorem constructFrom_cases (hdoc : P.Documented V) (hfree : w.uinputs u = none)
    (hD : w.devices dev = some D) (hraw : D.raw = some h) (fd : Fd) :
    (∃ ret w₁, ret < 0 ∧ constructFrom P u dev fd w = .threw (.std (.systemError (-ret)
        (some "from libevdev_uinput_create_from_device()"))) w₁ ∧ w.Cleared V w₁) ∨
      ∃ p w₁, constructFrom P u dev fd w = .returned () w₁ ∧ Made V w u p w₁ := by
  have hborn : (w.setUinput u (some {})).uinputs u = some {} := World.setUinput_uinputs_self _ _ _
  have hD' : (w.setUinput u (some {})).devices dev = some D := hD
  have hcreate := create_apply (P := P) hborn hD' hraw fd
  rcases hdoc.libevdevUinputCreateFromDevice h fd w.env with ⟨hfail, hok, hevdevs⟩
  by_cases hneg : (P.libevdevUinputCreateFromDevice h fd w.env).1.1 < 0
  · rw [World.setUinput_env, if_pos hneg] at hcreate
    refine Or.inl ⟨_, _, hneg, Memory.construct_of_threw hfree hcreate, rfl, ?_, rfl, hevdevs, hfail hneg⟩
    show Function.update (Function.update w.uinputs u (some {})) u none = w.uinputs
    rw [Function.update_idem, ← hfree, Function.update_eq_self]
  · rw [World.setUinput_env, if_neg hneg] at hcreate
    rcases hok (Int.not_lt.1 hneg) with ⟨p, hdev, hnotLive, hudevs⟩
    refine Or.inr ⟨p, _, construct_of_returned hfree hcreate, hfree, rfl, ?_, rfl, hevdevs, hnotLive,
      hudevs⟩
    rw [hdev]
    exact Function.update_idem ..

theorem Made.object (hmade : Made V w u p w₁) (hkept : w₁.Kept V w₂) :
    w₂.uinputs u = some { raw := some p } := by
  rw [hkept.uinputs, hmade.uinputs, Function.update_self]

/-- The destructor removes all that was made for the `Uinput`. -/
theorem Made.destruct (hdoc : P.Documented V) (hmade : Made V w u p w₁) (hkept : w₁.Kept V w₂) :
    ∃ w₃, destruct P u w₂ = .returned () w₃ ∧ w.Cleared V w₃ := by
  rcases hdoc.libevdevUinputDestroy p w₂.env with ⟨hudevs, hevdevs⟩
  refine ⟨_, destruct_apply (hmade.object hkept), ?_, ?_, ?_, ?_, ?_⟩
  · exact hkept.devices.trans hmade.devices
  · show Function.update w₂.uinputs u none = w.uinputs
    rw [hkept.uinputs, hmade.uinputs, Function.update_idem, ← hmade.fresh, Function.update_eq_self]
  · exact hkept.grabbers.trans hmade.grabbers
  · exact hevdevs.trans (hkept.env.2.1.trans hmade.evdevs)
  · refine hudevs.trans ?_
    rw [hkept.env.2.2, hmade.udevs, Function.update_idem, ← hmade.notLive, Function.update_eq_self]

end Uinput

end Evdevxx
