import Evdevxx.Model.Describing
import Evdevxx.Ownership.Facets

/-!
# Describing — what was set last is read

The description of a device is a lawful facet, and so it is one value that sees the calls on the device
in their order.  Each attribute of it is a register: a call that asks for it is answered by the last
call that has set it.
-/

namespace Evdevxx

variable {σ : Type} {P : Platform σ} {V : Views σ} {B : Describing σ} {view : σ → Handle → Description}

/-- A number of 16 bits goes to libevdev and back as it is. -/
theorem uint16_ofInt_toNat (n : UInt16) : UInt16.ofInt (n.toNat : Int) = n := by
  have hmod : ((n.toNat : Int) % 2 ^ 16).toNat = n.toNat := by
    have hlt := n.toNat_lt
    omega
  rw [UInt16.ofInt, hmod, UInt16.ofNat_toNat]

namespace DescriptionOp

variable {w : World σ} {op : DescriptionOp} {dev : DeviceId} {D : Device} {h : Handle}

/-! ## The facet -/

/-- A call that reads something off the description. -/
theorem does_read {β : Type} {p : Op σ β} {b : β} {f : β → DescriptionAnswer} (hp : p w = .returned b w)
    (hexec : op.exec B = do return f (← p))
    (hon : op.onDescription (view w.env h) = (.ok (f b), view w.env h)) :
    B.facet.Does V view w op h := by
  have hon' : B.facet.on (view w.env h) op = (.ok (f b), view w.env h) := hon
  have hexec' : B.facet.exec op = do return f (← p) := hexec
  refine Facet.does_of_read ?_ (by rw [hon'])
  rw [hon', hexec', Prog.bind_apply, hp]
  rfl

theorem does_getNumber (hB : B.Documented V view) (field : NumberField)
    (hD : w.devices dev = some D) (hraw : D.raw = some h) :
    B.facet.Does V view w (getNumber field dev) h := by
  have hquery : ∀ (ask : Handle → σ → Int) (n : UInt16), ask h w.env = (n.toNat : Int) →
      Prog.noexcept (Device.query dev fun h s => UInt16.ofInt (ask h s)) w = .returned n w := by
    intro ask n hask
    rw [Device.noexcept_query_apply hD hraw, hask, uint16_ofInt_toNat]
  cases field with
  | product => exact does_read (hquery _ _ (hB.getProduct h w.env)) rfl rfl
  | vendor => exact does_read (hquery _ _ (hB.getVendor h w.env)) rfl rfl
  | bustype => exact does_read (hquery _ _ (hB.getBustype h w.env)) rfl rfl
  | version => exact does_read (hquery _ _ (hB.getVersion h w.env)) rfl rfl

theorem does_setNumber (hB : B.Documented V view) (field : NumberField) (n : UInt16)
    (hD : w.devices dev = some D) (hraw : D.raw = some h) :
    B.facet.Does V view w (setNumber field dev n) h := by
  have hwrites : ∀ {s : σ} (f : UInt16 → Description),
      V.Writes view h (f (UInt16.ofInt (n.toNat : Int))) w.env s → V.Writes view h (f n) w.env s := by
    intro s f hw
    rw [uint16_ofInt_toNat] at hw
    exact hw
  cases field with
  | product =>
      exact Facet.does_of_command hD hraw rfl rfl
        (hwrites (fun n => { view w.env h with product := n }) (hB.setProduct h n.toNat w.env))
  | vendor =>
      exact Facet.does_of_command hD hraw rfl rfl
        (hwrites (fun n => { view w.env h with vendor := n }) (hB.setVendor h n.toNat w.env))
  | bustype =>
      exact Facet.does_of_command hD hraw rfl rfl
        (hwrites (fun n => { view w.env h with bustype := n }) (hB.setBustype h n.toNat w.env))
  | version =>
      exact Facet.does_of_command hD hraw rfl rfl
        (hwrites (fun n => { view w.env h with version := n }) (hB.setVersion h n.toNat w.env))

theorem does_getText (hB : B.Documented V view) (field : TextField) (hD : w.devices dev = some D)
    (hraw : D.raw = some h) : B.facet.Does V view w (getText field dev) h := by
  cases field with
  | phys =>
      refine does_read (Device.query_apply hD hraw _) rfl ?_
      rw [hB.getPhys]
      rfl
  | uniq =>
      refine does_read (Device.query_apply hD hraw _) rfl ?_
      rw [hB.getUniq]
      rfl

theorem does_setText (hB : B.Documented V view) (field : TextField) (text : Text)
    (hD : w.devices dev = some D) (hraw : D.raw = some h) :
    B.facet.Does V view w (setText field dev text) h := by
  cases field with
  | phys => exact Facet.does_of_command hD hraw rfl rfl (hB.setPhys h (cString text) w.env)
  | uniq => exact Facet.does_of_command hD hraw rfl rfl (hB.setUniq h (cString text) w.env)

/-- `enable(Property)` and `disable(Property)` -/
theorem does_property {what : String} {call : Handle → σ → Int × σ} {r : Description} {p : Prop}
    [Decidable p] (hD : w.devices op.dev = some D) (hraw : D.raw = some h)
    (hexec : op.exec B = do
      Device.require op.dev what call
      return .done)
    (hon : op.onDescription (view w.env h) =
      if p then (.ok .done, r) else (.error (.std (.runtimeError what)), view w.env h))
    (hdone : p → (call h w.env).1 = 0 ∧ V.Writes view h r w.env (call h w.env).2)
    (hrefused : ¬ p → (call h w.env).1 ≠ 0 ∧ V.Writes view h (view w.env h) w.env (call h w.env).2) :
    B.facet.Does V view w op h := by
  by_cases hp : p
  · have hon' : B.facet.on (view w.env h) op = (.ok .done, r) := hon.trans (if_pos hp)
    refine Facet.does_of_require hD hraw hexec ?_ (by rw [hon']; exact (hdone hp).2)
    rw [hon']
    exact (if_neg (not_not.2 (hdone hp).1)).symm
  · have hon' : B.facet.on (view w.env h) op =
        (.error (.std (.runtimeError what)), view w.env h) := hon.trans (if_neg hp)
    refine Facet.does_of_require hD hraw hexec ?_ (by rw [hon']; exact (hrefused hp).2)
    rw [hon']
    exact (if_pos (hrefused hp).1).symm

theorem exec_of_not_valid (hnot : ¬ Device.Valid w op.dev) : op.exec B w = .undefined := by
  have hget : ∀ {β : Type} (ask : Handle → σ → β) (f : β → DescriptionAnswer),
      (do return f (← Prog.noexcept (Device.query op.dev ask)) : Op σ DescriptionAnswer) w =
        .undefined := fun ask _ =>
    Device.bind_of_undefined
      (Device.noexcept_of_undefined (Device.query_of_not_valid hnot ask)) _
  have hask : ∀ {β : Type} (ask : Handle → σ → β) (f : β → DescriptionAnswer),
      (do return f (← Device.query op.dev ask) : Op σ DescriptionAnswer) w = .undefined :=
    fun ask _ => Device.bind_of_undefined (Device.query_of_not_valid hnot ask) _
  have hset : ∀ tell : Handle → σ → σ, (do
      Prog.noexcept (Device.command op.dev tell)
      return DescriptionAnswer.done : Op σ DescriptionAnswer) w = .undefined := fun tell =>
    Device.bind_of_undefined
      (Device.noexcept_of_undefined (Device.command_of_not_valid hnot tell)) _
  have hrequire : ∀ (what : String) (call : Handle → σ → Int × σ), (do
      Device.require op.dev what call
      return DescriptionAnswer.done : Op σ DescriptionAnswer) w = .undefined := fun what call =>
    Device.bind_of_undefined (Device.require_of_not_valid hnot what call) _
  cases op with
  | getName dev => exact hask _ _
  | setName dev name => exact hset _
  | getText field dev => cases field <;> exact hask _ _
  | setText field dev text => cases field <;> exact hset _
  | getNumber field dev => cases field <;> exact hget _ _
  | setNumber field dev n => cases field <;> exact hset _
  | getDriverVersion dev => exact hget _ _
  | has dev prop => exact hget _ _
  | enable dev prop => exact hrequire _ _
  | disable dev prop => exact hrequire _ _

theorem lawful (hB : B.Documented V view) : B.facet.Lawful V view where
  does := by
    intro w op D h hD hraw
    cases op with
    | getName dev =>
        refine does_read (Device.query_apply hD hraw _) rfl ?_
        rw [hB.getName]
        rfl
    | setName dev name =>
        exact Facet.does_of_command hD hraw rfl rfl (hB.setName h (cString name) w.env)
    | getText field dev => exact does_getText hB field hD hraw
    | setText field dev text => exact does_setText hB field text hD hraw
    | getNumber field dev => exact does_getNumber hB field hD hraw
    | setNumber field dev n => exact does_setNumber hB field n hD hraw
    | getDriverVersion dev =>
        refine does_read (Device.noexcept_query_apply hD hraw _) rfl ?_
        rw [hB.getDriverVersion]
        rfl
    | has dev prop =>
        refine does_read (Device.noexcept_query_apply hD hraw _) rfl ?_
        rw [hB.hasProperty]
        rfl
    | enable dev prop =>
        exact does_property hD hraw rfl rfl (hB.enable h prop.value w.env)
          (hB.notEnabled h prop.value w.env)
    | disable dev prop =>
        exact does_property hD hraw rfl rfl (hB.disable h prop.value w.env)
          (hB.notDisabled h prop.value w.env)
  undefined := fun hnot => exec_of_not_valid hnot

end DescriptionOp

/-! ## Attributes -/

namespace Attribute

variable (a : Attribute) (r : Description)

end Attribute

namespace DescriptionOp

end DescriptionOp

/-! ## Runs -/

namespace Labelled

theorem writes_change (f : Description → Description) (h : Handle) (s : Script × Labels) :
    views.Writes labels h (f (labels s h)) s (change f h s) :=
  ⟨rfl, rfl, rfl, rfl⟩

theorem changeProperty_done {p : UInt32} (hmax : p ≤ inputPropMax) (b : Bool) (h : Handle)
    (s : Script × Labels) : (changeProperty b h p s).1 = 0 ∧
      views.Writes labels h
        { labels s h with properties := Function.update (labels s h).properties p b } s
        (changeProperty b h p s).2 := by
  rw [changeProperty, if_pos hmax]
  exact ⟨rfl, writes_change _ h s⟩

theorem changeProperty_refused {p : UInt32} (hmax : ¬ p ≤ inputPropMax) (b : Bool) (h : Handle)
    (s : Script × Labels) : (changeProperty b h p s).1 ≠ 0 ∧
      views.Writes labels h (labels s h) s (changeProperty b h p s).2 := by
  rw [changeProperty, if_neg hmax]
  exact ⟨show (-1 : Int) ≠ 0 by decide, Views.Writes.nothing views labels h s⟩

theorem documented : describing.Documented views labels where
  getName := fun _ _ => rfl
  getPhys := fun _ _ => rfl
  getUniq := fun _ _ => rfl
  getProduct := fun _ _ => rfl
  getVendor := fun _ _ => rfl
  getBustype := fun _ _ => rfl
  getVersion := fun _ _ => rfl
  getDriverVersion := fun _ _ => rfl
  hasProperty := fun _ _ _ => rfl
  setName := fun h _ s => writes_change _ h s
  setPhys := fun h _ s => writes_change _ h s
  setUniq := fun h _ s => writes_change _ h s
  setProduct := fun h _ s => writes_change _ h s
  setVendor := fun h _ s => writes_change _ h s
  setBustype := fun h _ s => writes_change _ h s
  setVersion := fun h _ s => writes_change _ h s
  enable := fun h _ s hmax => changeProperty_done hmax true h s
  notEnabled := fun h _ s hmax => changeProperty_refused hmax true h s
  disable := fun h _ s hmax => changeProperty_done hmax false h s
  notDisabled := fun h _ s hmax => changeProperty_refused hmax false h s

theorem frames : platform.OwnFrames views labels :=
  Script.platform.ownFrames_beside Script.views fun s : Labels => s

end Labelled

end Evdevxx
