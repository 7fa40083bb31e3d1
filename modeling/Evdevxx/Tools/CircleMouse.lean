import Evdevxx.Device.Enabling
import Evdevxx.Model.CircleMouse
import Evdevxx.Uinput.Injection
import Evdevxx.Uinput.Lifetime

/-!
# CircleMouse — what the example program writes

The program writes a hundred frames, each of two movements and a report, to a `Uinput` that was made
from a device with these codes; or it stops at the first event that is refused.
-/

namespace Evdevxx

/-- The documented behaviour of what the program asks: enabling a code keeps the codes that are enabled,
the three codes exist, and no call creates or frees an object. -/
structure Drawing.Documented {σ : Type} (G : Drawing σ) (Q : Capabilities σ) (V : Views σ) : Prop where
  enabling : G.enabling.Documented Q G.names
  keeps : ∀ h type code data type' code' s, Q.libevdevHasEventCode h type' code' s = true →
    Q.libevdevHasEventCode h type' code'
      (G.enabling.libevdevEnableEventCode h type code data s).2 = true
  relMax : 1 ≤ G.names.eventTypeGetMax EventType.rel.value.toUInt32
  keyMax : 0x110 ≤ G.names.eventTypeGetMax EventType.key.value.toUInt32
  sameEnable : ∀ h type code data s,
    V.Same s (G.enabling.libevdevEnableEventCode h type code data s).2
  sameSetName : ∀ h name s, V.Same s (G.libevdevSetName h name s)
  sameWrite : ∀ udev type code value s,
    V.Same s (G.injection.libevdevUinputWriteEvent udev type code value s).2
  sameSleep : ∀ s, V.Same s (G.sleepFor s)

namespace CircleMouse

variable {σ : Type} {P : Platform σ} {V : Views σ} {Q : Capabilities σ} {G : Drawing σ}
variable {point : Nat → Int32 × Int32} {dev : DeviceId} {udev : UinputId} {w w₁ w₂ : World σ}
variable {D : Device} {h : Handle} {p : UinputHandle}

/-- The events of one step. -/
def frame (p : UinputHandle) (point : Nat → Int32 × Int32) (i : Nat) : List Posted :=
  [posted p .rel relX (point i).1, posted p .rel relY (point i).2, posted p .syn synReport 0]

/-- The events of the program. -/
def circle (p : UinputHandle) (point : Nat → Int32 × Int32) : List Posted :=
  (List.range 100).flatMap (frame p point)

/-- The text of the program. -/
def text (path : Text) : Text :=
  "Created uinput device at ".toList ++ (quoted path ++ ['\n']) ++ "Doing a circle... ".toList ++
    "done.\n".toList

/-! ## The device -/

/-- The device has the codes that the program writes. -/
structure Ready (Q : Capabilities σ) (w : World σ) (dev : DeviceId) : Prop where
  relX : Device.HasCode Q w dev .rel relX
  relY : Device.HasCode Q w dev .rel relY
  btnLeft : Device.HasCode Q w dev .key btnLeft

theorem setName_apply (hG : G.Documented Q V) (hD : w.devices dev = some D) (hraw : D.raw = some h)
    (name : Text) :
    ∃ s, Device.setName G.libevdevSetName dev name w = .returned () (w.withEnv s) ∧ V.Same w.env s := by
  refine ⟨G.libevdevSetName h (cString name) w.env, Prog.noexcept_of_returned ?_,
    hG.sameSetName h (cString name) w.env⟩
  simp only [Device.command, Prog.bind_apply, Device.load_apply hD, hraw, deref_some_apply,
    Outcome.returned_andThen]
  rfl

/-- A code in range is enabled, and what was enabled stays so. -/
theorem enableCode_apply (hG : G.Documented Q V) (hD : w.devices dev = some D)
    (hraw : D.raw = some h) (type : EventType) (code : Code) (hgeneric : type ≠ .abs ∧ type ≠ .rep)
    (hrange : (code.value.toNat : Int) ≤ G.names.eventTypeGetMax type.value.toUInt32) :
    ∃ s, Device.enableCode G.enabling G.names dev type code w = .returned () (w.withEnv s) ∧
      V.Same w.env s ∧
      Q.libevdevHasEventCode h type.value.toUInt32 code.value.toUInt32 s = true ∧
      ∀ t c, Q.libevdevHasEventCode h t c w.env = true → Q.libevdevHasEventCode h t c s = true := by
  have hnot : ¬ (type = .abs ∨ type = .rep) := fun hor => hor.elim hgeneric.1 hgeneric.2
  rcases hG.enabling.accepted h type code none w.env ⟨hrange, by simp [hnot]⟩ with
    ⟨s, hcall, _, hcode, _⟩
  have hret : Op.libevdevEnableEventCode G.enabling h type code none w =
      .returned 0 (w.withEnv s) := by
    rw [Op.libevdevEnableEventCode, hcall]
  have hsame := hG.sameEnable h type.value.toUInt32 code.value.toUInt32 none w.env
  have hkeeps := hG.keeps h type.value.toUInt32 code.value.toUInt32 none (s := w.env)
  rw [hcall] at hsame hkeeps
  refine ⟨s, ?_, hsame, hcode, fun t c => hkeeps t c⟩
  rw [Device.enableCode, if_neg hnot]
  simp [Device.enableEventCode, hD, hraw, hret]

/-- The set-up does not throw, and the device then has the three codes. -/
theorem setUp_apply (hG : G.Documented Q V) (hD : w.devices dev = some D) (hraw : D.raw = some h) :
    ∃ s, setUp G dev w = .returned () (w.withEnv s) ∧ V.Same w.env s ∧
      Ready Q (w.withEnv s) dev := by
  rcases setName_apply hG hD hraw "Fake Mouse".toList with ⟨s₁, hname, hsame₁⟩
  have hD₁ : (w.withEnv s₁).devices dev = some D := hD
  rcases enableCode_apply hG hD₁ hraw .rel relX (by decide)
    (Int.le_trans (by decide) hG.relMax) with ⟨s₂, hrelX, hsame₂, hx, _⟩
  have hD₂ : (w.withEnv s₂).devices dev = some D := hD
  rcases enableCode_apply hG hD₂ hraw .rel relY (by decide)
    (Int.le_trans (by decide) hG.relMax) with ⟨s₃, hrelY, hsame₃, hy, hkept₃⟩
  have hD₃ : (w.withEnv s₃).devices dev = some D := hD
  rcases enableCode_apply hG hD₃ hraw .key btnLeft (by decide)
    (Int.le_trans (by decide) hG.keyMax) with ⟨s₄, hkey, hsame₄, hb, hkept₄⟩
  have hD₄ : (w.withEnv s₄).devices dev = some D := hD
  rw [World.withEnv_withEnv] at hrelX hrelY hkey
  refine ⟨s₄, ?_, ?_, (Device.hasCode_iff _ _ hD₄ hraw).2 (hkept₄ _ _ (hkept₃ _ _ hx)),
    (Device.hasCode_iff _ _ hD₄ hraw).2 (hkept₄ _ _ hy), (Device.hasCode_iff _ _ hD₄ hraw).2 hb⟩
  · simp only [setUp, Prog.bind_apply, hname, Outcome.returned_andThen, Device.enableRel, hrelX,
      hrelY, Device.enableKey, hkey]
  · exact ((World.Kept.withEnv (w := w) hsame₁).trans ((World.Kept.withEnv hsame₂).trans
      ((World.Kept.withEnv hsame₃).trans (World.Kept.withEnv hsame₄)))).env

/-! ## The circle -/

theorem drawPoint_delivers (point : Nat → Int32 × Int32) (hG : G.Documented Q V) {U : Uinput}
    (hU : w.uinputs udev = some U) (hraw : U.raw = some p) (i : Nat) :
    Prog.Delivers emissions (fun w' => w.Kept V w') (drawPoint G point udev i) (frame p point i) := by
  have hvalid : ∀ w', w.Kept V w' → ∃ U, w'.uinputs udev = some U ∧ U.raw = some p :=
    fun w' hkept => ⟨U, hkept.uinputs ▸ hU, hraw⟩
  have hkept : ∀ w' type code value, w.Kept V w' →
      w.Kept V (w'.withEnv (G.injection.libevdevUinputWriteEvent p type code value w'.env).2) :=
    fun w' type code value hkept => hkept.trans (World.Kept.withEnv (hG.sameWrite p type code value _))
  refine (Uinput.write_delivers hvalid hkept .rel relX _).bind
    ((Uinput.write_delivers hvalid hkept .rel relY _).bind
      ((Uinput.write_delivers hvalid hkept .syn synReport 0).bind (Prog.delivers_onFst fun w' hw' => ?_)))
  exact ⟨_, rfl, hw'.trans (World.Kept.withEnv (hG.sameSleep _))⟩

theorem out_apply (t : Text) (s : (World σ × List Emission) × Text) :
    out t s = .returned () (s.1, s.2 ++ t) := rfl

/-- With a valid `Uinput`, the program writes the circle, or it stops. -/
theorem draw_ends (hG : G.Documented Q V) {U : Uinput} (hU : w.uinputs udev = some U)
    (hraw : U.raw = some p) :
    (draw G point udev).Ends False
      (fun code t => w.Kept V t.1.1 ∧ code = 0 ∧ emissions.Complete (circle p point) t.1.2 ∧
        ∃ path, t.2 = text path)
      (fun e t => w.Kept V t.1.1 ∧
        (e = .std (.runtimeError "No devnode for this uinput device.") ∧ t.1.2 = [] ∨
          emissions.Stopped (circle p point) e t.1.2)) ((w, []), []) := by
  have hdelivers := Prog.delivers_forEach (drawPoint_delivers point hG hU hraw)
    (List.range 100) w [] (World.Kept.refl V w)
  refine Prog.ends_bind.2 (Prog.ends_of_returned (out_apply _ _) ?_)
  refine Prog.ends_bind.2 (Prog.ends_onFst.2 (Prog.ends_onFst.2 ?_))
  have hnode := Uinput.required_apply
    (Uinput.query_apply hU hraw G.injection.libevdevUinputGetDevnode)
    "No devnode for this uinput device."
  cases hpath : G.injection.libevdevUinputGetDevnode p w.env with
  | none =>
      rw [hpath] at hnode
      exact Prog.ends_of_threw hnode ⟨World.Kept.refl V w, Or.inl ⟨rfl, rfl⟩⟩
  | some path =>
      rw [hpath] at hnode
      refine Prog.ends_of_returned hnode ?_
      refine Prog.ends_bind.2 (Prog.ends_of_returned (out_apply _ _) ?_)
      refine Prog.ends_bind.2 (Prog.ends_of_returned (out_apply _ _) ?_)
      refine Prog.ends_bind.2 (Prog.ends_onFst.2 (hdelivers.mono ?_ ?_))
      · rintro _ ⟨w', _⟩ ⟨hkept, calls, rfl, hcomplete⟩
        refine Prog.ends_bind.2 (Prog.ends_of_returned (out_apply _ _) ?_)
        exact ⟨hkept, rfl, hcomplete, path, rfl⟩
      · rintro e ⟨w', _⟩ ⟨hkept, calls, rfl, hstopped⟩
        exact ⟨hkept, Or.inr hstopped⟩

/-- An error before the first event. -/
inductive NotStarted : Exn → Prop where
  | device : NotStarted (.std (.runtimeError "Could not construct libevdev device."))
  | uinput (ret : Int) : ret < 0 → NotStarted (.std (.systemError (-ret)
      (some "from libevdev_uinput_create_from_device()")))
  | devnode : NotStarted (.std (.runtimeError "No devnode for this uinput device."))

/-- What the program has done when it ends with the code 0: it has written the circle to a `Uinput`
that was made in `w₁`, from a device with the codes of all its events. -/
def Drawn (P : Platform σ) (V : Views σ) (Q : Capabilities σ) (point : Nat → Int32 × Int32)
    (dev : DeviceId) (udev : UinputId) (w₁ : World σ) (code : Int) (calls : List Emission)
    (cout : Text) : Prop :=
  code = 0 ∧ (∃ path, cout = text path) ∧ Ready Q w₁ dev ∧
    ∃ p w₂, Uinput.constructFrom P udev dev uinputOpenManaged w₁ = .returned () w₂ ∧
      Uinput.Made V w₁ udev p w₂ ∧ emissions.Complete (circle p point) calls

/-- How an exception ends the program: before the first event, or at one that is refused. -/
def Failed (point : Nat → Int32 × Int32) (e : Exn) (calls : List Emission) : Prop :=
  NotStarted e ∧ calls = [] ∨ ∃ p, emissions.Stopped (circle p point) e calls

theorem session_ends (hdoc : P.Documented V) (hG : G.Documented Q V) (hD : w.devices dev = some D)
    (hraw : D.raw = some h) (hudev : w.uinputs udev = none) (hready : Ready Q w dev) :
    (session P G point dev udev).Ends False
      (fun code t => w.Cleared V t.1.1 ∧ Drawn P V Q point dev udev w code t.1.2 t.2)
      (fun e t => w.Cleared V t.1.1 ∧ Failed point e t.1.2) ((w, []), []) := by
  refine Prog.ends_bind.2 (Prog.ends_onFst.2 (Prog.ends_onFst.2 ?_))
  rcases Uinput.constructFrom_cases hdoc hudev hD hraw uinputOpenManaged with
    ⟨ret, w₁, hneg, hcons, hcleared⟩ | ⟨p, w₁, hcons, hmade⟩
  · exact Prog.ends_of_threw hcons ⟨hcleared, Or.inl ⟨.uinput ret hneg, rfl⟩⟩
  refine Prog.ends_of_returned hcons (Prog.ends_andFinally.2 ?_)
  have hU := hmade.object (World.Kept.refl V w₁)
  refine (draw_ends hG hU rfl).mono ?_ ?_
  · rintro code t ⟨hkept, rfl, hcomplete, hpath⟩
    rcases hmade.destruct hdoc hkept with ⟨w₃, hdtor, hcleared⟩
    refine Prog.ends_onFst.2 (Prog.ends_onFst.2 (Prog.ends_of_returned hdtor ⟨hcleared, ?_⟩))
    exact ⟨rfl, hpath, hready, p, w₁, hcons, hmade, hcomplete⟩
  · rintro e t ⟨hkept, hend⟩
    rcases hmade.destruct hdoc hkept with ⟨w₃, hdtor, hcleared⟩
    refine Prog.ends_onFst.2 (Prog.ends_onFst.2 (Prog.ends_of_returned hdtor ⟨hcleared, ?_⟩))
    rcases hend with ⟨rfl, hnone⟩ | hstopped
    · exact Or.inl ⟨.devnode, hnone⟩
    · exact Or.inr ⟨p, hstopped⟩

/-- The whole program: it draws the circle and nothing is left of its objects, or an exception ends it
before the first event or at the first one that is refused. -/
theorem main_draws (hdoc : P.Documented V) (hG : G.Documented Q V) (hdev : w.devices dev = none)
    (hudev : w.uinputs udev = none) (point : Nat → Int32 × Int32) :
    (main P G point dev udev).Ends False
      (fun code t => w.Cleared V t.1.1 ∧ ∃ w₁, Drawn P V Q point dev udev w₁ code t.1.2 t.2)
      (fun e t => Failed point e t.1.2) ((w, []), []) := by
  refine Prog.ends_bind.2 (Prog.ends_onFst.2 (Prog.ends_onFst.2 ?_))
  rcases Device.constructDefault_cases hdoc hdev with ⟨w₁, hcons⟩ | ⟨h, w₁, hcons, hmade⟩
  · exact Prog.ends_of_threw hcons (Or.inl ⟨.device, rfl⟩)
  refine Prog.ends_of_returned hcons (Prog.ends_andFinally.2 ?_)
  have hD := hmade.object (World.Kept.refl V w₁).cleared
  rcases setUp_apply hG hD rfl with ⟨s, hsetUp, hsame, hready⟩
  have hkept : w₁.Kept V (w₁.withEnv s) := World.Kept.withEnv hsame
  refine Prog.ends_bind.2 (Prog.ends_onFst.2 (Prog.ends_onFst.2 (Prog.ends_of_returned hsetUp ?_)))
  have hfree : (w₁.withEnv s).uinputs udev = none := by
    rw [World.withEnv_uinputs, hmade.uinputs]
    exact hudev
  refine (session_ends hdoc hG (w := w₁.withEnv s) hD rfl hfree hready).mono ?_ ?_
  · rintro code t ⟨hcleared, hdrawn⟩
    rcases hmade.destruct hdoc (hkept.cleared.trans hcleared) with ⟨w₃, hdtor, hback⟩
    exact Prog.ends_onFst.2 (Prog.ends_onFst.2 (Prog.ends_of_returned hdtor ⟨hback, _, hdrawn⟩))
  · rintro e t ⟨hcleared, hfailed⟩
    rcases hmade.destruct hdoc (hkept.cleared.trans hcleared) with ⟨w₃, hdtor, _⟩
    exact Prog.ends_onFst.2 (Prog.ends_onFst.2 (Prog.ends_of_returned hdtor hfailed))

theorem documented_mouse : mouse.Documented capabilities views where
  enabling :=
    { accepted := by
        intro h type code data s haccepts
        rcases EnabledBits.documented.accepted h type code data s.1.2 haccepts with
          ⟨s', hcall, htype, hcode, hothers⟩
        exact ⟨((s.1.1, s'), s.2), by simp [mouse, hcall], htype, hcode, hothers⟩
      refused := fun h type code data s => EnabledBits.documented.refused h type code data s.1.2 }
  keeps := by
    intro h type code data type' code' s hhas
    have hbit : type' = 0 ∨ (type', code') ∈ s.1.2.2 := of_decide_eq_true hhas
    refine decide_eq_true ?_
    by_cases hacc : (code.toNat : Int) ≤ EnabledBits.tables.eventTypeGetMax type ∧
        (data ≠ none ↔ type = 3 ∨ type = 0x14)
    · simpa [mouse, EnabledBits.enabling, hacc] using hbit.imp_right Or.inr
    · simpa [mouse, EnabledBits.enabling, hacc] using hbit
  relMax := by decide
  keyMax := by decide
  sameEnable := fun _ _ _ _ _ => ⟨rfl, rfl, rfl⟩
  sameSetName := fun _ _ _ => ⟨rfl, rfl, rfl⟩
  sameWrite := by
    rintro udev type code value ⟨s, n⟩
    cases n with
    | zero => exact ⟨rfl, rfl, rfl⟩
    | succ n => exact ⟨rfl, rfl, rfl⟩
  sameSleep := fun _ => ⟨rfl, rfl, rfl⟩

/-- A mouse that takes four events, of the 300 of the circle. -/
theorem main_draws_unplugged :
    (main platform mouse (fun _ => (1, 2)) 0 0).Ends False
      (fun code t => plugged.Cleared views t.1.1 ∧
        ∃ w₁, Drawn platform views capabilities (fun _ => (1, 2)) 0 0 w₁ code t.1.2 t.2)
      (fun e t => Failed (fun _ => (1, 2)) e t.1.2) ((plugged, []), []) := by
  have hdev : plugged.devices 0 = none := by unfold plugged; rfl
  have hudev : plugged.uinputs 0 = none := by unfold plugged; rfl
  exact main_draws ((Script.documented.beside EnabledBits.Bits).beside Nat) documented_mouse hdev hudev
    (fun _ => (1, 2))

end CircleMouse

end Evdevxx
