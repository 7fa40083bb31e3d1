import Evdevxx.Model.Axes
import Evdevxx.Ownership.Facets

/-!
# Axes — the axes of a device are stored in a table

The axes are a lawful facet: every call about them does to the table of its device what
`AxisOp.onTable` says.  The library reads the tables of libevdev with codes for keys and its own
records for entries, and that commutes with every change of a table.
-/

namespace Evdevxx

variable {σ : Type} {P : Platform σ} {V : Views σ} {A : Axes σ} {T : NameTables} {view : AxisView σ}

theorem Code.toUInt32_injective : Function.Injective fun c : Code => c.value.toUInt32 := by
  rintro ⟨⟨v⟩⟩ ⟨⟨v'⟩⟩ h
  have hvalue : v = v' := UInt16.toUInt32_inj.1 h
  rw [hvalue]

namespace AxisOp

variable {w : World σ} {op : AxisOp} {dev : DeviceId} {code : Code} {D : Device} {h : Handle}

/-! ## Calls that read -/

theorem get_apply (hA : A.Documented T V view) (field : AxisField) (hD : w.devices dev = some D)
    (hraw : D.raw = some h) :
    (get field dev code).exec A w =
      .returned (.number ((((view.table w.env h).get code).map field.read).getD 0)) w := by
  -- The field of the library's record is the one that libevdev is asked for.
  have hread : ∀ {n : Int32} (f : InputAbsinfo → Int32),
      n = (((view w.env h).get code.value.toUInt32).map f).getD 0 →
      (∀ a, f a = field.read (AbsInfo.ofInput a)) →
      n = (((view.table w.env h).get code).map field.read).getD 0 := by
    intro n f hn hf
    rw [hn, AxisView.table, Table.map_get, Option.map_map]
    cases (view w.env h).get code.value.toUInt32 with
    | none => rfl
    | some a => exact hf a
  have hcall : ∀ {n : Int32} {p : Op σ Int32}, p w = .returned n w →
      n = (((view.table w.env h).get code).map field.read).getD 0 →
      (do return AxisAnswer.number (← p) : Op σ AxisAnswer) w =
        .returned (.number ((((view.table w.env h).get code).map field.read).getD 0)) w := by
    intro n p hp hn
    rw [Prog.bind_apply, hp, hn]
    rfl
  have hquery := fun ask : Handle → σ → Int32 => Device.noexcept_query_apply hD hraw ask
  cases field with
  | min => exact hcall (hquery _) (hread _ (hA.getMinimum h _ w.env) fun _ => rfl)
  | max => exact hcall (hquery _) (hread _ (hA.getMaximum h _ w.env) fun _ => rfl)
  | fuzz => exact hcall (hquery _) (hread _ (hA.getFuzz h _ w.env) fun _ => rfl)
  | flat => exact hcall (hquery _) (hread _ (hA.getFlat h _ w.env) fun _ => rfl)
  | res => exact hcall (hquery _) (hread _ (hA.getResolution h _ w.env) fun _ => rfl)

theorem does_getInfo (hA : A.Documented T V view) (hD : w.devices dev = some D)
    (hraw : D.raw = some h) : (A.facet T).Does V view.table w (getInfo dev code) h := by
  have hcall := Device.getAbsInfo_apply (A := A.details) hD hraw code
  rw [hA.getInfo] at hcall
  have hexec : (getInfo dev code).exec A w =
      (Device.getAbsInfo A.details dev code w).andThen fun a =>
        (pure (.info a) : Op σ AxisAnswer) := rfl
  have hentry : (view.table w.env h).get code =
      ((view w.env h).get code.value.toUInt32).map AbsInfo.ofInput := Table.map_get code
  cases haxis : (view w.env h).get code.value.toUInt32 with
  | none =>
      rw [haxis] at hcall hentry
      have hon : (A.facet T).on (view.table w.env h) (getInfo dev code) =
          (.error (.std (.runtimeError "libevdev_get_abs_info() failed.")), view.table w.env h) := by
        simp only [Axes.facet, onTable, hentry, Option.map_none]
      refine Facet.does_of_read ?_ (by rw [hon])
      rw [hon]
      exact hexec.trans (by rw [hcall]; rfl)
  | some a =>
      rw [haxis] at hcall hentry
      have hon : (A.facet T).on (view.table w.env h) (getInfo dev code) =
          (.ok (.info (AbsInfo.ofInput a)), view.table w.env h) := by
        simp only [Axes.facet, onTable, hentry, Option.map_some]
      refine Facet.does_of_read ?_ (by rw [hon])
      rw [hon]
      exact hexec.trans (by rw [hcall]; rfl)

/-! ## Calls that write -/

/-- A change of an axis, if the device has it. -/
theorem writes_modify {s : σ} {f : InputAbsinfo → InputAbsinfo} {g : AbsInfo → AbsInfo}
    (hwrites : V.Writes view h ((view w.env h).modify f code.value.toUInt32) w.env s)
    (hfield : ∀ a, AbsInfo.ofInput (f a) = g (AbsInfo.ofInput a)) :
    V.Writes view.table h ((view.table w.env h).modify g code) w.env s := by
  have hseen := hwrites.map (Table.map (fun c : Code => c.value.toUInt32) AbsInfo.ofInput)
  rw [Table.map_modify Code.toUInt32_injective hfield code] at hseen
  exact hseen

theorem does_set (hA : A.Documented T V view) (field : AxisField) (val : Int32)
    (hD : w.devices dev = some D) (hraw : D.raw = some h) :
    (A.facet T).Does V view.table w (set field dev code val) h := by
  cases field with
  | min =>
      exact Facet.does_of_command hD hraw rfl rfl
        (writes_modify (hA.setMinimum h _ val w.env) fun _ => rfl)
  | max =>
      exact Facet.does_of_command hD hraw rfl rfl
        (writes_modify (hA.setMaximum h _ val w.env) fun _ => rfl)
  | fuzz =>
      exact Facet.does_of_command hD hraw rfl rfl
        (writes_modify (hA.setFuzz h _ val w.env) fun _ => rfl)
  | flat =>
      exact Facet.does_of_command hD hraw rfl rfl
        (writes_modify (hA.setFlat h _ val w.env) fun _ => rfl)
  | res =>
      exact Facet.does_of_command hD hraw rfl rfl
        (writes_modify (hA.setResolution h _ val w.env) fun _ => rfl)

theorem does_setInfo (hA : A.Documented T V view) (info : AbsInfo) (hD : w.devices dev = some D)
    (hraw : D.raw = some h) : (A.facet T).Does V view.table w (setInfo dev code info) h :=
  Facet.does_of_command hD hraw rfl rfl
    (writes_modify (hA.setInfo h _ info.toInput w.env) fun _ => rfl)

/-! ## Calls that libevdev may refuse -/

theorem does_enable (hA : A.Documented T V view) (info : AbsInfo) (hD : w.devices dev = some D)
    (hraw : D.raw = some h) : (A.facet T).Does V view.table w (enable dev code info) h := by
  have hkeys := Code.toUInt32_injective
  by_cases hmax : (code.value.toNat : Int) ≤ T.eventTypeGetMax 3
  · rcases hA.enable h code.value.toUInt32 info.toInput w.env (by simpa using hmax) with
      ⟨hret, hwrites⟩
    have hon : (A.facet T).on (view.table w.env h) (enable dev code info) =
        (.ok .done, (view.table w.env h).insert code info) := if_pos hmax
    have hseen := hwrites.map (Table.map (fun c : Code => c.value.toUInt32) AbsInfo.ofInput)
    rw [Table.map_insert hkeys] at hseen
    refine Facet.does_of_require hD hraw rfl ?_ (by rw [hon]; exact hseen)
    rw [hon]
    exact (if_neg (not_not.2 hret)).symm
  · rcases hA.notEnabled h code.value.toUInt32 info.toInput w.env (by simpa using hmax) with
      ⟨hret, hwrites⟩
    have hon : (A.facet T).on (view.table w.env h) (enable dev code info) =
        (.error (.std (.runtimeError "libevdev_enable_event_code() failed.")),
          (view.table w.env h).switch true) := if_neg hmax
    have hseen := hwrites.map (Table.map (fun c : Code => c.value.toUInt32) AbsInfo.ofInput)
    refine Facet.does_of_require hD hraw rfl ?_ (by rw [hon]; exact hseen)
    rw [hon]
    exact (if_pos hret).symm

theorem does_disable (hA : A.Documented T V view) (hD : w.devices dev = some D)
    (hraw : D.raw = some h) : (A.facet T).Does V view.table w (disable dev code) h := by
  have hkeys := Code.toUInt32_injective
  by_cases hmax : (code.value.toNat : Int) ≤ T.eventTypeGetMax 3
  · rcases hA.disable h code.value.toUInt32 w.env (by simpa using hmax) with ⟨hret, hwrites⟩
    have hon : (A.facet T).on (view.table w.env h) (disable dev code) =
        (.ok .done, (view.table w.env h).put code none) := if_pos hmax
    have hseen := hwrites.map (Table.map (fun c : Code => c.value.toUInt32) AbsInfo.ofInput)
    rw [Table.map_put hkeys] at hseen
    refine Facet.does_of_require hD hraw rfl ?_ (by rw [hon]; exact hseen)
    rw [hon]
    exact (if_neg (not_not.2 hret)).symm
  · rcases hA.notDisabled h code.value.toUInt32 w.env (by simpa using hmax) with ⟨hret, hwrites⟩
    have hon : (A.facet T).on (view.table w.env h) (disable dev code) =
        (.error (.std (.runtimeError "libevdev_disable_event_code() failed.")),
          view.table w.env h) := if_neg hmax
    have hseen := hwrites.map (Table.map (fun c : Code => c.value.toUInt32) AbsInfo.ofInput)
    refine Facet.does_of_require hD hraw rfl ?_ (by rw [hon]; exact hseen)
    rw [hon]
    exact (if_pos hret).symm

/-- The type is enabled or disabled, which libevdev does not refuse. -/
theorem does_switch {b : Bool} {what : String} {call : Handle → σ → Int × σ}
    (hD : w.devices op.dev = some D) (hraw : D.raw = some h)
    (hexec : op.exec A = do
      Device.require op.dev what call
      return .done)
    (hon : op.onTable (T.eventTypeGetMax 3) (view.table w.env h) =
      (.ok .done, (view.table w.env h).switch b))
    (hcall : (call h w.env).1 = 0 ∧
      V.Writes view h ((view w.env h).switch b) w.env (call h w.env).2) :
    (A.facet T).Does V view.table w op h := by
  have hon' : (A.facet T).on (view.table w.env h) op =
      (.ok .done, (view.table w.env h).switch b) := hon
  have hseen := hcall.2.map (Table.map (fun c : Code => c.value.toUInt32) AbsInfo.ofInput)
  refine Facet.does_of_require hD hraw hexec ?_ (by rw [hon']; exact hseen)
  rw [hon']
  exact (if_neg (not_not.2 hcall.1)).symm

/-! ## The facet -/

/-- On an object that is not a valid device, a call is undefined. -/
theorem exec_of_not_valid (hnot : ¬ Device.Valid w op.dev) : op.exec A w = .undefined := by
  have hget : ∀ ask : Handle → σ → Int32,
      (do return AxisAnswer.number (← Prog.noexcept (Device.query op.dev ask)) : Op σ AxisAnswer) w =
        .undefined := fun ask =>
    Device.bind_of_undefined
      (Device.noexcept_of_undefined (Device.query_of_not_valid hnot ask)) _
  have hset : ∀ tell : Handle → σ → σ, (do
      Prog.noexcept (Device.command op.dev tell)
      return AxisAnswer.done : Op σ AxisAnswer) w = .undefined := fun tell =>
    Device.bind_of_undefined
      (Device.noexcept_of_undefined (Device.command_of_not_valid hnot tell)) _
  have hrequire : ∀ (what : String) (call : Handle → σ → Int × σ), (do
      Device.require op.dev what call
      return AxisAnswer.done : Op σ AxisAnswer) w = .undefined := fun what call =>
    Device.bind_of_undefined (Device.require_of_not_valid hnot what call) _
  cases op with
  | get field dev code => cases field <;> exact hget _
  | set field dev code val => cases field <;> exact hset _
  | getInfo dev code =>
      exact Device.bind_of_undefined
        (Device.bind_of_undefined (Device.query_of_not_valid hnot _) _) _
  | setInfo dev code info => exact hset _
  | enableType dev => exact hrequire _ _
  | disableType dev => exact hrequire _ _
  | enable dev code info => exact hrequire _ _
  | disable dev code => exact hrequire _ _

theorem lawful (hA : A.Documented T V view) : (A.facet T).Lawful V view.table where
  does := by
    intro w op D h hD hraw
    cases op with
    | get field dev code => exact Facet.does_of_read (get_apply hA field hD hraw) rfl
    | set field dev code val => exact does_set hA field val hD hraw
    | getInfo dev code => exact does_getInfo hA hD hraw
    | setInfo dev code info => exact does_setInfo hA info hD hraw
    | enableType dev => exact does_switch hD hraw rfl rfl (hA.enableType h w.env)
    | disableType dev => exact does_switch hD hraw rfl rfl (hA.disableType h w.env)
    | enable dev code info => exact does_enable hA info hD hraw
    | disable dev code => exact does_disable hA hD hraw
  undefined := fun hnot => exec_of_not_valid hnot

end AxisOp

/-! ## Runs -/

/-- From any point of any run, the calls about the axes of a valid device are answered by one table,
whatever a program does in between with other objects and their axes; and whatever is asked next, the
table answers it. -/
theorem axes_are_stored (hdoc : P.Documented V) (hF : P.OwnFrames V view)
    (hA : A.Documented T V view) {s₀ : σ} {acts acts' : List (A.facet T).Action} {w w' : World σ}
    {d : DeviceId} {D : Device} {h : Handle}
    (before : Run ((A.facet T).Step P) (World.init s₀) acts w)
    (run : Run (Guarded (fun _ a => a.KeepsDevice d) ((A.facet T).Step P)) w acts' w')
    (hD : w.devices d = some D) (hraw : D.raw = some h) :
    Run (A.facet T).Answers (view.table w.env h) (acts'.filterMap (Facet.Action.callOn d))
        (view.table w'.env h) ∧
      ∀ op : AxisOp, op.dev = d → ∃ w'', (A.facet T).Step P w'
        (.call op (op.onTable (T.eventTypeGetMax 3) (view.table w'.env h)).1) w'' :=
  Facet.stored hdoc (hF.map _) (AxisOp.lawful hA) before run hD hraw

namespace TableAxes

theorem writes_change (f : Table UInt32 InputAbsinfo → Table UInt32 InputAbsinfo) (h : Handle)
    (s : Script × Tables) : views.Writes tables h (f (tables s h)) s (change f h s) :=
  ⟨rfl, rfl, rfl, rfl⟩

theorem documented : axes.Documented EnabledBits.tables views tables where
  getInfo := fun _ _ _ => rfl
  getMinimum := fun _ _ _ => rfl
  getMaximum := fun _ _ _ => rfl
  getFuzz := fun _ _ _ => rfl
  getFlat := fun _ _ _ => rfl
  getResolution := fun _ _ _ => rfl
  setMinimum := fun h _ _ s => writes_change _ h s
  setMaximum := fun h _ _ s => writes_change _ h s
  setFuzz := fun h _ _ s => writes_change _ h s
  setFlat := fun h _ _ s => writes_change _ h s
  setResolution := fun h _ _ s => writes_change _ h s
  setInfo := fun h _ _ s => writes_change _ h s
  enableType := fun h s => ⟨rfl, writes_change _ h s⟩
  disableType := fun h s => ⟨rfl, writes_change _ h s⟩
  enable := by
    intro h c info s hrange
    have hcall : axes.enabling.libevdevEnableEventCode h 3 c (some (.absinfo info)) s =
        (0, change (Table.insert c info) h s) := if_pos hrange
    rw [hcall]
    exact ⟨rfl, writes_change _ h s⟩
  notEnabled := by
    intro h c info s hrange
    have hcall : axes.enabling.libevdevEnableEventCode h 3 c (some (.absinfo info)) s =
        (-1, change (Table.switch true) h s) := if_neg hrange
    rw [hcall]
    exact ⟨show (-1 : Int) ≠ 0 by decide, writes_change _ h s⟩
  disable := by
    intro h c s hrange
    have hcall : axes.libevdevDisableEventCode h 3 c s = (0, change (Table.put c none) h s) :=
      if_pos hrange
    rw [hcall]
    exact ⟨rfl, writes_change _ h s⟩
  notDisabled := by
    intro h c s hrange
    have hcall : axes.libevdevDisableEventCode h 3 c s = (-1, s) := if_neg hrange
    rw [hcall]
    exact ⟨show (-1 : Int) ≠ 0 by decide, Views.Writes.nothing views tables h s⟩

theorem frames : platform.OwnFrames views tables :=
  Script.platform.ownFrames_beside Script.views fun s : Tables => s

end TableAxes

/-- The axis 0 of a joystick is enabled and its range written.  In between it is grabbed, and a second
device comes and goes, with another range for its axis 0. -/
theorem axes_are_stored_joystick :
    ∃ w w', Run (TableAxes.facet.Step TableAxes.platform)
        (World.init ({ opens := [3, 4], handles := [0, 1], grabs := [0] }, fun _ => Table.empty))
        [.act (.device (.constructPath 0 "joystick" 0))] w ∧
      Run (Guarded (fun _ a => a.KeepsDevice 0) (TableAxes.facet.Step TableAxes.platform)) w
        [.call (.enable 0 ⟨⟨0⟩⟩ { max := 255 }) (.ok .done), .act (.grabber (.constructFrom 0 0)),
          .act (.device (.constructPath 1 "tablet" 0)),
          .call (.enable 1 ⟨⟨0⟩⟩ { max := 4095 }) (.ok .done),
          .call (.set .min 0 ⟨⟨0⟩⟩ 15) (.ok .done), .act (.device (.destruct 1)),
          .call (.getInfo 0 ⟨⟨0⟩⟩) (.ok (.info { min := 15, max := 255 }))] w' ∧
      Run TableAxes.facet.Answers (TableAxes.tables.table w.env 0)
        [(.enable 0 ⟨⟨0⟩⟩ { max := 255 }, .ok .done), (.set .min 0 ⟨⟨0⟩⟩ 15, .ok .done),
          (.getInfo 0 ⟨⟨0⟩⟩, .ok (.info { min := 15, max := 255 }))]
        (TableAxes.tables.table w'.env 0) ∧
      ∃ w'', TableAxes.facet.Step TableAxes.platform w'
        (.call (.get .max 0 ⟨⟨0⟩⟩) (.ok (.number 255))) w'' := by
  have hstart : Run (TableAxes.facet.Step TableAxes.platform)
      (World.init ({ opens := [3, 4], handles := [0, 1], grabs := [0] }, fun _ => Table.empty)) []
      (World.init ({ opens := [3, 4], handles := [0, 1], grabs := [0] }, fun _ => Table.empty)) :=
    Run.nil
  have before := hstart.snoc (a := Facet.Action.act (.device (.constructPath 0 "joystick" 0))) rfl
  have keeps : ∀ {w : World (Script × TableAxes.Tables)} {acts : List TableAxes.facet.Action},
      Run (TableAxes.facet.Step TableAxes.platform)
        (World.init ({ opens := [3, 4], handles := [0, 1], grabs := [0] }, fun _ => Table.empty))
        acts w →
      Run (Guarded (fun _ a => a.KeepsDevice 0) (TableAxes.facet.Step TableAxes.platform)) w [] w :=
    fun _ => Run.nil
  let call (op : AxisOp) (r : Except Exn AxisAnswer) : TableAxes.facet.Action := .call op r
  have henabled := (keeps before).snoc (a := call (.enable 0 ⟨⟨0⟩⟩ { max := 255 }) (.ok .done))
    ⟨trivial, rfl⟩
  have hgrabbed := henabled.snoc (a := Facet.Action.act (.grabber (.constructFrom 0 0)))
    ⟨trivial, rfl⟩
  have hsecond := hgrabbed.snoc (a := Facet.Action.act (.device (.constructPath 1 "tablet" 0)))
    ⟨Nat.one_ne_zero, rfl⟩
  have hother := hsecond.snoc (a := call (.enable 1 ⟨⟨0⟩⟩ { max := 4095 }) (.ok .done))
    ⟨trivial, rfl⟩
  have hset := hother.snoc (a := call (.set .min 0 ⟨⟨0⟩⟩ 15) (.ok .done)) ⟨trivial, rfl⟩
  have hgone := hset.snoc (a := Facet.Action.act (.device (.destruct 1))) ⟨Nat.one_ne_zero, rfl⟩
  have run := hgone.snoc (a := call (.getInfo 0 ⟨⟨0⟩⟩) (.ok (.info { min := 15, max := 255 })))
    ⟨trivial, rfl⟩
  have hstored := axes_are_stored (Script.documented.beside TableAxes.Tables) TableAxes.frames
    TableAxes.documented before run rfl rfl
  exact ⟨_, _, before, run, hstored.1, hstored.2 (.get .max 0 ⟨⟨0⟩⟩) rfl⟩

end Evdevxx
