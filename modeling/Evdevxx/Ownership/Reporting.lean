import Evdevxx.Device.Evaluation
import Evdevxx.Grabber.Evaluation
import Evdevxx.Logic.Audit
import Evdevxx.Model.Scripted
import Evdevxx.Model.System
import Evdevxx.Uinput.Evaluation

/-!
# Reporting — every failure of a call is reported, once

Whatever a program does with its devices, the calls that fail and the exceptions that it gets
correspond one to one: no failure is swallowed, and none is invented.  `create(path)` is the exception,
if `::open` returns the descriptor 0: there it reports a failure of a call that has not failed.
-/

namespace Evdevxx

open Op

namespace Call

/-- The call has failed. -/
def failed : Call → Bool
  | .posixOpen _ _ ret _ => ret < 0
  | .libevdevNew ret => ret = none
  | .libevdevNewFromFd _ ret _ => ret < 0
  | .libevdevSetFd _ _ ret => ret < 0
  | .libevdevChangeFd _ _ ret => ret ≠ 0
  | .libevdevGrab _ _ ret => ret < 0
  | .libevdevUinputCreateFromDevice _ _ ret _ => ret < 0
  | _ => false

/-- The exception names the call that has failed, with its error number, which for `::open` is what it
left in `errno`. -/
inductive ReportedBy : Call → Exn → Prop where
  | create (path : String) (flags : BitVec 32) (ret errno : Int) :
      ReportedBy (.posixOpen path flags ret errno)
        (.std (.systemError errno (some ("open(\"" ++ path ++ "\")"))))
  | openPath (path : String) (flags : BitVec 32) (ret errno : Int) :
      ReportedBy (.posixOpen path flags ret errno)
        (.std (.systemError errno (some ("Failed to open \"" ++ path ++ "\""))))
  | new : ReportedBy (.libevdevNew none)
      (.std (.runtimeError "Could not construct libevdev device."))
  | newFromFd (fd : Fd) (ret : Int) (dev : Option Handle) :
      ReportedBy (.libevdevNewFromFd fd ret dev)
        (.std (.systemError (-ret) (some "libevdev_new_from_fd()")))
  | setFd (h : Handle) (fd : Fd) (ret : Int) :
      ReportedBy (.libevdevSetFd h fd ret) (.std (.systemError (-ret) (some "libevdev_set_fd().")))
  | changeFd (h : Handle) (fd : Fd) (ret : Int) :
      ReportedBy (.libevdevChangeFd h fd ret) (.std (.runtimeError "libevdev_change_fd()."))
  | grab (h : Handle) (mode : GrabMode) (ret : Int) :
      ReportedBy (.libevdevGrab h mode ret) (.std (.systemError (-ret) (some "libevdev_grab().")))
  | uinputCreate (h : Handle) (fd : Fd) (ret : Int) (udev : Option UinputHandle) :
      ReportedBy (.libevdevUinputCreateFromDevice h fd ret udev)
        (.std (.systemError (-ret) (some "from libevdev_uinput_create_from_device()")))

end Call

/-- What `open` throws on an open device, without a call. -/
def alreadyOpen : Exn :=
  .std (.logicError "File is already open.")

/-- The calls of the library, and its exceptions. -/
def audit (σ : Type) : Audit Exn (World σ) Call where
  log := World.log
  failed := Call.failed
  reportedBy := Call.ReportedBy
  own := fun e => e = alreadyOpen
  doubtful := fun c => ∃ path flags errno, c = .posixOpen path flags 0 errno

variable {σ : Type} {P : Platform σ}

/-! ## The member functions of `Device` -/

namespace Device

variable {this other : DeviceId}

theorem load_clears (this : DeviceId) : (audit σ).Clears (load this) := by
  intro w
  cases hD : w.devices this with
  | none => simp [Prog.wp, hD]
  | some D =>
      unfold Prog.wp
      rw [load_apply hD]
      exact Audit.Clean.refl w

theorem store_clears (this : DeviceId) (D : Device) : (audit σ).Clears (store this D) :=
  Audit.clears_of_returned (fun _ => rfl) fun _ => rfl

theorem deref_clears {α : Type} (p : Option α) : (audit σ).Clears (deref p) := by
  cases p with
  | none => exact fun _ => trivial
  | some a => exact Audit.clears_pure a

/-- A call that cannot fail. -/
theorem clears_call {call : Op σ Unit} {c : Call} (hok : c.failed = false)
    (hcall : ∀ w : World σ, ∃ s, call w = .returned () (w.called c s)) : (audit σ).Clears call := by
  intro w
  rcases hcall w with ⟨s, hret⟩
  unfold Prog.wp
  rw [hret]
  exact Audit.Clean.call rfl hok

theorem release_clears (this : DeviceId) : (audit σ).Clears (release this) :=
  Audit.Clears.noexcept <| (load_clears this).bind fun _ =>
    (store_clears this _).bind fun _ => Audit.clears_pure _

theorem acquire_clears (this : DeviceId) (raw : Option Handle) (fd : Fd) :
    (audit σ).Clears (acquire this raw fd) :=
  Audit.Clears.noexcept <| (load_clears this).bind fun _ => store_clears this _

theorem destroy_clears (this : DeviceId) : (audit σ).Clears (destroy P this) := by
  refine Audit.Clears.noexcept ((release_clears this).bind fun old => ?_)
  refine Audit.Clears.bind (p := freeIfSet P old.1) ?_ fun _ => ?_
  · cases old.1 with
    | none => exact Audit.clears_pure ()
    | some h => exact clears_call rfl fun w => ⟨_, rfl⟩
  · exact Audit.Clears.ite (clears_call rfl fun w => ⟨_, rfl⟩) (Audit.clears_pure ())

theorem create_accounts (this : DeviceId) : (audit σ).Accounts (create P this) := by
  refine (load_clears this).accounts.bind fun _ => ?_
  refine Audit.accounts_call (fun ret _ => .libevdevNew ret) (fun w => ⟨_, _, rfl, rfl⟩) ?_
  intro ptr w w' hlog
  cases ptr with
  | none => exact Audit.Blamed.call hlog rfl rfl .new
  | some h =>
      exact Audit.Accounts.behind
        ((destroy_clears this).bind fun _ => acquire_clears this _ _).accounts hlog rfl

/-- A call on a raw pointer whose answer is an error code; `bad` is what the library takes for one. -/
theorem checked_accounts {call : Op σ Int} {e : Int → Exn} (mk : Int → Call) (bad : Int → Prop)
    [DecidablePred bad] (hcall : ∀ w : World σ, ∃ ret s, call w = .returned ret (w.called (mk ret) s))
    (hbad : ∀ ret, bad ret → (mk ret).failed = true ∧ e ret ≠ alreadyOpen ∧ (mk ret).ReportedBy (e ret))
    (hok : ∀ ret, ¬ bad ret → (mk ret).failed = false) :
    (audit σ).Accounts (call >>= fun ret => if bad ret then Prog.throw (e ret) else pure ()) := by
  refine Audit.accounts_call (fun ret _ => mk ret) (fun w => ?_) fun ret w w' hlog => ?_
  · rcases hcall w with ⟨ret, s, hret⟩
    exact ⟨ret, _, hret, rfl⟩
  · by_cases h : bad ret
    · rw [if_pos h]
      rcases hbad ret h with ⟨hfailed, hne, hreported⟩
      exact Audit.Blamed.call hlog hfailed (decide_eq_false hne) hreported
    · rw [if_neg h]
      exact Audit.Accounts.behind (Audit.clears_pure ()).accounts hlog (hok ret h)

theorem setFd_accounts (this : DeviceId) (fd : Fd) : (audit σ).Accounts (setFd P this fd) :=
  (load_clears this).accounts.bind fun D => (deref_clears D.raw).accounts.bind fun h =>
    checked_accounts (fun ret => .libevdevSetFd h fd ret) (fun ret => ret < 0)
      (fun _ => ⟨_, _, rfl⟩)
      (fun ret hbad => ⟨decide_eq_true hbad, nofun, .setFd h fd ret⟩)
      fun _ hok => decide_eq_false hok

theorem changeFd_accounts (this : DeviceId) (fd : Fd) : (audit σ).Accounts (changeFd P this fd) :=
  (load_clears this).accounts.bind fun D => (deref_clears D.raw).accounts.bind fun h =>
    checked_accounts (fun ret => .libevdevChangeFd h fd ret) (fun ret => ret ≠ 0)
      (fun _ => ⟨_, _, rfl⟩)
      (fun ret hbad => ⟨decide_eq_true hbad, nofun, .changeFd h fd ret⟩)
      fun _ hok => decide_eq_false hok

theorem grab_accounts (this : DeviceId) : (audit σ).Accounts (grab P this) :=
  (load_clears this).accounts.bind fun D => (deref_clears D.raw).accounts.bind fun h =>
    checked_accounts (fun ret => .libevdevGrab h .grab ret) (fun ret => ret < 0)
      (fun _ => ⟨_, _, rfl⟩)
      (fun ret hbad => ⟨decide_eq_true hbad, nofun, .grab h .grab ret⟩)
      fun _ hok => decide_eq_false hok

theorem ungrab_accounts (this : DeviceId) : (audit σ).Accounts (ungrab P this) :=
  (load_clears this).accounts.bind fun D => (deref_clears D.raw).accounts.bind fun h =>
    checked_accounts (fun ret => .libevdevGrab h .ungrab ret) (fun ret => ret < 0)
      (fun _ => ⟨_, _, rfl⟩)
      (fun ret hbad => ⟨decide_eq_true hbad, nofun, .grab h .ungrab ret⟩)
      fun _ hok => decide_eq_false hok

theorem createFd_accounts (this : DeviceId) (fd : Fd) : (audit σ).Accounts (createFd P this fd) := by
  refine (load_clears this).accounts.bind fun _ => ?_
  refine Audit.accounts_call (fun r _ => .libevdevNewFromFd fd r.1 r.2)
    (fun w => ⟨_, _, rfl, rfl⟩) ?_
  rintro ⟨e, ptr⟩ w w' hlog
  by_cases hneg : e < 0
  · simp only [hneg, if_true]
    exact Audit.Blamed.call hlog (decide_eq_true hneg) rfl (.newFromFd fd e ptr)
  · simp only [hneg, if_false]
    exact Audit.Accounts.behind
      ((destroy_clears this).bind fun _ => acquire_clears this _ _).accounts hlog
      (decide_eq_false hneg)

/-- The descriptor 0 is in doubt: it is no failure of `::open`, and is taken for one. -/
theorem createPath_accounts (this : DeviceId) (filename : String) (flags : BitVec 32) :
    (audit σ).Accounts (createPath P this filename flags) := by
  refine (load_clears this).accounts.bind fun _ => ?_
  refine Audit.accounts_call (fun fd w => .posixOpen filename flags fd (P.errno w.env))
    (fun w => ⟨_, _, rfl, rfl⟩) ?_
  intro fd w w' hlog
  by_cases hlow : fd < 1
  · rw [if_pos hlow]
    by_cases hneg : fd < 0
    · exact Audit.Blamed.call hlog (decide_eq_true hneg) rfl (.create filename flags fd _)
    · have hzero : fd = 0 := by omega
      subst hzero
      exact Audit.Blamed.doubt hlog ⟨filename, flags, _, rfl⟩
  · rw [if_neg hlow]
    have hok : (Call.posixOpen filename flags fd (P.errno w'.env)).failed = false :=
      decide_eq_false (by omega)
    refine Audit.Accounts.behind ?_ hlog hok
    refine Audit.accounts_call (fun r _ => .libevdevNewFromFd fd r.1 r.2)
      (fun w => ⟨_, _, rfl, rfl⟩) ?_
    rintro ⟨e, ptr⟩ w w' hlog
    by_cases hneg : e < 0
    · simp only [hneg, if_true]
      -- The descriptor is closed before the exception is thrown.
      have hblamed : (audit σ).Blamed w (.std (.systemError (-e) (some "libevdev_new_from_fd()"))) w' :=
        Audit.Blamed.call hlog (decide_eq_true hneg) rfl (.newFromFd fd e ptr)
      exact hblamed.before (Audit.Clean.call rfl rfl)
    · simp only [hneg, if_false]
      exact Audit.Accounts.behind
        ((destroy_clears this).bind fun _ => acquire_clears this _ _).accounts hlog
        (decide_eq_false hneg)

theorem openPath_accounts (this : DeviceId) (filename : String) (flags : BitVec 32) :
    (audit σ).Accounts (openPath P this filename flags) := by
  refine (load_clears this).accounts.bind fun D => ?_
  by_cases hopen : D.isOpen = true
  · rw [if_pos hopen]
    exact Audit.accounts_own (decide_eq_true (show alreadyOpen = alreadyOpen from rfl))
  · rw [if_neg hopen]
    refine Audit.accounts_call (fun fd w => .posixOpen filename flags fd (P.errno w.env))
      (fun w => ⟨_, _, rfl, rfl⟩) ?_
    intro fd w w' hlog
    by_cases hneg : fd < 0
    · -- The descriptor is stored first.
      have hlog' : (audit σ).log (w'.setDevice this (some { D with ownedFd := fd })) =
          .posixOpen filename flags fd (P.errno w'.env) :: (audit σ).log w := hlog
      rw [if_pos hneg]
      exact Audit.Blamed.call hlog' (decide_eq_true hneg) rfl (.openPath filename flags fd _)
    · rw [if_neg hneg]
      exact Audit.Accounts.behind
        ((store_clears this _).accounts.bind fun _ => setFd_accounts this fd) hlog
        (decide_eq_false hneg)

theorem move_clears (this other : DeviceId) : (audit σ).Clears (do
    let (raw, fd) ← release other
    acquire this raw fd) :=
  (release_clears other).bind fun _ => acquire_clears this _ _

theorem construct_accounts {body : Op σ Unit} (hbody : (audit σ).Accounts body) (this : DeviceId) :
    (audit σ).Accounts (construct this body) :=
  Audit.Accounts.construct (M := memory) (fun _ _ _ => rfl) hbody this {}

end Device

/-- Every member function of `Device` accounts for its calls. -/
theorem DeviceAct.accounts (a : DeviceAct) : (audit σ).Accounts (a.exec P) := by
  cases a with
  | constructInvalid this => exact Device.construct_accounts (Audit.clears_pure ()).accounts this
  | constructDefault this => exact Device.construct_accounts (Device.create_accounts this) this
  | constructFd this fd => exact Device.construct_accounts (Device.createFd_accounts this fd) this
  | constructPath this filename flags =>
      exact Device.construct_accounts (Device.createPath_accounts this filename flags) this
  | moveConstruct this other =>
      exact Device.construct_accounts (Device.move_clears this other).noexcept.accounts this
  | moveAssign this other =>
      refine (Audit.Clears.noexcept ((Device.load_clears this).bind fun _ => ?_)).accounts
      exact Audit.Clears.ite ((Device.destroy_clears this).bind fun _ => Device.move_clears this other)
        (Audit.clears_pure ())
  | create this => exact Device.create_accounts this
  | createFd this fd => exact Device.createFd_accounts this fd
  | createPath this filename flags => exact Device.createPath_accounts this filename flags
  | openPath this filename flags => exact Device.openPath_accounts this filename flags
  | setFd this fd => exact Device.setFd_accounts this fd
  | changeFd this fd => exact Device.changeFd_accounts this fd
  | destroy this => exact (Device.destroy_clears this).accounts
  | destruct this =>
      exact (Audit.Clears.noexcept ((Device.destroy_clears this).bind fun _ =>
        Audit.clears_of_returned (g := fun w => w.setDevice this none) (fun _ => rfl)
          fun _ => rfl)).accounts

/-! ## The member functions of `Uinput` and `Grabber` -/

namespace Uinput

theorem load_clears (this : UinputId) : (audit σ).Clears (load this) := by
  intro w
  cases hU : w.uinputs this with
  | none => simp [Prog.wp, hU]
  | some U =>
      unfold Prog.wp
      rw [load_apply hU]
      exact Audit.Clean.refl w

theorem store_clears (this : UinputId) (U : Uinput) : (audit σ).Clears (store this U) :=
  Audit.clears_of_returned (fun _ => rfl) fun _ => rfl

theorem release_clears (this : UinputId) : (audit σ).Clears (release this) :=
  Audit.Clears.noexcept <| (load_clears this).bind fun _ =>
    (store_clears this _).bind fun _ => Audit.clears_pure _

theorem acquire_clears (this : UinputId) (raw : Option UinputHandle) :
    (audit σ).Clears (acquire this raw) :=
  Audit.Clears.noexcept <| (load_clears this).bind fun _ => store_clears this _

theorem destroy_clears (this : UinputId) : (audit σ).Clears (destroy P this) := by
  refine Audit.Clears.noexcept ((release_clears this).bind fun old => ?_)
  cases old with
  | none => exact Audit.clears_pure ()
  | some u => exact Device.clears_call rfl fun w => ⟨_, rfl⟩

theorem create_accounts (this : UinputId) (dev : DeviceId) (fd : Fd) :
    (audit σ).Accounts (create P this dev fd) := by
  refine (load_clears this).accounts.bind fun _ => ?_
  refine (Device.load_clears dev).accounts.bind fun D => ?_
  refine (Device.deref_clears D.raw).accounts.bind fun h => ?_
  refine Audit.accounts_call (fun r _ => .libevdevUinputCreateFromDevice h fd r.1 r.2)
    (fun w => ⟨_, _, rfl, rfl⟩) ?_
  rintro ⟨e, udev⟩ w w' hlog
  by_cases hneg : e < 0
  · simp only [hneg, if_true]
    exact Audit.Blamed.call hlog (decide_eq_true hneg) rfl (.uinputCreate h fd e udev)
  · simp only [hneg, if_false]
    exact Audit.Accounts.behind
      ((destroy_clears this).bind fun _ => acquire_clears this _).accounts hlog
      (decide_eq_false hneg)

theorem move_clears (this other : UinputId) : (audit σ).Clears (do
    let raw ← release other
    acquire this raw) :=
  (release_clears other).bind fun _ => acquire_clears this _

theorem construct_accounts {body : Op σ Unit} (hbody : (audit σ).Accounts body) (this : UinputId) :
    (audit σ).Accounts (construct this body) :=
  Audit.Accounts.construct (M := memory) (fun _ _ _ => rfl) hbody this {}

end Uinput

theorem UinputAct.accounts (a : UinputAct) : (audit σ).Accounts (a.exec P) := by
  cases a with
  | constructInvalid this => exact Uinput.construct_accounts (Audit.clears_pure ()).accounts this
  | constructFrom this dev fd =>
      exact Uinput.construct_accounts (Uinput.create_accounts this dev fd) this
  | moveConstruct this other =>
      exact Uinput.construct_accounts (Uinput.move_clears this other).noexcept.accounts this
  | moveAssign this other =>
      refine (Audit.Clears.noexcept ((Uinput.load_clears this).bind fun _ => ?_)).accounts
      exact Audit.Clears.ite ((Uinput.destroy_clears this).bind fun _ => Uinput.move_clears this other)
        (Audit.clears_pure ())
  | create this dev fd => exact Uinput.create_accounts this dev fd
  | destroy this => exact (Uinput.destroy_clears this).accounts
  | destruct this =>
      exact (Audit.Clears.noexcept ((Uinput.destroy_clears this).bind fun _ =>
        Audit.clears_of_returned (g := fun w => w.setUinput this none) (fun _ => rfl)
          fun _ => rfl)).accounts

namespace Grabber

theorem load_clears (this : GrabberId) : (audit σ).Clears (load this) := by
  intro w
  cases hG : w.grabbers this with
  | none => simp [Prog.wp, hG]
  | some G =>
      unfold Prog.wp
      rw [load_apply hG]
      exact Audit.Clean.refl w

theorem store_clears (this : GrabberId) (G : Grabber) : (audit σ).Clears (store this G) :=
  Audit.clears_of_returned (fun _ => rfl) fun _ => rfl

theorem ungrab_accounts (this : GrabberId) : (audit σ).Accounts (ungrab P this) := by
  refine (load_clears this).accounts.bind fun G => ?_
  cases G.dev with
  | none => exact (Audit.clears_pure ()).accounts
  | some d => exact (Device.ungrab_accounts d).bind fun _ => (store_clears this _).accounts

/-- The last steps of both moves. -/
theorem take_clears (this other : GrabberId) : (audit σ).Clears (do
    let G ← load other
    store this { dev := G.dev }
    store other { dev := none }) :=
  (load_clears other).bind fun _ => (store_clears this _).bind fun _ => store_clears other _

theorem construct_accounts {body : Op σ Unit} (hbody : (audit σ).Accounts body) (this : GrabberId) :
    (audit σ).Accounts (construct this body) :=
  Audit.Accounts.construct (M := memory) (fun _ _ _ => rfl) hbody this {}

end Grabber

/-- The destructor of a `Grabber` may terminate the program, so that nothing is reported. -/
theorem GrabberAct.honest (a : GrabberAct) : (audit σ).Honest (a.exec P) := by
  cases a with
  | constructEmpty this =>
      exact (Grabber.construct_accounts (Audit.clears_pure ()).accounts this).honest
  | constructFrom this dev =>
      exact (Grabber.construct_accounts ((Grabber.store_clears this _).accounts.bind fun _ =>
        Device.grab_accounts dev) this).honest
  | moveConstruct this other =>
      exact (Grabber.construct_accounts (Grabber.take_clears this other).noexcept.accounts this).honest
  | moveAssign this other =>
      refine Audit.Accounts.honest ((Grabber.load_clears this).accounts.bind fun _ => ?_)
      by_cases hne : this ≠ other
      · rw [if_pos hne]
        exact (Grabber.ungrab_accounts this).bind fun _ => (Grabber.take_clears this other).accounts
      · rw [if_neg hne]
        exact (Audit.clears_pure ()).accounts
  | ungrab this => exact (Grabber.ungrab_accounts this).honest
  | destruct this =>
      refine Audit.Accounts.honest_noexcept ((Grabber.ungrab_accounts this).bind fun _ => ?_)
      exact (Audit.clears_of_returned (g := fun w : World σ => w.setGrabber this none)
        (fun _ => rfl) fun _ => rfl).accounts

/-! ## Runs -/

theorem Act.honest (a : Act) : (audit σ).Honest (a.exec P) := by
  cases a with
  | device a => exact a.accounts.honest
  | uinput a => exact a.accounts.honest
  | grabber a => exact a.honest

/-- Along every run of a program, the calls that fail and the exceptions that the program gets, but for
those of an `open` on an open device, correspond one to one and come in the same order, and each
exception names its call; provided that `::open` has not returned 0. -/
theorem failures_reported (P : Platform σ) {s : σ} {labels : List (Act × Option Exn)} {w : World σ}
    (run : Run (Audit.Step (Act.exec P)) (World.init s) labels w)
    (hzero : ∀ path flags errno, Call.posixOpen path flags 0 errno ∉ w.log) :
    List.Forall₂ Call.ReportedBy (w.log.reverse.filter Call.failed)
      ((labels.filterMap Prod.snd).filter fun e => e ≠ alreadyOpen) := by
  have hreported := Audit.run_reported (A := audit σ) (fun a => Act.honest a) rfl run
    fun c hc ⟨path, flags, errno, hopen⟩ => hzero path flags errno (hopen ▸ hc)
  have hown : (fun e : Exn => !(audit σ).own e) = fun e => decide (e ≠ alreadyOpen) := by
    funext e
    exact (decide_not ..).symm
  rw [hown] at hreported
  exact hreported

/-- The first `open` is refused; the third one finds the device open. -/
theorem failures_reported_refused :
    ∃ w, Run (Audit.Step (Act.exec Script.platform))
        (World.init { opens := [-13, 3], handles := [0] })
        [(.device (.constructDefault 0), none),
          (.device (.openPath 0 "kbd" 0),
            some (.std (.systemError 13 (some "Failed to open \"kbd\"")))),
          (.device (.openPath 0 "kbd" 0), none),
          (.device (.openPath 0 "kbd" 0), some alreadyOpen)] w ∧
      List.Forall₂ Call.ReportedBy (w.log.reverse.filter Call.failed)
        [.std (.systemError 13 (some "Failed to open \"kbd\""))] := by
  have hstart : Run (Audit.Step (Act.exec Script.platform))
      (World.init { opens := [-13, 3], handles := [0] }) []
      (World.init { opens := [-13, 3], handles := [0] }) := Run.nil
  have returned : ∀ {w w' : World Script} {a : Act}, a.exec Script.platform w = .returned () w' →
      Audit.Step (Act.exec Script.platform) w (a, none) w' := fun h => h
  have threw : ∀ {w w' : World Script} {a : Act} {e : Exn},
      a.exec Script.platform w = .threw e w' →
      Audit.Step (Act.exec Script.platform) w (a, some e) w' := fun h => h
  have hnew := hstart.snoc (returned (a := .device (.constructDefault 0)) rfl)
  have hrefused := hnew.snoc (threw (a := .device (.openPath 0 "kbd" 0)) rfl)
  have hopen := hrefused.snoc (returned (a := .device (.openPath 0 "kbd" 0)) rfl)
  have hrun := hopen.snoc (threw (a := .device (.openPath 0 "kbd" 0)) rfl)
  refine ⟨_, hrun, failures_reported Script.platform hrun fun path flags e hmem => ?_⟩
  have hcalls : Call.posixOpen path flags 0 e ∈ [.libevdevSetFd 0 3 0, .posixOpen "kbd" 0 3 13,
      .posixOpen "kbd" 0 (-1) 13, .libevdevNew (some 0)] := hmem
  simp at hcalls

end Evdevxx
