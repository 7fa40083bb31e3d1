import Evdevxx.Model.World

/-!
# Scripted — a platform that answers from a script

A `Script` is a concrete platform state: the open descriptors, the live objects, and for every kind
of call that may fail the answers it will give, in order.  An answer that the documentation of the
call rules out in the present state is replaced by a failure, so that `Script.platform` has the
documented behaviour whatever the script is.  When a script runs out, the calls that find or
create something fail and the others succeed.
-/

namespace Evdevxx

structure Script where
  files : Fd → Option (BitVec 32) := fun _ => none
  evdevs : Handle → Option EvdevView := fun _ => none
  uinputs : UinputHandle → Bool := fun _ => false
  errno : Int := 0
  /-- answers of `open(2)`: a descriptor, or a negated `errno` -/
  opens : List Int := []
  /-- addresses of the `libevdev` objects to come -/
  handles : List Handle := []
  /-- addresses of the `libevdev_uinput` objects to come -/
  uhandles : List UinputHandle := []
  /-- what reading the metadata of a descriptor returns -/
  metas : List Int := []
  /-- what `EVIOCGRAB` returns -/
  grabs : List Int := []
  events : List (Int × Option InputEvent) := []

namespace Script

/-- `O_APPEND | O_ASYNC | O_DIRECT | O_NOATIME | O_NONBLOCK` -/
def settable : BitVec 32 := 0x46c00

def views : Views Script where
  files := files
  evdevs := evdevs
  uinputs := uinputs
  settable := settable

def posixOpen (s : Script) : Int × Script :=
  match s.opens with
  | [] => (-1, { s with errno := 2 })
  | n :: rest =>
      -- `open(2)` never returns a descriptor that is open.
      if 0 ≤ n ∧ s.files n = none then
        (n, { s with files := Function.update s.files n (some 0), opens := rest })
      else
        (-1, { s with errno := -n, opens := rest })

def fcntlGetfl (fd : Fd) (s : Script) : BitVec 32 × Script :=
  match s.files fd with
  | some f => (f, s)
  | none => (-1, { s with errno := 9 })

def fcntlSetfl (fd : Fd) (flags : BitVec 32) (s : Script) : Int × Script :=
  match s.files fd with
  | some f =>
      let f' := (f &&& ~~~ settable) ||| (flags &&& settable)
      (0, { s with files := Function.update s.files fd (some f') })
  | none => (-1, { s with errno := 9 })

def libevdevNew (s : Script) : Option Handle × Script :=
  match s.handles with
  | [] => (none, s)
  | h :: rest =>
      if s.evdevs h = none then
        (some h, { s with evdevs := Function.update s.evdevs h (some .fresh), handles := rest })
      else
        (none, { s with handles := rest })

def libevdevFree (h : Handle) (s : Script) : Script :=
  { s with evdevs := Function.update s.evdevs h none }

/-- Read the metadata of an open descriptor into an object. -/
def readMetadata (h : Handle) (v : EvdevView) (fd : Fd) (s : Script) : Int × Script :=
  let ready : Script :=
    { s with
      evdevs := Function.update s.evdevs h (some { v with fd := fd, initialized := true }) }
  match s.metas with
  | [] => (0, ready)
  | m :: rest =>
      if m < 0 then (m, { s with metas := rest }) else (0, { ready with metas := rest })

def libevdevSetFd (h : Handle) (fd : Fd) (s : Script) : Int × Script :=
  match s.evdevs h, s.files fd with
  | some v, some _ => if v.initialized then (ebadf, s) else s.readMetadata h v fd
  | _, _ => (ebadf, s)

/-- `libevdev_new` followed by `libevdev_set_fd`, with the object freed on failure. -/
def libevdevNewFromFd (fd : Fd) (s : Script) : (Int × Option Handle) × Script :=
  match s.libevdevNew with
  | (none, s₁) => ((-12, none), s₁)
  | (some h, s₁) =>
      let r := s₁.libevdevSetFd h fd
      if r.1 < 0 then ((r.1, none), r.2.libevdevFree h) else ((r.1, some h), r.2)

def libevdevChangeFd (h : Handle) (fd : Fd) (s : Script) : Int × Script :=
  match s.evdevs h with
  | some v =>
      if v.initialized then
        -- What was grabbed is the old descriptor, so the flag is cleared.
        (0, { s with
          evdevs := Function.update s.evdevs h (some { v with fd := fd, grabbed := false }) })
      else
        (-1, s)
  | none => (-1, s)

def libevdevGetFd (h : Handle) (s : Script) : Int :=
  match s.evdevs h with
  | some v => v.fd
  | none => -1

def libevdevGrab (h : Handle) (mode : GrabMode) (s : Script) : Int × Script :=
  match s.evdevs h with
  | none => (ebadf, s)
  | some v =>
      if ¬ v.initialized then
        (ebadf, s)
      -- Nothing to do, and the kernel is not asked.
      else if v.grabbed = decide (mode = .grab) then
        (0, s)
      else
        let v' : EvdevView := { v with grabbed := decide (mode = .grab) }
        let s' : Script := { s with evdevs := Function.update s.evdevs h (some v') }
        match s.grabs with
        | [] => (0, s')
        | g :: rest =>
            if g < 0 then (g, { s with grabs := rest }) else (0, { s' with grabs := rest })

def libevdevSetDeviceLogFunction (h : Handle) (data : DeviceId) (s : Script) : Script :=
  match s.evdevs h with
  | some v =>
      { s with evdevs := Function.update s.evdevs h (some { v with logData := some data }) }
  | none => s

def libevdevNextEvent (flags : ReadFlag) (s : Script) : (Int × Option InputEvent) × Script :=
  match s.events with
  | [] => ((-11, none), s)
  | (status, stored) :: rest =>
      let answer : Int × Option InputEvent :=
        if status < 0 then
          (status, none)
        else match stored with
          | some e => if e.type ≤ evMax then (status, some e) else (-11, none)
          -- Only a forced synchronisation reports a status without an event.
          | none => if flags &&& ReadFlag.forceSync ≠ 0 then (1, none) else (-11, none)
      (answer, { s with events := rest })

def libevdevUinputCreateFromDevice (s : Script) : (Int × Option UinputHandle) × Script :=
  match s.uhandles with
  | [] => ((-2, none), s)
  | u :: rest =>
      if s.uinputs u = false then
        ((0, some u), { s with uinputs := Function.update s.uinputs u true, uhandles := rest })
      else
        ((-2, none), { s with uhandles := rest })

def platform : Platform Script where
  errno := errno
  posixOpen := fun _ _ s => s.posixOpen
  posixClose := fun fd s => { s with files := Function.update s.files fd none }
  fcntlGetfl := fcntlGetfl
  fcntlSetfl := fcntlSetfl
  libevdevNew := libevdevNew
  libevdevNewFromFd := libevdevNewFromFd
  libevdevFree := libevdevFree
  libevdevSetFd := libevdevSetFd
  libevdevChangeFd := libevdevChangeFd
  libevdevGetFd := libevdevGetFd
  libevdevGrab := libevdevGrab
  libevdevSetDeviceLogFunction := fun h _ data s => s.libevdevSetDeviceLogFunction h data
  libevdevNextEvent := fun _ flags s => s.libevdevNextEvent flags
  libevdevUinputCreateFromDevice := fun _ _ s => s.libevdevUinputCreateFromDevice
  libevdevUinputDestroy := fun u s => { s with uinputs := Function.update s.uinputs u false }

/-- The world of a script with a default-constructed device at the address 0. -/
def withDevice (s : Script) : World Script :=
  (World.init { s with evdevs := fun h => if h = 0 then some .fresh else none }).setDevice 0
    (some { raw := some 0 })

/-! ## The documented behaviour -/

theorem posixOpen_doc (s : Script) :
    (s.posixOpen.1 = -1 ∧ s.posixOpen.2.files = s.files ∨
      0 ≤ s.posixOpen.1 ∧ s.files s.posixOpen.1 = none ∧
        ∃ f, s.posixOpen.2.files = Function.update s.files s.posixOpen.1 (some f)) ∧
      s.posixOpen.2.evdevs = s.evdevs ∧ s.posixOpen.2.uinputs = s.uinputs := by
  unfold posixOpen
  split
  · simp
  · next n rest hopens =>
    split
    · next hfree => exact ⟨Or.inr ⟨hfree.1, hfree.2, 0, rfl⟩, rfl, rfl⟩
    · simp

theorem libevdevNew_doc (s : Script) :
    (match s.libevdevNew.1 with
      | none => s.libevdevNew.2.evdevs = s.evdevs
      | some h => s.evdevs h = none ∧
          s.libevdevNew.2.evdevs = Function.update s.evdevs h (some .fresh)) ∧
      s.libevdevNew.2.files = s.files ∧ s.libevdevNew.2.uinputs = s.uinputs := by
  cases hs : s.handles with
  | nil => simp [libevdevNew, hs]
  | cons h rest =>
      by_cases hfree : s.evdevs h = none
      · simp [libevdevNew, hs, hfree]
      · simp [libevdevNew, hs, hfree]

theorem readMetadata_doc (h : Handle) (v : EvdevView) (fd : Fd) (s : Script) :
    ((s.readMetadata h v fd).1 < 0 → (s.readMetadata h v fd).2.evdevs = s.evdevs) ∧
      (0 ≤ (s.readMetadata h v fd).1 → (s.readMetadata h v fd).2.evdevs =
        Function.update s.evdevs h (some { v with fd := fd, initialized := true })) ∧
      (s.readMetadata h v fd).2.files = s.files ∧
      (s.readMetadata h v fd).2.uinputs = s.uinputs := by
  unfold readMetadata
  split
  · simp
  · next m rest hmetas =>
    by_cases hm : m < 0
    · simp only [hm, if_true, implies_true, true_and, and_true]
      intro hnonneg
      omega
    · simp [hm]

theorem libevdevSetFd_doc {h : Handle} {s : Script} {v : EvdevView} (hv : s.evdevs h = some v)
    (fd : Fd) :
    (v.initialized = true → (s.libevdevSetFd h fd).1 = ebadf) ∧
      ((s.libevdevSetFd h fd).1 < 0 → (s.libevdevSetFd h fd).2.evdevs = s.evdevs) ∧
      (0 ≤ (s.libevdevSetFd h fd).1 → (s.files fd).isSome ∧ (s.libevdevSetFd h fd).2.evdevs =
        Function.update s.evdevs h (some { v with fd := fd, initialized := true })) ∧
      (s.libevdevSetFd h fd).2.files = s.files ∧
      (s.libevdevSetFd h fd).2.uinputs = s.uinputs := by
  have hbad : ¬ (0 : Int) ≤ ebadf := by decide
  cases hf : s.files fd with
  | none => simp [libevdevSetFd, hv, hf, hbad]
  | some f =>
      by_cases hi : v.initialized = true
      · simp [libevdevSetFd, hv, hf, hi, hbad]
      · simpa [libevdevSetFd, hv, hf, hi] using readMetadata_doc h v fd s

theorem libevdevNewFromFd_doc (fd : Fd) (s : Script) :
    ((s.libevdevNewFromFd fd).1.1 < 0 → views.Same s (s.libevdevNewFromFd fd).2) ∧
      (0 ≤ (s.libevdevNewFromFd fd).1.1 →
        (s.files fd).isSome ∧ (s.libevdevNewFromFd fd).2.files = s.files ∧
          (s.libevdevNewFromFd fd).2.uinputs = s.uinputs ∧
          ∃ h, (s.libevdevNewFromFd fd).1.2 = some h ∧ s.evdevs h = none ∧
            (s.libevdevNewFromFd fd).2.evdevs = Function.update s.evdevs h
              (some { EvdevView.fresh with fd := fd, initialized := true })) := by
  have hnew := s.libevdevNew_doc
  unfold libevdevNewFromFd
  split
  · next s₁ heq =>
    simp only [heq] at hnew
    refine ⟨fun _ => ⟨hnew.2.1, hnew.1, hnew.2.2⟩, fun hnonneg => ?_⟩
    have hneg : ¬ (0 : Int) ≤ -12 := by decide
    exact absurd hnonneg hneg
  · next h s₁ heq =>
    simp only [heq] at hnew
    rcases hnew with ⟨⟨hfresh, hev⟩, hfiles, hui⟩
    have hv : s₁.evdevs h = some .fresh := by simp [hev]
    have hset := libevdevSetFd_doc hv fd
    by_cases hneg : (s₁.libevdevSetFd h fd).1 < 0
    · -- The object is freed again, so that nothing observable has changed.
      have hback : Function.update (Function.update s.evdevs h (some .fresh)) h none =
          s.evdevs := by
        rw [Function.update_idem, ← hfresh, Function.update_eq_self]
      simp only [hneg, if_true]
      refine ⟨fun _ => ⟨?_, ?_, ?_⟩, fun hnonneg => by omega⟩
      · exact (hset.2.2.2.1).trans hfiles
      · show Function.update (s₁.libevdevSetFd h fd).2.evdevs h none = s.evdevs
        rw [hset.2.1 hneg, hev, hback]
      · exact (hset.2.2.2.2).trans hui
    · simp only [hneg, if_false]
      refine ⟨fun hlt => hlt.elim, fun hnonneg => ?_⟩
      rcases hset.2.2.1 hnonneg with ⟨hopen, hupd⟩
      refine ⟨hfiles ▸ hopen, hset.2.2.2.1.trans hfiles, hset.2.2.2.2.trans hui, h, rfl,
        hfresh, ?_⟩
      rw [hupd, hev, Function.update_idem]

theorem libevdevGrab_doc {h : Handle} {s : Script} {v : EvdevView} (hv : s.evdevs h = some v)
    (mode : GrabMode) :
    ((s.libevdevGrab h mode).1 < 0 → (s.libevdevGrab h mode).2.evdevs = s.evdevs) ∧
      (0 ≤ (s.libevdevGrab h mode).1 → (s.libevdevGrab h mode).2.evdevs =
        Function.update s.evdevs h (some { v with grabbed := decide (mode = .grab) })) ∧
      (s.libevdevGrab h mode).2.files = s.files ∧
      (s.libevdevGrab h mode).2.uinputs = s.uinputs := by
  have hbad : ¬ (0 : Int) ≤ ebadf := by decide
  by_cases hi : v.initialized = true
  · by_cases hg : v.grabbed = decide (mode = .grab)
    · have hsame : ({ v with grabbed := decide (mode = .grab) } : EvdevView) = v := by
        rw [← hg]
      have hself : Function.update s.evdevs h (some v) = s.evdevs := by
        rw [← hv, Function.update_eq_self]
      have hcall : s.libevdevGrab h mode = (0, s) := by
        simp [libevdevGrab, hv, hi, hg]
      rw [hcall, hsame, hself]
      simp
    · cases hs : s.grabs with
      | nil => simp [libevdevGrab, hv, hi, hg, hs]
      | cons g rest =>
          by_cases hneg : g < 0
          · have hpos : ¬ 0 ≤ g := by omega
            simp [libevdevGrab, hv, hi, hg, hs, hneg, hpos]
          · simp [libevdevGrab, hv, hi, hg, hs, hneg]
  · simp [libevdevGrab, hv, hi, hbad]

theorem libevdevNextEvent_doc (flags : ReadFlag) (s : Script) :
    ((s.libevdevNextEvent flags).1.1 < 0 → (s.libevdevNextEvent flags).1.2 = none) ∧
      ((s.libevdevNextEvent flags).1.2 = none → 0 ≤ (s.libevdevNextEvent flags).1.1 →
        flags &&& ReadFlag.forceSync ≠ 0 ∧ (s.libevdevNextEvent flags).1.1 = 1) ∧
      ∀ e, (s.libevdevNextEvent flags).1.2 = some e → e.type ≤ evMax := by
  unfold libevdevNextEvent
  split
  · simp
  · next status stored rest hev =>
    by_cases hneg : status < 0
    · simp only [hneg, if_true, implies_true, true_and]
      exact ⟨fun _ hnonneg => by omega, fun e he => by cases he⟩
    · cases stored with
      | some e =>
          by_cases ht : e.type ≤ evMax
          · simp [hneg, ht]
          · simp [hneg, ht]
      | none =>
          by_cases hf : flags &&& ReadFlag.forceSync = 0#32
          · simp [hneg, hf]
          · simp [hneg, hf]

theorem libevdevUinputCreateFromDevice_doc (s : Script) :
    (s.libevdevUinputCreateFromDevice.1.1 < 0 →
        s.libevdevUinputCreateFromDevice.2.uinputs = s.uinputs) ∧
      (0 ≤ s.libevdevUinputCreateFromDevice.1.1 →
        ∃ u, s.libevdevUinputCreateFromDevice.1.2 = some u ∧ s.uinputs u = false ∧
          s.libevdevUinputCreateFromDevice.2.uinputs = Function.update s.uinputs u true) ∧
      s.libevdevUinputCreateFromDevice.2.evdevs = s.evdevs := by
  unfold libevdevUinputCreateFromDevice
  split
  · simp
  · next u rest hu =>
    split
    · next hfree => simpa using hfree
    · simp

theorem documented : platform.Documented views where
  posixOpen := fun _ _ s => s.posixOpen_doc
  posixClose := fun _ _ => ⟨rfl, rfl, rfl⟩
  fcntlGetfl := by
    intro fd s
    cases hf : s.files fd with
    | none => simp [platform, fcntlGetfl, views, Views.Same, hf]
    | some f => simp [platform, fcntlGetfl, views, Views.Same, hf]
  fcntlSetfl := by
    intro fd flags s
    cases hf : s.files fd with
    | none => simp [platform, fcntlSetfl, views, hf]
    | some f =>
        have hcall : platform.fcntlSetfl fd flags s = (0, { s with
            files := Function.update s.files fd
              (some ((f &&& ~~~ settable) ||| (flags &&& settable))) }) := by
          simp [platform, fcntlSetfl, hf]
        rw [hcall]
        refine ⟨fun _ => ⟨f, hf, Function.update_self ..⟩, fun n => ?_, fun hneg => ?_, rfl, rfl⟩
        · by_cases hn : n = fd
          · subst hn
            simp [views, hf]
          · simp [views, hn]
        · exact absurd hneg (Int.lt_irrefl 0)
  settable := by decide
  libevdevNew := fun s => s.libevdevNew_doc
  libevdevNewFromFd := fun fd s => s.libevdevNewFromFd_doc fd
  libevdevFree := fun _ _ _ _ => ⟨rfl, rfl, rfl⟩
  libevdevSetFd := by
    intro h fd s v hv
    have hset := libevdevSetFd_doc hv fd
    exact ⟨hset.1, hset.2.1, fun hnonneg => (hset.2.2.1 hnonneg).2, hset.2.2.2⟩
  libevdevChangeFd := by
    intro h fd s v hv
    have hv' : s.evdevs h = some v := hv
    by_cases hi : v.initialized = true
    · have hcall : platform.libevdevChangeFd h fd s = (0, { s with
          evdevs := Function.update s.evdevs h (some { v with fd := fd, grabbed := false }) }) := by
        simp [platform, libevdevChangeFd, hv', hi]
      rw [hcall]
      exact ⟨fun _ => ⟨hi, false, by simp, rfl⟩, fun hne => absurd rfl hne, rfl, rfl⟩
    · simp [platform, libevdevChangeFd, views, hv', hi]
  libevdevGetFd := by
    intro h s v hv
    have hv' : s.evdevs h = some v := hv
    simp [platform, libevdevGetFd, hv']
  libevdevGrab := fun _ mode _ _ hv => libevdevGrab_doc hv mode
  libevdevSetDeviceLogFunction := by
    intro h priority data s v hv
    have hv' : s.evdevs h = some v := hv
    simp [platform, libevdevSetDeviceLogFunction, views, hv']
  libevdevNextEvent := fun _ flags s => s.libevdevNextEvent_doc flags
  libevdevUinputCreateFromDevice := fun _ _ s => s.libevdevUinputCreateFromDevice_doc
  libevdevUinputDestroy := fun _ _ => ⟨rfl, rfl⟩

end Script

end Evdevxx
