import Evdevxx.Device.Capabilities
import Evdevxx.Device.Evaluation
import Evdevxx.Logic.Scope

/-!
# Lifetime — a `Device` that a block opens from a path and destroys

`Restored` compares the worlds before and after: nothing is left of the device.  There is one
exception, the descriptor 0: `create(path)` takes it for a failure of `::open` and forgets it.
-/

namespace Evdevxx

variable {σ : Type}

/-- Nothing observable has happened: the objects are the same, no logged call was made, and the
platform's objects are the same. -/
structure World.Kept (V : Views σ) (w w' : World σ) : Prop where
  devices : w'.devices = w.devices
  uinputs : w'.uinputs = w.uinputs
  grabbers : w'.grabbers = w.grabbers
  log : w'.log = w.log
  env : V.Same w.env w'.env

/-- The objects are the same, and so are the platform's objects but for a descriptor 0 that was not
open before. -/
structure World.Restored (V : Views σ) (w w' : World σ) : Prop where
  devices : w'.devices = w.devices
  uinputs : w'.uinputs = w.uinputs
  grabbers : w'.grabbers = w.grabbers
  files : ∀ fd, V.files w'.env fd = V.files w.env fd ∨ fd = 0 ∧ V.files w.env 0 = none
  evdevs : V.evdevs w'.env = V.evdevs w.env
  udevs : V.uinputs w'.env = V.uinputs w.env

namespace World

variable {V : Views σ} {w w₁ w₂ : World σ}

@[simp] theorem withEnv_withEnv (w : World σ) (s s' : σ) :
    (w.withEnv s).withEnv s' = w.withEnv s' := rfl

theorem Kept.refl (V : Views σ) (w : World σ) : Kept V w w :=
  ⟨rfl, rfl, rfl, rfl, rfl, rfl, rfl⟩

theorem Kept.trans (h : Kept V w w₁) (h' : Kept V w₁ w₂) : Kept V w w₂ where
  devices := h'.devices.trans h.devices
  uinputs := h'.uinputs.trans h.uinputs
  grabbers := h'.grabbers.trans h.grabbers
  log := h'.log.trans h.log
  env := ⟨h'.env.1.trans h.env.1, h'.env.2.1.trans h.env.2.1, h'.env.2.2.trans h.env.2.2⟩

theorem Kept.withEnv {s : σ} (h : V.Same w.env s) : Kept V w (w.withEnv s) :=
  ⟨rfl, rfl, rfl, rfl, h⟩

theorem Kept.valid {dev : DeviceId} (h : Kept V w w₁) (hvalid : Device.Valid w dev) :
    Device.Valid w₁ dev := by
  rcases hvalid with ⟨D, p, hD, hraw⟩
  exact ⟨D, p, by rw [h.devices]; exact hD, hraw⟩

theorem Restored.refl (V : Views σ) (w : World σ) : Restored V w w :=
  ⟨rfl, rfl, rfl, fun _ => Or.inl rfl, rfl, rfl⟩

/-- A descriptor 0 that was open before is still the same after several blocks. -/
theorem Restored.trans (h : Restored V w w₁) (h' : Restored V w₁ w₂) : Restored V w w₂ where
  devices := h'.devices.trans h.devices
  uinputs := h'.uinputs.trans h.uinputs
  grabbers := h'.grabbers.trans h.grabbers
  files := by
    intro fd
    rcases h.files fd with hsame | hzero
    · rcases h'.files fd with hsame' | ⟨rfl, hnone⟩
      · exact Or.inl (hsame'.trans hsame)
      · exact Or.inr ⟨rfl, hsame ▸ hnone⟩
    · exact Or.inr hzero
  evdevs := h'.evdevs.trans h.evdevs
  udevs := h'.udevs.trans h.udevs

end World

namespace Device

variable {P : Platform σ} {V : Views σ} {w w₁ w₂ : World σ} {dev : DeviceId} {h : Handle} {fd : Fd}
variable {path : String} {flags : BitVec 32}

/-- From `w` to `w₁` a device was constructed at `dev`: its handle and its descriptor are new. -/
structure Opens (V : Views σ) (w : World σ) (dev : DeviceId) (h : Handle) (fd : Fd)
    (w₁ : World σ) : Prop where
  fresh : w.devices dev = none
  positive : 1 ≤ fd
  devices : w₁.devices = Function.update w.devices dev (some { raw := some h, ownedFd := fd })
  uinputs : w₁.uinputs = w.uinputs
  grabbers : w₁.grabbers = w.grabbers
  notOpen : V.files w.env fd = none
  files : ∃ f, V.files w₁.env = Function.update (V.files w.env) fd (some f)
  notLive : V.evdevs w.env h = none
  evdevs : ∃ v, V.evdevs w₁.env = Function.update (V.evdevs w.env) h (some v)
  udevs : V.uinputs w₁.env = V.uinputs w.env

/-- A descriptor that is opened and closed again leaves the table as it was. -/
theorem files_of_closed (hdoc : P.Documented V) {s s₁ : σ} {f : BitVec 32}
    (hfresh : V.files s fd = none)
    (hopen : V.files s₁ = Function.update (V.files s) fd (some f)) :
    V.files (P.posixClose fd s₁) = V.files s := by
  rw [(hdoc.posixClose fd s₁).1, hopen, Function.update_idem, ← hfresh, Function.update_eq_self]

/-- `Device(path, flags)` opens a device, or it throws and nothing is left of it. -/
theorem constructPath_cases (hdoc : P.Documented V) (hfree : w.devices dev = none) (path : String)
    (flags : BitVec 32) :
    (∃ e w₁, constructPath P dev path flags w = .threw e w₁ ∧ w.Restored V w₁) ∨
      ∃ h fd w₁, constructPath P dev path flags w = .returned () w₁ ∧ Opens V w dev h fd w₁ := by
  have hborn : (w.setDevice dev (some {})).devices dev = some {} :=
    World.setDevice_devices_self _ _ _
  have hback : Function.update (Function.update w.devices dev (some {})) dev none = w.devices := by
    rw [Function.update_idem, ← hfree, Function.update_eq_self]
  obtain ⟨fd, s₁, hopen⟩ : ∃ fd s₁, P.posixOpen path flags w.env = (fd, s₁) := ⟨_, _, rfl⟩
  obtain ⟨e, ptr, s₂, hnew⟩ : ∃ e ptr s₂, P.libevdevNewFromFd fd s₁ = ((e, ptr), s₂) :=
    ⟨_, _, _, rfl⟩
  have hcreate := createPath_apply (P := P) hborn path flags
  have hopenLaw := hdoc.posixOpen path flags w.env
  have hnewLaw := hdoc.libevdevNewFromFd fd s₁
  simp only [World.setDevice_env, hopen, hnew] at hcreate hopenLaw hnewLaw
  rcases hopenLaw with ⟨hfiles, hevdevs, hudevs⟩
  by_cases hlow : fd < 1
  · -- `::open` has failed, or it has returned 0.
    rw [if_pos hlow] at hcreate
    refine Or.inl ⟨_, _, construct_of_threw hfree hcreate, hback, rfl, rfl, fun n => ?_, hevdevs,
      hudevs⟩
    rcases hfiles with ⟨_, hsame⟩ | ⟨hnonneg, hfresh, f, hupdate⟩
    · exact Or.inl (congrFun hsame n)
    · have hzero : fd = 0 := Int.le_antisymm (Int.lt_add_one_iff.1 hlow) hnonneg
      subst hzero
      by_cases hn : n = 0
      · exact Or.inr ⟨hn, hfresh⟩
      · exact Or.inl ((congrFun hupdate n).trans (Function.update_of_ne hn _ _))
  · have hpositive : 1 ≤ fd := Int.not_lt.1 hlow
    rw [if_neg hlow] at hcreate
    rcases hfiles with ⟨rfl, _⟩ | ⟨_, hfresh, f, hupdate⟩
    · exact absurd hpositive (by decide)
    by_cases hneg : e < 0
    · rw [if_pos hneg] at hcreate
      rcases hnewLaw.1 hneg with ⟨hsame, hsameEv, hsameU⟩
      rcases hdoc.posixClose fd s₂ with ⟨_, hcloseEv, hcloseU⟩
      refine Or.inl ⟨_, _, construct_of_threw hfree hcreate, hback, rfl, rfl, fun n => Or.inl ?_,
        hcloseEv.trans (hsameEv.trans hevdevs), hcloseU.trans (hsameU.trans hudevs)⟩
      exact congrFun (files_of_closed hdoc hfresh (hsame.trans hupdate)) n
    · rw [if_neg hneg] at hcreate
      rcases hnewLaw.2 (Int.not_lt.1 hneg) with ⟨_, hsame, hsameU, h, hptr, hnotLive, hlive⟩
      subst hptr
      refine Or.inr ⟨h, fd, _, construct_of_returned hfree hcreate, hfree, hpositive, ?_, ?_, ?_,
        hfresh, ⟨f, ?_⟩, ?_, ⟨{ EvdevView.fresh with fd := fd, initialized := true }, ?_⟩, ?_⟩
      · simp
      · simp
      · simp
      · simpa using hsame.trans hupdate
      · exact (congrFun hevdevs h).symm.trans hnotLive
      · simpa using hlive.trans (by rw [hevdevs])
      · simpa using hsameU.trans hudevs

theorem Opens.valid (hopens : Opens V w dev h fd w₁) : Valid w₁ dev :=
  ⟨{ raw := some h, ownedFd := fd }, h, by rw [hopens.devices, Function.update_self], rfl⟩

/-- What kept the opened device keeps it, and its destructor then removes all that was made for it. -/
theorem Opens.destruct (hdoc : P.Documented V) (hopens : Opens V w dev h fd w₁)
    (hkept : w₁.Kept V w₂) :
    ∃ w₃, destruct P dev w₂ = .returned () w₃ ∧ w.Restored V w₃ := by
  have hD : w₂.devices dev = some { raw := some h, ownedFd := fd } := by
    rw [hkept.devices, hopens.devices, Function.update_self]
  have hne : fd ≠ -1 := ne_minusOne_of_nonneg (Int.le_trans (by decide) hopens.positive)
  rcases hopens.files with ⟨f, hfiles⟩
  rcases hopens.evdevs with ⟨v, hevdevs⟩
  have hlive : V.evdevs w₂.env h = some v := by
    rw [hkept.env.2.1, hevdevs, Function.update_self]
  rcases hdoc.libevdevFree h w₂.env v hlive with ⟨hfree, hfreeFiles, hfreeU⟩
  rcases hdoc.posixClose fd (P.libevdevFree h w₂.env) with ⟨_, hcloseEv, hcloseU⟩
  refine ⟨_, destruct_apply hD, ?_⟩
  simp only [World.disposed, World.freed, World.closed_of_ne P _ _ hne]
  refine ⟨?_, ?_, ?_, fun n => Or.inl ?_, ?_, ?_⟩
  · show Function.update w₂.devices dev none = w.devices
    rw [hkept.devices, hopens.devices, Function.update_idem, ← hopens.fresh,
      Function.update_eq_self]
  · exact hkept.uinputs.trans hopens.uinputs
  · exact hkept.grabbers.trans hopens.grabbers
  · exact congrFun (files_of_closed hdoc hopens.notOpen
      (hfreeFiles.trans (hkept.env.1.trans hfiles))) n
  · refine hcloseEv.trans (hfree.trans ?_)
    rw [hkept.env.2.1, hevdevs, Function.update_idem, ← hopens.notLive, Function.update_eq_self]
  · exact hcloseU.trans (hfreeU.trans (hkept.env.2.2.trans hopens.udevs))

/-- A block with a local device that its body keeps: nothing is left of the device, whether the block
is left normally, by an exception of its body or by one of the constructor. -/
theorem ends_withDevice {χ α : Type} {lim : Prop} (hdoc : P.Documented V)
    (hfree : w.devices dev = none) {x : χ}
    {body : Prog Exn (World σ × χ) α} (ret : α → χ → Prop) (exc : Exn → χ → Prop)
    (hthrew : ∀ e w₁, constructPath P dev path flags w = .threw e w₁ → exc e x)
    (hbody : ∀ w₁, constructPath P dev path flags w = .returned () w₁ → Valid w₁ dev →
      body.Ends lim (fun a s => w₁.Kept V s.1 ∧ ret a s.2)
        (fun e s => w₁.Kept V s.1 ∧ exc e s.2) (w₁, x)) :
    (Prog.withObject (Prog.onFst (constructPath P dev path flags)) (Prog.onFst (Device.destruct P dev))
      body).Ends lim (fun a s => w.Restored V s.1 ∧ ret a s.2)
        (fun e s => w.Restored V s.1 ∧ exc e s.2) (w, x) := by
  refine Prog.ends_bind.2 (Prog.ends_onFst.2 ?_)
  rcases constructPath_cases hdoc hfree path flags with
    ⟨e, w₁, hcons, hrestored⟩ | ⟨h, fd, w₁, hcons, hopens⟩
  · exact Prog.ends_of_threw hcons ⟨hrestored, hthrew e w₁ hcons⟩
  · refine Prog.ends_of_returned hcons (Prog.ends_andFinally.2 ?_)
    refine (hbody w₁ hcons hopens.valid).mono ?_ ?_
    · rintro a s ⟨hkept, hret⟩
      rcases hopens.destruct hdoc hkept with ⟨w₃, hdtor, hrestored⟩
      exact Prog.ends_onFst.2 (Prog.ends_of_returned hdtor ⟨hrestored, hret⟩)
    · rintro e s ⟨hkept, hexc⟩
      rcases hopens.destruct hdoc hkept with ⟨w₃, hdtor, hrestored⟩
      exact Prog.ends_onFst.2 (Prog.ends_of_returned hdtor ⟨hrestored, hexc⟩)

end Device

end Evdevxx
