import Evdevxx.Model.Logging
import Evdevxx.Model.Scripted
import Evdevxx.Device.Evaluation

/-!
# Logging — the logging constructors never finish

`create(LogLevel)` calls `create(LogLevel, int)`, which begins by calling `create(LogLevel)`.  No
budget on the depth of the call stack suffices for either, nor for what calls them.
-/

namespace Evdevxx

namespace Device

variable {σ : Type}

/-- With enough depth the logging way `logging` of building the device at `this` returns, and the
device is then valid, reads from the same descriptor and owns the same descriptor as after the way
`plain` without logging. -/
structure BuildsLike (P : Platform σ) (this : DeviceId) (logging : Nat → Op σ Unit)
    (plain : Op σ Unit) (w : World σ) : Prop where
  finishes : ∃ depth w₁, logging depth w = .returned () w₁
  same : ∀ depth w₁ w₂, logging depth w = .returned () w₁ → plain w = .returned () w₂ →
    ∃ D₁ h₁ D₂ h₂, w₁.devices this = some D₁ ∧ D₁.raw = some h₁ ∧
      w₂.devices this = some D₂ ∧ D₂.raw = some h₂ ∧
      P.libevdevGetFd h₁ w₁.env = P.libevdevGetFd h₂ w₂.env ∧ D₁.ownedFd = D₂.ownedFd

/-- The way `build` followed by `set_fd(fd)`. -/
def thenSetFd (P : Platform σ) (this : DeviceId) (fd : Fd) (build : Op σ Unit) : Op σ Unit := do
  build
  setFd P this fd

/-- The way `build` followed by `open(filename, flags)`. -/
def thenOpen (P : Platform σ) (this : DeviceId) (filename : String) (flags : BitVec 32)
    (build : Op σ Unit) : Op σ Unit := do
  build
  openPath P this filename flags

section Exhausted

variable (P : Platform σ) (this : DeviceId) (priority : LogLevel) (w : World σ)

/-- The induction is on the depth that is left: each overload passes the call on to the other one
before it does anything else. -/
theorem createLog_exhausted (depth : Nat) :
    createLog P this priority depth w = .exhausted ∧
      ∀ fd, createLogFd P this priority fd depth w = .exhausted := by
  induction depth with
  | zero =>
      constructor
      · simp [createLog]
      · intro fd
        simp [createLogFd]
  | succ depth ih =>
      rcases ih with ⟨hlog, hlogFd⟩
      constructor
      · rw [createLog]
        exact hlogFd (-1)
      · intro fd
        rw [createLogFd, Prog.bind_apply, hlog, Outcome.exhausted_andThen]

theorem createLogPath_exhausted (filename : String) (flags : BitVec 32) (depth : Nat) :
    createLogPath P this priority filename flags depth w = .exhausted := by
  cases depth with
  | zero => simp [createLogPath]
  | succ depth =>
      -- The handler is not reached: nothing is thrown.
      refine Prog.catchRethrow_of_exhausted _ ?_
      rw [Prog.bind_apply, (createLog_exhausted P this priority w depth).1,
        Outcome.exhausted_andThen]

/-- A constructor whose body runs out of budget does not end. -/
theorem construct_after_ne {body : Op σ Unit} {w' : World σ}
    (hbody : ∀ w, body w = .exhausted) : (construct this body w).after ≠ some w' := by
  intro hafter
  -- The body would have to return or to throw.
  rcases after_construct hafter with ⟨_, hend | ⟨e, w₁, hend, _⟩⟩
  · rw [hbody] at hend
    cases hend
  · rw [hbody] at hend
    cases hend

theorem construct_ne_returned {body : Op σ Unit} {w' : World σ}
    (hbody : ∀ w, body w = .exhausted) : construct this body w ≠ .returned () w' := by
  intro hret
  have hafter : (construct this body w).after = some w' := by rw [hret, Outcome.after_returned]
  exact construct_after_ne this w hbody hafter

end Exhausted

/-- None of the logging ways of building a device does what the way without logging does: none of
them ever returns, whatever the arguments and the platform are. -/
theorem logging_never_builds (P : Platform σ) (this : DeviceId) (priority : LogLevel) (fd : Fd)
    (filename : String) (flags : BitVec 32) (w : World σ) :
    (¬ BuildsLike P this (createLog P this priority) (create P this) w ∧
      ¬ BuildsLike P this (createLogFd P this priority fd)
        (thenSetFd P this fd (create P this)) w ∧
      ¬ BuildsLike P this (createLogPath P this priority filename flags)
        (thenOpen P this filename flags (create P this)) w) ∧
    (¬ BuildsLike P this (constructLog P this priority) (constructDefault P this) w ∧
      ¬ BuildsLike P this (constructLogFd P this priority fd)
        (thenSetFd P this fd (constructDefault P this)) w ∧
      ¬ BuildsLike P this (constructLogPath P this priority filename flags)
        (thenOpen P this filename flags (constructDefault P this)) w) := by
  have hlog : ∀ depth w, createLog P this priority depth w = .exhausted := fun depth w =>
    (createLog_exhausted P this priority w depth).1
  have hlogFd : ∀ depth w, createLogFd P this priority fd depth w = .exhausted := fun depth w =>
    (createLog_exhausted P this priority w depth).2 fd
  have hlogPath : ∀ depth w, createLogPath P this priority filename flags depth w = .exhausted :=
    fun depth w => createLogPath_exhausted P this priority w filename flags depth
  -- What runs out of every budget builds nothing.
  have hnot : ∀ {logging : Nat → Op σ Unit} {plain : Op σ Unit},
      (∀ depth, logging depth w = .exhausted) → ¬ BuildsLike P this logging plain w := by
    intro logging plain hexhausted hbuilds
    rcases hbuilds.finishes with ⟨depth, w₁, hret⟩
    rw [hexhausted depth] at hret
    cases hret
  refine ⟨⟨hnot fun depth => hlog depth w, hnot fun depth => hlogFd depth w,
    hnot fun depth => hlogPath depth w⟩, fun hbuilds => ?_, fun hbuilds => ?_, fun hbuilds => ?_⟩
  · rcases hbuilds.finishes with ⟨depth, w₁, hret⟩
    exact construct_ne_returned this w (hlog depth) hret
  · rcases hbuilds.finishes with ⟨depth, w₁, hret⟩
    exact construct_ne_returned this w (hlogFd depth) hret
  · rcases hbuilds.finishes with ⟨depth, w₁, hret⟩
    exact construct_ne_returned this w (hlogPath depth) hret

/-- `libevdev_new` would succeed, and the default constructor does. -/
theorem logging_constructor_hangs :
    (∃ w, constructDefault Script.platform 0 (World.init { handles := [0, 1] }) =
        .returned () w) ∧
      ¬ BuildsLike Script.platform 0 (constructLog Script.platform 0 .error)
        (constructDefault Script.platform 0) (World.init { handles := [0, 1] }) := by
  refine ⟨⟨_, rfl⟩, fun hbuilds => ?_⟩
  rcases hbuilds.finishes with ⟨depth, w₁, hret⟩
  exact construct_ne_returned 0 _
    (fun w => (createLog_exhausted Script.platform 0 .error w depth).1) hret

end Device

/-! ## Programs that may log -/

variable {σ : Type} {P : Platform σ} {w w' w₀ : World σ}

end Evdevxx
