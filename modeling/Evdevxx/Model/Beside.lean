import Evdevxx.Model.Platform

/-!
# Beside — a platform with a state beside its own

What is modelled apart from the platform, such as the codes of a device or what a `Uinput` accepts, may
have a state of its own.  The calls of the platform leave it as it is.
-/

namespace Evdevxx

variable {σ τ : Type}

/-- A call that leaves the state beside it as it is. -/
def beside {α : Type} (call : σ → α × σ) (s : σ × τ) : α × (σ × τ) :=
  ((call s.1).1, ((call s.1).2, s.2))

def Platform.beside (P : Platform σ) (τ : Type) : Platform (σ × τ) where
  errno := fun s => P.errno s.1
  posixOpen := fun path flags => Evdevxx.beside (P.posixOpen path flags)
  posixClose := fun fd s => (P.posixClose fd s.1, s.2)
  fcntlGetfl := fun fd => Evdevxx.beside (P.fcntlGetfl fd)
  fcntlSetfl := fun fd flags => Evdevxx.beside (P.fcntlSetfl fd flags)
  libevdevNew := Evdevxx.beside P.libevdevNew
  libevdevNewFromFd := fun fd => Evdevxx.beside (P.libevdevNewFromFd fd)
  libevdevFree := fun h s => (P.libevdevFree h s.1, s.2)
  libevdevSetFd := fun h fd => Evdevxx.beside (P.libevdevSetFd h fd)
  libevdevChangeFd := fun h fd => Evdevxx.beside (P.libevdevChangeFd h fd)
  libevdevGetFd := fun h s => P.libevdevGetFd h s.1
  libevdevGrab := fun h mode => Evdevxx.beside (P.libevdevGrab h mode)
  libevdevSetDeviceLogFunction := fun h priority data s =>
    (P.libevdevSetDeviceLogFunction h priority data s.1, s.2)
  libevdevNextEvent := fun h flags => Evdevxx.beside (P.libevdevNextEvent h flags)
  libevdevUinputCreateFromDevice := fun h fd =>
    Evdevxx.beside (P.libevdevUinputCreateFromDevice h fd)
  libevdevUinputDestroy := fun u s => (P.libevdevUinputDestroy u s.1, s.2)

def Views.beside (V : Views σ) (τ : Type) : Views (σ × τ) where
  files := fun s => V.files s.1
  evdevs := fun s => V.evdevs s.1
  uinputs := fun s => V.uinputs s.1
  settable := V.settable

/-- The behaviour is still the documented one. -/
theorem Platform.Documented.beside {P : Platform σ} {V : Views σ} (hdoc : P.Documented V)
    (τ : Type) : (P.beside τ).Documented (V.beside τ) where
  posixOpen := fun path flags s => hdoc.posixOpen path flags s.1
  posixClose := fun fd s => hdoc.posixClose fd s.1
  fcntlGetfl := fun fd s => hdoc.fcntlGetfl fd s.1
  fcntlSetfl := fun fd flags s => hdoc.fcntlSetfl fd flags s.1
  settable := hdoc.settable
  libevdevNew := fun s => hdoc.libevdevNew s.1
  libevdevNewFromFd := fun fd s => hdoc.libevdevNewFromFd fd s.1
  libevdevFree := fun h s => hdoc.libevdevFree h s.1
  libevdevSetFd := fun h fd s => hdoc.libevdevSetFd h fd s.1
  libevdevChangeFd := fun h fd s => hdoc.libevdevChangeFd h fd s.1
  libevdevGetFd := fun h s => hdoc.libevdevGetFd h s.1
  libevdevGrab := fun h mode s => hdoc.libevdevGrab h mode s.1
  libevdevSetDeviceLogFunction := fun h priority data s =>
    hdoc.libevdevSetDeviceLogFunction h priority data s.1
  libevdevNextEvent := fun h flags s => hdoc.libevdevNextEvent h flags s.1
  libevdevUinputCreateFromDevice := fun h fd s => hdoc.libevdevUinputCreateFromDevice h fd s.1
  libevdevUinputDestroy := fun u s => hdoc.libevdevUinputDestroy u s.1

end Evdevxx
