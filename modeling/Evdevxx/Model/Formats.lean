import Evdevxx.Logic.Delimited
import Evdevxx.Model.Enabling

/-!
# Formats — the texts of events, axes and flags

`to_string` and `operator <<` of the library's records, and the conversions between `AbsInfo` and
the kernel's record.  `operator <<` writes what `to_string` returns, for each of them.
-/

namespace Evdevxx

variable (T : NameTables)

/-- `to_string(const Event&)`; the time stamp is not a part of it. -/
def Event.toText (e : Event) : Text :=
  e.type.toText T ++ ", ".toList ++ codeToString T e.type e.code ++ " = ".toList ++
    decimal e.value.toInt

namespace AbsInfo

/-- `AbsInfo::AbsInfo(const ::input_absinfo&)` -/
def ofInput (a : InputAbsinfo) : AbsInfo where
  val := a.value
  min := a.minimum
  max := a.maximum
  fuzz := a.fuzz
  flat := a.flat
  res := a.resolution

/-- `to_string(const AbsInfo&)` -/
def toText (info : AbsInfo) : Text :=
  "\x7b val=".toList ++ decimal info.val.toInt ++ ", min=".toList ++ decimal info.min.toInt ++
    ", max=".toList ++ decimal info.max.toInt ++ ", fuzz=".toList ++ decimal info.fuzz.toInt ++
    ", flat=".toList ++ decimal info.flat.toInt ++ ", res=".toList ++ decimal info.res.toInt ++
    " \x7d".toList

@[simp] theorem toInput_ofInput (a : InputAbsinfo) : (ofInput a).toInput = a := rfl

@[simp] theorem ofInput_toInput (info : AbsInfo) : ofInput info.toInput = info := rfl

end AbsInfo

namespace ReadFlag

/-- `if (flag & bit) { result += sep + name; sep = "|"; }`, on `result` and `sep` -/
def append (flag bit : ReadFlag) (name : Text) (s : Text × Text) : Text × Text :=
  if flag &&& bit ≠ 0 then (s.1 ++ s.2 ++ name, ['|']) else s

/-- `to_string(ReadFlag)` -/
def toText (flag : ReadFlag) : Text :=
  let s := append flag normal "normal".toList ([], [])
  let s := append flag resync "resync".toList s
  let s := append flag forceSync "force_sync".toList s
  -- The separator is not needed any more.
  (append flag blocking "blocking".toList s).1

end ReadFlag

end Evdevxx
