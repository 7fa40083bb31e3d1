import Evdevxx.Logic.Hex
import Evdevxx.Logic.Report
import Evdevxx.Model.Details
import Evdevxx.Model.Query
import Evdevxx.Model.ReaderMain

/-!
# QueryMain — `main` of the query tool

The program as it is written, statement by statement, on the world and on what the terminal shows.
`cerr` is tied to `cout`, so the terminal shows what is written to both in the order of the writes.
In C++20 the left operand of `<<` comes first: what stands before a query is written before it.

The loops over properties, types and codes have a budget on the number of their iterations.
-/

namespace Evdevxx

/-- What the tool asks libevdev and the terminal. -/
structure Inquiry (σ : Type) where
  identity : Identity σ
  capabilities : Capabilities σ
  details : Details σ
  names : NameTables
  /-- `ioctl(fd, TIOCGWINSZ, &w)`: the return code, and `w.ws_col` -/
  ioctlTiocgwinsz : Fd → σ → (Int × UInt16) × σ

/-- `O_RDONLY` -/
def oRdonly : BitVec 32 := 0

namespace Query

/-- What the terminal shows: a character from `cout`, or an error from `cerr` with its line. -/
inductive Shown where
  | char (c : Char)
  | error (e : Exn)
  deriving DecidableEq, Repr

/-- Characters on the terminal. -/
def shown (t : Text) : List Shown :=
  t.map Shown.char

/-- A part of the program: on the world, and on what the terminal shows. -/
abbrev Action (σ α : Type) := Prog Exn (World σ × List Shown) α

/-- `label << t << "\n"` -/
def line (label t : Text) : Text :=
  label ++ t ++ ['\n']

/-- `setw(4) << n`, under `hex` and `setfill('0')` -/
def hex4 (n : Nat) : Text :=
  formatHex false 4 '0' n

section

variable {σ : Type} (P : Platform σ) (I : Inquiry σ) (columns : UInt32) (d : DeviceId)
variable (budget : Nat)

/-- `cout << t;` -/
def out (t : Text) : Action σ Unit :=
  Prog.write (shown t)

/-- `print_if(label, arg)` -/
def printIf (label : Text) (arg : Option Text) : Action σ Unit :=
  match arg with
  | some arg => out (line label arg)
  | none => pure ()

/-- The body of the loop of `print_abs`. -/
def printAxis (c : Code) : Action σ Unit := do
  out (line "    ".toList (codeToString I.names EventType.abs c))
  out "        ".toList
  let info ← Prog.onFst (Device.getAbsInfo I.details d c)
  out (info.toText ++ ['\n'])

/-- `print_abs(d)` -/
def printAbs : Action σ Unit := do
  let codes ← Prog.onFst (Device.getCodes I.capabilities I.names d EventType.abs budget)
  Prog.forEach (printAxis I d) codes

/-- The body of the loop over the types. -/
def printType (t : EventType) : Action σ Unit := do
  out (line "  Type: ".toList (t.toText I.names))
  if t = EventType.abs then
    printAbs I d budget
  else if t = EventType.syn then
    pure ()
  else do
    let text ← Prog.onFst (printCodes I.names columns t I.capabilities d budget)
    out text

/-- The numbers of the device, under `hex`. -/
def printNumbers : Action σ Unit := do
  let vendor ← Prog.onFst (Device.getVendor I.identity d)
  out (line "  VID: ".toList (hex4 vendor.toNat))
  let product ← Prog.onFst (Device.getProduct I.identity d)
  out (line "  PID: ".toList (hex4 product.toNat))
  let bustype ← Prog.onFst (Device.getBustype I.identity d)
  out (line "  BUS: ".toList (hex4 bustype.toNat))
  let version ← Prog.onFst (Device.getVersion I.identity d)
  out (line "  VER: ".toList (hex4 version.toNat))
  -- An `int` is written as the `unsigned` with the same bits.
  let driver ← Prog.onFst (Device.getDriverVersion I.identity d)
  out (line "  DRV: ".toList (hex4 (UInt32.ofInt driver).toNat))

/-- `print_device(d)` -/
def printDevice : Action σ Unit := do
  let name ← Prog.onFst (Device.getName I.identity d)
  out (line "  Name: ".toList name)
  let phys ← Prog.onFst (Device.getPhys I.identity d)
  printIf "  Phys: ".toList phys
  let uniq ← Prog.onFst (Device.getUniq I.identity d)
  printIf "  Uniq: ".toList uniq
  printNumbers I d
  let props ← Prog.onFst (Device.getProperties I.details d budget)
  Prog.forEach (fun p => out (line "  Prop: ".toList (p.toText I.names))) props
  let types ← Prog.onFst (Device.getTypes I.capabilities d budget)
  Prog.forEach (printType I columns d budget) types
  out ['\n']

/-- `read_columns_env()`: the new value of `columns`. -/
def readColumnsEnv : Op σ UInt32 := do
  let fd ← Op.posixOpen P "/dev/tty" oRdonly
  let (ret, col) ← fun w =>
    .returned (I.ioctlTiocgwinsz fd w.env).1 (w.withEnv (I.ioctlTiocgwinsz fd w.env).2)
  Op.posixClose P fd
  pure (if ret = 0 then col.toUInt32 else columns)

/-- `cerr << "Error: " << e.what() << endl;` -/
def complain (e : Exn) : Action σ Unit :=
  Prog.write [.error e]

/-- `"Device #" << i << ": " << argv[i] << endl` -/
def header (i : Nat) (path : String) : Text :=
  "Device #".toList ++ decimal i ++ ": ".toList ++ path.toList ++ ['\n']

/-- The body of the loop over the arguments.  The device is a temporary, at the address `d`. -/
def printArgument (arg : String × Nat) : Action σ Unit :=
  Prog.tryCatch
    (do
      out (header arg.2 arg.1)
      Prog.withObject (Prog.onFst (Device.constructPath P d arg.1 Device.defaultFlags))
        (Prog.onFst (Device.destruct P d)) (printDevice I columns d budget))
    complain

/-- `main(argc, argv)`: `args` are the arguments behind the name of the program.  `columns` is 80 at
the start. -/
def main (args : List String) : Action σ Int := do
  let columns ← Prog.onFst (readColumnsEnv P I 80)
  Prog.forEach (printArgument P I columns d budget) (args.zipIdx 1)
  pure 0

end

end Query

end Evdevxx
