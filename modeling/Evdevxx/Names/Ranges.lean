import Evdevxx.Logic.Precondition
import Evdevxx.Logic.Run
import Evdevxx.Model.Numbers
import Evdevxx.Model.Sample

/-!
# Ranges — which programs keep their types and properties in range

The constructors check the numbers they are given, but the increments are those of the template,
which knows no bound: an increment of the largest number leaves the range, and a postfix increment
of an object out of range throws in a `noexcept` function.
-/

namespace Evdevxx

namespace NumberClass

variable {V D : Type}

/-! ## Objects in range -/

section Range

variable [LE V] {C : NumberClass V D} {max : V} {objects : List D} {d : D} {i : Nat}

/-- All objects hold numbers up to `max`. -/
def InRange (C : NumberClass V D) (max : V) (objects : List D) : Prop :=
  ∀ d ∈ objects, C.value d ≤ max

theorem inRange_nil (C : NumberClass V D) (max : V) : C.InRange max [] := by
  intro d hd
  cases hd

theorem InRange.append (h : C.InRange max objects) (hd : C.value d ≤ max) :
    C.InRange max (objects ++ [d]) := by
  intro x hx
  rcases List.mem_append.1 hx with hold | hnew
  · exact h x hold
  · exact (List.mem_singleton.1 hnew) ▸ hd

theorem InRange.set (h : C.InRange max objects) (hd : C.value d ≤ max) :
    C.InRange max (objects.set i d) := by
  intro x hx
  rcases List.mem_or_eq_of_mem_set hx with hold | rfl
  · exact h x hold
  · exact hd

theorem InRange.get (h : C.InRange max objects) (hd : objects[i]? = some d) : C.value d ≤ max :=
  h d (List.mem_of_getElem? hd)

end Range

/-! ## The parts of an operation -/

section Parts

variable {C : NumberClass V D} {objects : List D} {d : D} {i : Nat}

theorem wp_constructed {ret exc} :
    (constructed d).wp ret exc objects ↔ ret () (objects ++ [d]) := Iff.rfl

/-- Working on an object has a meaning if there is one. -/
theorem wp_onObject {α : Type} {p : Prog StdError D α} {ret exc} :
    (onObject i p).wp ret exc objects ↔
      ∀ d, objects[i]? = some d →
        p.wp (fun a d => ret a (objects.set i d)) (fun e d => exc e (objects.set i d)) d := by
  cases hd : objects[i]? with
  | none => simp [Prog.wp, onObject, hd]
  | some d =>
      simp only [Prog.wp, onObject, hd, Option.some.injEq, forall_eq']
      cases p d with
      | returned a d' => exact Iff.rfl
      | threw e d' => exact Iff.rfl
      | terminated => exact Iff.rfl
      | undefined => exact Iff.rfl
      | exhausted => exact Iff.rfl

variable [Add V] [OfNat V 1]

theorem wp_preIncrement {ret exc} :
    C.preIncrement.wp ret exc d ↔ ret () (C.advance d) := Iff.rfl

/-- A postfix increment copies the object through the constructor that checks it. -/
theorem wp_postIncrement {ret exc} :
    C.postIncrement.wp ret exc d ↔
      ∃ old, C.ofNumber (C.value d) = .ok old ∧ ret old (C.advance d) := by
  simp only [postIncrement, Prog.wp_noexcept, Prog.wp_bind, Prog.wp_gets, Prog.wp_ofExcept]
  cases C.ofNumber (C.value d) with
  | ok old => simp [incrementValue, Prog.wp]
  | error e => simp

end Parts

/-! ## Bounded classes -/

section Bounded

variable [Add V] [OfNat V 1] [LE V]

/-- The constructors accept the numbers up to `max`, and only those; the next number after a smaller
one is still in range, and the next one after `max` is not. -/
structure Bounded (C : NumberClass V D) (max : V) : Prop where
  base_withBase : ∀ n, C.base (C.withBase n) = n
  construct : C.value C.construct ≤ max
  accepts : ∀ v, v ≤ max → ∃ d, C.ofNumber v = .ok d ∧ C.value d = v
  rejects : ∀ v d, C.ofNumber v = .ok d → C.value d ≤ max
  parse : ∀ name pos, (C.parse name).wp (fun d _ => C.value d ≤ max) (fun _ _ => True) pos
  below : ∀ v, v ≤ max → v ≠ max → v + 1 ≤ max
  above : ¬ max + 1 ≤ max

/-- The operation raises no exception in a `noexcept` function, and afterwards all objects are in
range. -/
def Keeps (C : NumberClass V D) (max : V) (objects : List D) (op : NumberOp V) : Prop :=
  C.exec op objects ≠ .terminated ∧ ∀ objects', C.Step objects op objects' → C.InRange max objects'

/-- An object that holds `max` is not incremented. -/
def StaysBelow (C : NumberClass V D) (max : V) (objects : List D) (op : NumberOp V) : Prop :=
  ∀ i d, op.incremented = some i → objects[i]? = some d → C.value d ≠ max

variable {C : NumberClass V D} {max : V} {objects : List D} {op : NumberOp V}

theorem keeps_iff_wp (objects : List D) (op : NumberOp V) :
    C.Keeps max objects op ↔
      (C.exec op).wp (fun _ => C.InRange max) (fun _ => C.InRange max) objects :=
  (Prog.wp_iff_after _).symm

theorem Bounded.value_advance (hC : C.Bounded max) (d : D) :
    C.value (C.advance d) = C.value d + 1 := by
  rw [value, advance, hC.base_withBase]

theorem Bounded.value_advance_le_iff (hC : C.Bounded max) {d : D} (hd : C.value d ≤ max) :
    C.value (C.advance d) ≤ max ↔ C.value d ≠ max := by
  rw [hC.value_advance]
  exact ⟨fun hle heq => hC.above (heq ▸ hle), fun hne => hC.below _ hd hne⟩

/-- Of objects in range, only the one that is incremented may leave it. -/
theorem Bounded.inRange_set_advance_iff (hC : C.Bounded max) (h : C.InRange max objects) {i : Nat}
    {d : D} (hd : objects[i]? = some d) :
    C.InRange max (objects.set i (C.advance d)) ↔ C.value d ≠ max := by
  rw [← hC.value_advance_le_iff (h.get hd)]
  refine ⟨fun hrange => ?_, fun hle => h.set hle⟩
  have hlt : i < objects.length := (List.getElem?_eq_some_iff.1 hd).1
  exact hrange _ (List.mem_set hlt _)

/-- From objects in range, an operation stays in range exactly if it increments none that holds the
largest number. -/
theorem Bounded.keeps_iff (hC : C.Bounded max) (h : C.InRange max objects) :
    C.Keeps max objects op ↔ C.StaysBelow max objects op := by
  rw [keeps_iff_wp]
  cases op with
  | construct =>
      exact iff_of_true (h.append hC.construct) fun i d hi => (by cases hi)
  | ofNumber number =>
      refine iff_of_true ?_ fun i d hi => (by cases hi)
      simp only [exec, Prog.wp_bind, Prog.wp_ofExcept, wp_constructed]
      refine ⟨fun d hd => ?_, fun _ _ => h⟩
      exact h.append (hC.rejects number d hd)
  | parse name pos =>
      refine iff_of_true ?_ fun i d hi => (by cases hi)
      simp only [exec, Prog.wp_bind, Prog.wp_withLocal, Prog.wp_onSnd, wp_constructed]
      exact Prog.wp_mono (fun d _ hd => h.append hd) (fun _ _ _ => h) (hC.parse name pos)
  | copy i =>
      refine iff_of_true ?_ fun i d hi => (by cases hi)
      simp only [exec, Prog.wp_bind, wp_onObject, Prog.wp_gets, wp_constructed]
      intro d hd
      exact (h.set (h.get hd)).append (h.get hd)
  | preIncrement i =>
      simp only [exec, wp_onObject, wp_preIncrement]
      constructor
      · intro hkeeps j d hj hd
        cases hj
        exact (hC.inRange_set_advance_iff h hd).1 (hkeeps d hd)
      · intro hbelow d hd
        exact (hC.inRange_set_advance_iff h hd).2 (hbelow i d rfl hd)
  | postIncrement i =>
      simp only [exec, Prog.wp_bind, wp_onObject, wp_postIncrement, wp_constructed]
      constructor
      · intro hkeeps j d hj hd
        cases hj
        rcases hkeeps d hd with ⟨old, _, hrange⟩
        exact (hC.inRange_set_advance_iff h hd).1 fun x hx => hrange x (List.mem_append_left _ hx)
      · intro hbelow d hd
        rcases hC.accepts _ (h.get hd) with ⟨old, hold, hvalue⟩
        have hrange := (hC.inRange_set_advance_iff h hd).2 (hbelow i d rfl hd)
        exact ⟨old, hold, hrange.append (hvalue.symm ▸ h.get hd)⟩

/-- A program keeps everything in range exactly if it never increments the largest number. -/
theorem Bounded.always_iff (hC : C.Bounded max) (ops : List (NumberOp V)) :
    Always C.Step (C.Keeps max) [] ops ↔ Always C.Step (C.StaysBelow max) [] ops :=
  Always.congr_of_invariant (C.InRange max) (fun _ => True)
    (fun _ _ h _ => hC.keeps_iff h)
    (fun _ _ objects' h _ hbelow hstep => ((hC.keeps_iff h).2 hbelow).2 objects' hstep)
    [] (inRange_nil C max) (fun _ _ => trivial)

end Bounded

end NumberClass

/-! ## Types and properties -/

section Classes

variable (T : NameTables)

theorem EventType.numbers_bounded : (EventType.numbers T).Bounded evMax where
  base_withBase := fun _ => rfl
  construct := UInt16.zero_le
  accepts := fun v hv => ⟨⟨⟨v⟩⟩, EventType.ofNumber_of_le hv, rfl⟩
  rejects := fun v d hd => EventType.le_of_ofNumber hd
  parse := by
    intro name pos
    simp only [EventType.numbers, EventType.parse]
    split
    · exact trivial
    · simp only [Prog.wp_bind, Prog.wp_ofExcept]
      exact ⟨fun d hd => EventType.le_of_ofNumber hd, fun _ _ => trivial⟩
  below := by
    intro v hle hne
    rw [UInt16.le_iff_toNat_le] at hle ⊢
    have hneq : v.toNat ≠ evMax.toNat := fun h => hne (UInt16.toNat_inj.1 h)
    have hmax : evMax.toNat = 31 := rfl
    have hone : (1 : UInt16).toNat = 1 := rfl
    rw [UInt16.toNat_add, hone]
    omega
  above := by decide

theorem Property.numbers_bounded : (Property.numbers T).Bounded inputPropMax where
  base_withBase := fun _ => rfl
  construct := UInt32.zero_le
  accepts := fun v hv => ⟨⟨⟨v⟩⟩, Property.ofNumber_of_le hv, rfl⟩
  rejects := fun v d hd => Property.le_of_ofNumber hd
  parse := by
    intro name pos
    simp only [Property.numbers, Property.parse]
    split
    · exact trivial
    · simp only [Prog.wp_bind, Prog.wp_ofExcept]
      exact ⟨fun d hd => Property.le_of_ofNumber hd, fun _ _ => trivial⟩
  below := by
    intro v hle hne
    rw [UInt32.le_iff_toNat_le] at hle ⊢
    have hneq : v.toNat ≠ inputPropMax.toNat := fun h => hne (UInt32.toNat_inj.1 h)
    have hmax : inputPropMax.toNat = 31 := rfl
    have hone : (1 : UInt32).toNat = 1 := rfl
    rw [UInt32.toNat_add, hone]
    omega
  above := by decide

/-- In a program with any operations, all types and all properties stay in range, and no `noexcept`
function throws, exactly if no object is incremented that holds the largest number. -/
theorem numbers_in_range_iff :
    (∀ ops, Always (EventType.numbers T).Step ((EventType.numbers T).Keeps evMax) [] ops ↔
        Always (EventType.numbers T).Step ((EventType.numbers T).StaysBelow evMax) [] ops) ∧
      ∀ ops, Always (Property.numbers T).Step ((Property.numbers T).Keeps inputPropMax) [] ops ↔
        Always (Property.numbers T).Step ((Property.numbers T).StaysBelow inputPropMax) [] ops :=
  ⟨(EventType.numbers_bounded T).always_iff, (Property.numbers_bounded T).always_iff⟩

/-- The largest type, incremented as by `get_types()`, is out of range, and incrementing it once more
in postfix notation terminates the program. -/
theorem type_leaves_range :
    ¬ Always (EventType.numbers Sample.tables).Step
        ((EventType.numbers Sample.tables).Keeps evMax) []
        [.ofNumber evMax, .preIncrement 0] ∧
      (EventType.numbers Sample.tables).exec (.postIncrement 0) [EventType.max.increment] =
        .terminated := by
  refine ⟨fun hall => ?_, rfl⟩
  have hconstructed : (EventType.numbers Sample.tables).Step [] (.ofNumber evMax) [EventType.max] :=
    rfl
  have hstep : (EventType.numbers Sample.tables).Step [EventType.max] (.preIncrement 0)
      [EventType.max.increment] := rfl
  have hrange := (hall.2 _ hconstructed).1.2 _ hstep _ List.mem_cons_self
  exact absurd hrange (by decide)

end Classes

end Evdevxx
