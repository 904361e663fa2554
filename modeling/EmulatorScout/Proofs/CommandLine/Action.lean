import EmulatorScout.CommandLine.Run

/-!
# What the steps of a run do

Three judgments on parts of a run, each with a rule for one part after another. A part may leave something
of what was done alone, whether it fails or not (`Action.Keeps`); it may never fail (`Action.Sure`); and it
may print nothing if it fails (`Action.Tidy`). What never fails is tidy, and a part that prints nothing with
a tidy part after it is tidy: this is what it means that nothing is printed before the last step that can
fail.
-/

set_option autoImplicit false

namespace EmulatorScout.CommandLine.Action

variable {α β γ : Type}

/-! ## One step after another -/

/-- What follows goes on where a part ends, unless the part fails. -/
theorem after_bind (action : Action α) (rest : α → Action β) (trace : Trace) :
    (action >>= rest).after trace =
      match action.after trace with
      | (.ok value, after) => (rest value).after after
      | (.error failure, after) => (.error failure, after) := by
  change ExceptT.bindCont rest (action.after trace).1 (action.after trace).2 = _
  rcases action.after trace with ⟨_ | _, _⟩ <;> rfl

theorem after_bind_ok {action : Action α} {rest : α → Action β} {trace after : Trace} {value : α}
    (h : action.after trace = (.ok value, after)) :
    (action >>= rest).after trace = (rest value).after after := by
  rw [after_bind, h]

theorem after_bind_error {action : Action α} {rest : α → Action β} {trace after : Trace}
    {failure : Failure} (h : action.after trace = (.error failure, after)) :
    (action >>= rest).after trace = (.error failure, after) := by
  rw [after_bind, h]

theorem after_print (line : String) (trace : Trace) :
    (print line).after trace = (.ok (), trace.printing (printed line)) := rfl

theorem after_require_ok (value : α) (trace : Trace) :
    (require (.ok value)).after trace = (.ok value, trace) := rfl

theorem after_require_error (failure : Failure) (trace : Trace) :
    (require (.error failure) : Action α).after trace = (.error failure, trace) := rfl

theorem after_printJson (value : Json) (trace : Trace) :
    (printJson value).after trace = (.ok (), trace.printing (printedJson value)) := rfl

/-- An attempt has made its changes whether it failed or not. -/
theorem after_attempt (made : Attempt) (trace : Trace) :
    (attempt made).after trace =
      (match made.failure? with
        | some error => .error (.file error)
        | none => .ok (),
        { trace with progress := made.progress }) := by
  obtain ⟨progress, failure?⟩ := made
  cases failure? <;> rfl

/-- One line is printed after the other. -/
theorem after_forM_print (lines : List α) (line : α → String) :
    ∀ trace : Trace, (forM lines fun item => print (line item) : Action Unit).after trace
      = (.ok (), trace.printing (String.join (lines.map fun item => printed (line item)))) := by
  induction lines with
  | nil =>
    intro trace
    have hempty : trace.printing (String.join []) = trace := by
      rw [Trace.printing, String.join_nil, String.append_empty]
    rw [List.map_nil, hempty]
    rfl
  | cons item items ih =>
    intro trace
    rw [List.forM_cons, after_bind_ok (after_print (line item) trace), ih, List.map_cons,
      String.join_cons, Trace.printing, Trace.printing, Trace.printing, String.append_assoc]

/-! ## What is left alone -/

/-- Something of what was done is left alone. -/
def Keeps (part : Trace → γ) (action : Action α) : Prop :=
  ∀ trace, part (action.after trace).2 = part trace

namespace Keeps

variable {part : Trace → γ}

theorem pure (value : α) : Keeps part (Pure.pure value : Action α) := fun _ => rfl

theorem bind {action : Action α} {rest : α → Action β} (h : Keeps part action)
    (hrest : ∀ value, Keeps part (rest value)) : Keeps part (action >>= rest) := by
  intro trace
  have haction := h trace
  rw [after_bind]
  cases hafter : action.after trace with
  | mk result after =>
    rw [hafter] at haction
    cases result with
    | error failure => exact haction
    | ok value => exact (hrest value after).trans haction

theorem require (asked : Except Failure α) : Keeps part (require asked) := by
  cases asked with
  | ok value => exact pure value
  | error failure => exact fun _ => rfl

theorem requireSome (failure : Failure) (asked : Option α) :
    Keeps part (requireSome failure asked) := require _

/-- A line changes the output alone. -/
theorem print {part : Trace → γ} (line : String)
    (hpart : ∀ trace text, part (trace.printing text) = part trace) : Keeps part (print line) :=
  fun trace => hpart trace _

end Keeps

/-! ## What never fails -/

/-- The run goes on in any case. -/
def Sure (action : Action α) : Prop := ∀ trace, ∃ value, (action.after trace).1 = .ok value

namespace Sure

theorem pure (value : α) : Sure (Pure.pure value : Action α) := fun _ => ⟨value, rfl⟩

theorem print (line : String) : Sure (print line) := fun _ => ⟨(), rfl⟩

theorem bind {action : Action α} {rest : α → Action β} (h : Sure action)
    (hrest : ∀ value, Sure (rest value)) : Sure (action >>= rest) := by
  intro trace
  obtain ⟨value, hvalue⟩ := h trace
  have hafter : action.after trace = (.ok value, (action.after trace).2) := Prod.ext hvalue rfl
  rw [after_bind_ok hafter]
  exact hrest value _

/-- A value that is made of texts, numbers, lists and the like always has a text. -/
theorem serialise (value : Json) : Sure (serialise value) := pure _

theorem printJson (value : Json) : Sure (printJson value) :=
  (serialise value).bind fun text => print text

end Sure

/-! ## What prints nothing where it fails -/

/-- Nothing is printed by a part that fails. -/
def Tidy (action : Action α) : Prop :=
  ∀ trace failure, (action.after trace).1 = .error failure →
    (action.after trace).2.output = trace.output

theorem Sure.tidy {action : Action α} (h : Sure action) : Tidy action := by
  intro trace failure hfailed
  obtain ⟨value, hvalue⟩ := h trace
  rw [hvalue] at hfailed
  cases hfailed

/-- After a part that prints nothing a tidy part is as good as first. -/
theorem Keeps.bind_tidy {action : Action α} {rest : α → Action β} (h : Keeps Trace.output action)
    (hrest : ∀ value, Tidy (rest value)) : Tidy (action >>= rest) := by
  intro trace failure hfailed
  have haction := h trace
  rw [after_bind] at hfailed ⊢
  cases hafter : action.after trace with
  | mk result after =>
    rw [hafter] at haction hfailed
    cases result with
    | error failure => exact haction
    | ok value => exact (hrest value after failure hfailed).trans haction

end EmulatorScout.CommandLine.Action
