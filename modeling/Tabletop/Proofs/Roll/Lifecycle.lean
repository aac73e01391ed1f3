/-
This file proves in which order the calls on one roll succeed and what a refused call leaves alone.

A roll is rolled once and then applied once, whatever else happens in between.
-/

import Tabletop.Roll

namespace Tabletop

/-- A call on a roll. -/
inductive RollCall where
  | roll
  | apply
deriving DecidableEq, Repr

/-- The error of a call that is refused in a phase. -/
def RollCall.refusal : RollCall → Phase → Error
  | .roll, phase => .rolledIn phase
  | .apply, phase => .appliedIn phase

theorem RollCall.refusal_name (kind : RollCall) (phase : Phase) :
    (kind.refusal phase).name = "InvalidPhase" := by
  cases kind <;> rfl

/-- The calls that have succeeded when a roll comes to a phase. -/
def Phase.passed : Phase → List RollCall
  | .pending => []
  | .rolled => [.roll]
  | .applied => [.roll, .apply]

theorem Phase.passed_prefix (phase : Phase) : phase.passed <+: [.roll, .apply] := by
  cases phase <;> decide

/-- Only a new roll may be rolled. -/
theorem Phase.roll_timely (phase : Phase) :
    phase.passed ++ [.roll] <+: [.roll, .apply] ↔ phase = .pending := by
  cases phase <;> decide

/-- Only a roll that was made, and not applied yet, may be applied. -/
theorem Phase.apply_timely (phase : Phase) :
    phase.passed ++ [.apply] <+: [.roll, .apply] ↔ phase = .rolled := by
  cases phase <;> decide

/-- What a call finds around the roll, and what it leaves there. -/
structure Surroundings where
  scene : Scene
  now : Instant
  faces : Faces

/-- A call on a roll in its own surroundings. -/
structure Call where
  kind : RollCall
  around : Surroundings

/-- What a call leads to. -/
structure CallOutcome where
  /-- The names of the changed cards. -/
  result : Except Error (List String)
  roll : Roll
  around : Surroundings

def CallOutcome.succeeds (outcome : CallOutcome) : Bool :=
  outcome.result.toBool

namespace Roll

def call (roll : Roll) (call : Call) : CallOutcome :=
  let around := call.around
  match call.kind with
  | .roll =>
    let ((result, after), faces) := roll.roll around.scene around.now around.faces
    ⟨result.map fun _ => [], after, { around with faces := faces }⟩
  | .apply =>
    match roll.apply around.now around.scene.context around.scene.board with
    | .ok (after, board, names) =>
      ⟨.ok names, after, { around with scene := { around.scene with board := board } }⟩
    | .error error => ⟨.error error, roll, around⟩

/-- The roll after some calls. -/
def afterCalls (roll : Roll) : List Call → Roll
  | [] => roll
  | call :: calls => (roll.call call).roll.afterCalls calls

/-- The kinds of the calls that succeed, in their order. -/
def succeeded (roll : Roll) : List Call → List RollCall
  | [] => []
  | call :: calls =>
    let outcome := roll.call call
    (if outcome.succeeds then [call.kind] else []) ++ outcome.roll.succeeded calls

/-! Single calls -/

/-- A call that may not follow the earlier ones fails and changes nothing. -/
theorem call_refused {roll : Roll} {call : Call}
    (untimely : ¬roll.phase.passed ++ [call.kind] <+: [.roll, .apply]) :
    roll.call call = ⟨.error (call.kind.refusal roll.phase), roll, call.around⟩ := by
  obtain ⟨kind, around⟩ := call
  cases kind with
  | roll =>
      have late : roll.phase ≠ .pending := mt roll.phase.roll_timely.2 untimely
      simp only [Roll.call, Roll.roll, if_neg late]
      rfl
  | apply =>
      have other : roll.phase ≠ .rolled := mt roll.phase.apply_timely.2 untimely
      simp only [Roll.call, Roll.apply, if_neg other]
      rfl

/-- A call that may follow the earlier ones takes the roll to the next phase if it succeeds, and leaves
the phase as it is if it fails. Once the roll was made its evaluator stays. -/
theorem call_timely {roll : Roll} {call : Call}
    (timely : roll.phase.passed ++ [call.kind] <+: [.roll, .apply]) :
    (roll.call call).roll.phase.passed =
      roll.phase.passed ++ (if (roll.call call).succeeds then [call.kind] else []) ∧
    (roll.phase ≠ .pending → (roll.call call).roll.evaluator = roll.evaluator) := by
  obtain ⟨kind, around⟩ := call
  obtain ⟨evaluator, phase, context, command⟩ := roll
  cases kind with
  | roll =>
      obtain rfl := phase.roll_timely.1 timely
      refine ⟨?_, fun made => absurd rfl made⟩
      rw [Roll.call, Roll.roll]
      dsimp only
      rcases evaluator.roll around.scene around.now around.faces with ⟨⟨result, after⟩, rest⟩
      cases result <;> rfl
  | apply =>
      obtain rfl := phase.apply_timely.1 timely
      rw [Roll.call, Roll.apply]
      dsimp only
      rcases evaluator.apply around.now around.scene.context around.scene.board with
        fault | ⟨board, names⟩
      · exact ⟨rfl, fun _ => rfl⟩
      · exact ⟨rfl, fun _ => rfl⟩

/-- The calls that have succeeded are known from the phase. -/
theorem call_passed (roll : Roll) (call : Call) :
    (roll.call call).roll.phase.passed =
      roll.phase.passed ++ (if (roll.call call).succeeds then [call.kind] else []) := by
  by_cases timely : roll.phase.passed ++ [call.kind] <+: [.roll, .apply]
  · exact (call_timely timely).1
  · rw [call_refused timely]
    exact (List.append_nil _).symm

/-- What a roll shows stays the same once it was made. -/
theorem call_shows {roll : Roll} (made : .roll ∈ roll.phase.passed) (call : Call) :
    .roll ∈ (roll.call call).roll.phase.passed ∧
      (roll.call call).roll.evaluator = roll.evaluator := by
  constructor
  · rw [call_passed]
    exact List.mem_append_left _ made
  by_cases timely : roll.phase.passed ++ [call.kind] <+: [.roll, .apply]
  · refine (call_timely timely).2 fun pending => ?_
    rw [pending] at made
    cases made
  · rw [call_refused timely]

/-! Calls that follow one another -/

theorem afterCalls_passed (roll : Roll) (calls : List Call) :
    (roll.afterCalls calls).phase.passed = roll.phase.passed ++ roll.succeeded calls := by
  induction calls generalizing roll with
  | nil => exact (List.append_nil _).symm
  | cons call calls inductionHypothesis =>
      rw [afterCalls, succeeded, inductionHypothesis, call_passed, List.append_assoc]

theorem afterCalls_shows {roll : Roll} (made : .roll ∈ roll.phase.passed) (calls : List Call) :
    .roll ∈ (roll.afterCalls calls).phase.passed ∧
      (roll.afterCalls calls).evaluator = roll.evaluator := by
  induction calls generalizing roll with
  | nil => exact ⟨made, rfl⟩
  | cons call calls inductionHypothesis =>
      obtain ⟨still, same⟩ := call_shows made call
      obtain ⟨later, shown⟩ := inductionHypothesis still
      exact ⟨later, shown.trans same⟩

/-- Once a roll was made it shows what its evaluator shows. -/
theorem shown_of_passed {roll : Roll} (made : .roll ∈ roll.phase.passed) :
    roll.output = roll.evaluator.output ∧
      roll.privateOutput = roll.evaluator.privateOutput ∧
      roll.snapshot? = roll.evaluator.snapshot? := by
  have late : roll.phase ≠ .pending := by
    intro pending
    rw [pending] at made
    cases made
  simp only [output, privateOutput, snapshot?, if_neg late, and_self]

/-- Calls come too early, in time and too late. -/
example (context : Context) (around : Surroundings) :
    (Roll.new "nn clr" context (.link ⟨.clear, none, ""⟩)).succeeded
      [⟨.apply, around⟩, ⟨.roll, around⟩, ⟨.roll, around⟩, ⟨.apply, around⟩, ⟨.apply, around⟩] =
        [.roll, .apply] := rfl

end Roll

end Tabletop
