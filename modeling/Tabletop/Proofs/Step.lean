/-
This file proves what the steps of rolls keep of their record, which of them take faces and which of them fail.
-/

import Tabletop.Step

namespace Tabletop.Step

variable {ρ σ α β : Type} {holds : ρ → Prop}

/-- The second step runs on what the first one leaves, unless the first one fails. -/
theorem bind_apply (first : Step ρ α) (next : α → Step ρ β) (record : ρ) (faces : Faces) :
    (first >>= next) record faces =
      match first record faces with
      | ((.ok value, after), rest) => next value after rest
      | ((.error error, after), rest) => ((.error error, after), rest) := by
  simp only [bind, ExceptT.bind, ExceptT.mk, StateT.bind, ExceptT.bindCont]
  rcases first record faces with ⟨⟨result, after⟩, rest⟩
  cases result <;> rfl

/-- What draws faces next finds those that the first one leaves. -/
theorem draw_bind (first : StateM Faces α) (next : α → StateM Faces β) (faces : Faces) :
    (first >>= next) faces = next (first faces).1 (first faces).2 :=
  rfl

/-- The step keeps a property of its record, also when it fails. -/
def Keeps (holds : ρ → Prop) (step : Step ρ α) : Prop :=
  ∀ record faces, holds record → holds (step record faces).1.2

theorem keeps_pure (value : α) : Keeps holds (pure value : Step ρ α) :=
  fun _ _ held => held

theorem keeps_throw (error : Error) : Keeps holds (throw error : Step ρ α) :=
  fun _ _ held => held

/-- Drawing faces leaves the record alone. -/
theorem keeps_draw (draw : StateM Faces α) : Keeps holds (liftM draw : Step ρ α) :=
  fun _ _ held => held

theorem keeps_dice (text : String) (mode : Notation.Mode) :
    Keeps holds (dice text mode : Step ρ Notation.Result) :=
  fun _ _ held => held

theorem keeps_modify {change : ρ → ρ} (kept : ∀ record, holds record → holds (change record)) :
    Keeps holds (modify change : Step ρ Unit) :=
  fun record _ held => kept record held

theorem keeps_set {record : ρ} (held : holds record) : Keeps holds (set record : Step ρ Unit) :=
  fun _ _ _ => held

theorem Keeps.bind {first : Step ρ α} {next : α → Step ρ β} (kept : Keeps holds first)
    (later : ∀ value, Keeps holds (next value)) : Keeps holds (first >>= next) := by
  intro record faces held
  have middle := kept record faces held
  rw [bind_apply]
  generalize first record faces = outcome at middle ⊢
  obtain ⟨⟨result, after⟩, rest⟩ := outcome
  cases result with
  | error error => exact middle
  | ok value => exact later value after rest middle

/-- What follows a look at the record may use that the property holds of it. -/
theorem keeps_get {next : ρ → Step ρ β} (later : ∀ record, holds record → Keeps holds (next record)) :
    Keeps holds (get >>= next) :=
  fun record faces held => later record held record faces held

/-- What follows rolled dice may use how their result came about. -/
theorem keeps_rolled {text : String} {mode : Notation.Mode} {next : Notation.Result → Step ρ β}
    (later : ∀ result faces rest, Notation.roll text mode faces = (.ok result, rest) → Keeps holds (next result)) :
    Keeps holds (dice text mode >>= next) := by
  intro record faces held
  rw [bind_apply, dice]
  rcases made : Notation.roll text mode faces with ⟨error | result, rest⟩
  · exact held
  · exact later result faces rest made record rest held

theorem Keeps.map {step : Step ρ α} (change : α → β) (kept : Keeps holds step) :
    Keeps holds (change <$> step) := by
  rw [← bind_pure_comp]
  exact kept.bind fun _ => keeps_pure _

theorem keeps_forM {items : List α} {step : α → Step ρ Unit}
    (kept : ∀ item, Keeps holds (step item)) : Keeps holds (items.forM step) := by
  induction items with
  | nil => exact keeps_pure _
  | cons item items inductionHypothesis =>
      rw [List.forM_eq_forM, List.forM_cons]
      exact (kept item).bind fun _ => inductionHypothesis

/-- The steps are known to be those of the items. -/
theorem keeps_forM_mem {items : List α} {step : α → Step ρ Unit}
    (kept : ∀ item ∈ items, Keeps holds (step item)) : Keeps holds (items.forM step) := by
  induction items with
  | nil => exact keeps_pure _
  | cons item items inductionHypothesis =>
      rw [List.forM_eq_forM, List.forM_cons]
      refine (kept item List.mem_cons_self).bind fun _ => inductionHypothesis fun other member => ?_
      exact kept other (List.mem_cons_of_mem _ member)

theorem keeps_foldlM {items : List α} {step : β → α → Step ρ β} {start : β}
    (kept : ∀ value item, Keeps holds (step value item)) :
    Keeps holds (items.foldlM step start) := by
  induction items generalizing start with
  | nil => exact keeps_pure _
  | cons item items inductionHypothesis =>
      rw [List.foldlM_cons]
      exact (kept start item).bind fun _ => inductionHypothesis

/-! Opening steps that did not fail -/

/-- Two steps give a value only if the first one gives something from which the second one gets it. -/
theorem bind_ok {first : Step ρ α} {next : α → Step ρ β} {record after : ρ} {faces rest : Faces}
    {value : β} (done : (first >>= next) record faces = ((.ok value, after), rest)) :
    ∃ middle between left, first record faces = ((.ok middle, between), left) ∧
      next middle between left = ((.ok value, after), rest) := by
  rw [bind_apply] at done
  split at done
  · next middle between left made => exact ⟨middle, between, left, made, done⟩
  · cases done

/-- What a step keeps still holds of what it leaves. -/
theorem Keeps.after {step : Step ρ α} (kept : Keeps holds step) {record after : ρ}
    {faces rest : Faces} {result : Except Error α} (held : holds record)
    (done : step record faces = ((result, after), rest)) : holds after := by
  have still := kept record faces held
  rwa [done] at still

/-- Working on a part of the record runs the inner step on that part. -/
theorem within_eq {part : ρ → σ} {setPart : ρ → σ → ρ} {step : Step σ α} {record after : ρ}
    {faces rest : Faces} {result : Except Error α}
    (done : within part setPart step record faces = ((result, after), rest)) :
    ∃ inner, step (part record) faces = ((result, inner), rest) ∧ after = setPart record inner := by
  unfold within at done
  rcases same : step (part record) faces with ⟨⟨outcome, inner⟩, left⟩
  rw [same] at done
  cases done
  exact ⟨inner, rfl, rfl⟩

/-! Steps that put what they roll on a list -/

variable {ι : Type} {list : ρ → List ι}

/-- The step adds to a list in the record what it rolls. If it adds nothing, then it rolls nothing: it
takes no faces, and with any others it does the same. -/
def Records (list : ρ → List ι) (step : Step ρ α) : Prop :=
  ∀ record faces value after rest, step record faces = ((.ok value, after), rest) →
    ∃ added, list after = list record ++ added ∧
      (added = [] → ∀ other, step record other = ((.ok value, after), other))

theorem records_pure (value : α) : Records list (pure value : Step ρ α) := by
  intro record faces same after rest done
  cases done
  exact ⟨[], (List.append_nil _).symm, fun _ _ => rfl⟩

theorem records_throw (error : Error) : Records list (throw error : Step ρ α) := by
  intro record faces value after rest done
  cases done

theorem records_modify {change : ρ → ρ} (kept : ∀ record, list (change record) = list record) :
    Records list (modify change : Step ρ Unit) := by
  intro record faces value after rest done
  cases done
  exact ⟨[], (kept record).trans (List.append_nil _).symm, fun _ _ => rfl⟩

theorem Records.bind {first : Step ρ α} {next : α → Step ρ β} (recorded : Records list first)
    (later : ∀ value, Records list (next value)) : Records list (first >>= next) := by
  intro record faces value after rest done
  obtain ⟨middle, between, left, made, finished⟩ := bind_ok done
  obtain ⟨added, grown, still⟩ := recorded _ _ _ _ _ made
  obtain ⟨more, grownLater, stillLater⟩ := later middle _ _ _ _ _ finished
  refine ⟨added ++ more, by rw [grownLater, grown, List.append_assoc], ?_⟩
  intro none other
  obtain ⟨noneFirst, noneLater⟩ := List.append_eq_nil_iff.1 none
  rw [bind_apply, still noneFirst other]
  exact stillLater noneLater other

theorem records_get {next : ρ → Step ρ β} (later : ∀ record, Records list (next record)) :
    Records list (get >>= next) :=
  fun record faces => later record record faces

/-- What is rolled goes on the list at once. -/
theorem records_dice {text : String} {mode : Notation.Mode} {add : Notation.Result → ρ → ρ}
    {item : Notation.Result → ι} {next : Notation.Result → Step ρ β}
    (adds : ∀ result record, list (add result record) = list record ++ [item result])
    (later : ∀ result, Records list (next result)) :
    Records list (dice text mode >>= fun result => modify (add result) >>= fun _ => next result) := by
  intro record faces value after rest done
  obtain ⟨result, between, left, made, placed⟩ := bind_ok done
  obtain rfl : record = between := congrArg (·.1.2) made
  obtain ⟨_, _, _, stored, finished⟩ := bind_ok placed
  cases stored
  obtain ⟨more, grown, _⟩ := later result _ _ _ _ _ finished
  refine ⟨item result :: more, ?_, fun none => absurd none (List.cons_ne_nil _ _)⟩
  rw [grown, adds, List.append_assoc, List.singleton_append]

/-- The list may stand in a part of the record. -/
theorem Records.within {part : ρ → σ} {setPart : ρ → σ → ρ} {step : Step σ α} {list : σ → List ι}
    (recorded : Records list step) (placed : ∀ record inner, part (setPart record inner) = inner) :
    Records (fun record => list (part record)) (within part setPart step) := by
  intro record faces value after rest done
  obtain ⟨inner, made, rfl⟩ := within_eq done
  obtain ⟨added, grown, still⟩ := recorded _ _ _ _ _ made
  refine ⟨added, (congrArg list (placed record inner)).trans grown, fun none other => ?_⟩
  rw [Step.within, still none other]

/-! Steps that fail -/

variable {allowed : Error → Prop}

/-- The step fails, whatever it starts from. -/
def Fails (step : Step ρ α) : Prop :=
  ∀ record faces, ∃ error, (step record faces).1.1 = .error error

theorem fails_throw (error : Error) : Fails (throw error : Step ρ α) :=
  fun _ _ => ⟨error, rfl⟩

theorem Fails.bind {first : Step ρ α} (fails : Fails first) (next : α → Step ρ β) : Fails (first >>= next) := by
  intro record faces
  obtain ⟨error, failed⟩ := fails record faces
  rw [bind_apply]
  generalize first record faces = outcome at failed
  obtain ⟨⟨result, after⟩, rest⟩ := outcome
  cases failed
  exact ⟨error, rfl⟩

theorem fails_behind (first : Step ρ α) {next : α → Step ρ β} (fails : ∀ value, Fails (next value)) :
    Fails (first >>= next) := by
  intro record faces
  rw [bind_apply]
  rcases first record faces with ⟨⟨error | value, after⟩, rest⟩
  · exact ⟨error, rfl⟩
  · exact fails value after rest

/-- If the step fails, it does so for a reason of a certain kind. -/
def FailsOnly (allowed : Error → Prop) (step : Step ρ α) : Prop :=
  ∀ record faces error, (step record faces).1.1 = .error error → allowed error

theorem failsOnly_pure (value : α) : FailsOnly allowed (pure value : Step ρ α) :=
  fun _ _ _ failed => nomatch failed

theorem failsOnly_modify (change : ρ → ρ) : FailsOnly allowed (modify change : Step ρ Unit) :=
  fun _ _ _ failed => nomatch failed

theorem failsOnly_dice (reasons : ∀ reason, allowed (.dice reason)) (text : String) (mode : Notation.Mode) :
    FailsOnly allowed (dice text mode : Step ρ Notation.Result) := by
  intro record faces error failed
  change (Notation.roll text mode faces).1.mapError .dice = .error error at failed
  cases rolled : (Notation.roll text mode faces).1 with
  | error reason =>
      rw [rolled] at failed
      cases failed
      exact reasons reason
  | ok result =>
      rw [rolled] at failed
      cases failed

theorem FailsOnly.bind {first : Step ρ α} {next : α → Step ρ β} (only : FailsOnly allowed first)
    (later : ∀ value, FailsOnly allowed (next value)) : FailsOnly allowed (first >>= next) := by
  intro record faces error failed
  rw [bind_apply] at failed
  have early := only record faces
  generalize first record faces = outcome at failed early
  obtain ⟨⟨reason | value, after⟩, rest⟩ := outcome
  · cases failed
    exact early _ rfl
  · exact later value after rest error failed

end Tabletop.Step
