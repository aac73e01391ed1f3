/-
This file opens results of steps that did not fail.
-/

import Tabletop.Step

namespace Tabletop

variable {ε α β : Type}

/-- Two steps give a value exactly if the first one gives something from which the second one gets it. -/
theorem bind_eq_ok {first : Except ε α} {second : α → Except ε β} {value : β} :
    (first >>= second) = .ok value ↔ ∃ middle, first = .ok middle ∧ second middle = .ok value := by
  cases first with
  | error error => simp [bind, Except.bind]
  | ok middle => simp [bind, Except.bind]

theorem map_eq_ok {first : Except ε α} {change : α → β} {value : β} :
    first.map change = .ok value ↔ ∃ middle, first = .ok middle ∧ change middle = value := by
  cases first with
  | error error => simp [Except.map]
  | ok middle => simp [Except.map]

theorem mapError_bind {δ : Type} (change : ε → δ) (first : Except ε α) (second : α → Except ε β) :
    (first >>= second).mapError change = first.mapError change >>= fun value => (second value).mapError change := by
  cases first <;> rfl

theorem toOption_eq_some {result : Except ε α} {value : α} :
    result.toOption = some value ↔ result = .ok value := by
  cases result with
  | error error => simp [Except.toOption]
  | ok found => simp [Except.toOption]

theorem toOption_bind (first : Except ε α) (second : α → Except ε β) :
    (first >>= second).toOption = first.toOption.bind fun value => (second value).toOption := by
  cases first <;> rfl

theorem toOption_mapM (step : α → Except ε β) (items : List α) :
    (items.mapM step).toOption = items.mapM fun item => (step item).toOption := by
  induction items with
  | nil => rfl
  | cons item items inductionHypothesis =>
      rw [List.mapM_cons, List.mapM_cons, toOption_bind]
      simp only [toOption_bind, inductionHypothesis]
      rfl

/-- Steps that may find nothing can be taken one by one, or the first ones before the second ones. -/
theorem mapM_bind_mapM {γ : Type} (first : α → Option β) (second : β → Option γ) (items : List α) :
    (items.mapM first).bind (List.mapM second) = items.mapM fun item => (first item).bind second := by
  induction items with
  | nil => rfl
  | cons item items inductionHypothesis =>
      simp only [List.mapM_cons, ← inductionHypothesis, Option.bind_eq_bind]
      cases first item with
      | none => rfl
      | some middle =>
          cases items.mapM first with
          | none => simp
          | some middles => simp

/-- A result that passes a test is there. -/
theorem exists_of_any (result : Except ε α) (test : α → Bool)
    (passes : result.toOption.any test = true) :
    ∃ value, result = .ok value ∧ test value = true := by
  cases result with
  | error error => cases passes
  | ok value => exact ⟨value, rfl, passes⟩

/-- What each step for an item of the list keeps is kept by a run that does not fail. -/
theorem foldlM_keeps_of_mem {step : β → α → Except ε β} (holds : β → Prop) {items : List α} {first last : β}
    (kept : ∀ item ∈ items, ∀ value next, holds value → step value item = .ok next → holds next)
    (held : holds first) (done : items.foldlM step first = .ok last) : holds last := by
  induction items generalizing first with
  | nil =>
      cases done
      exact held
  | cons item items inductionHypothesis =>
      rw [List.foldlM_cons, bind_eq_ok] at done
      obtain ⟨middle, stepped, rest⟩ := done
      exact inductionHypothesis (fun other member => kept other (List.mem_cons_of_mem _ member))
        (kept item List.mem_cons_self first middle held stepped) rest

/-- What each step keeps is kept by a run that does not fail. -/
theorem foldlM_keeps {step : β → α → Except ε β} (holds : β → Prop)
    (kept : ∀ value item next, holds value → step value item = .ok next → holds next)
    {items : List α} {first last : β} (held : holds first)
    (done : items.foldlM step first = .ok last) : holds last :=
  foldlM_keeps_of_mem holds (fun item _ value next => kept value item next) held done

end Tabletop
