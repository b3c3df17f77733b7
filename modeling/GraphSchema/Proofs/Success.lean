import Mathlib.Data.List.Forall2

/-!
# Success of steps in sequence

A step either gives a value or fails with an error. Steps in sequence succeed
exactly when each of them does, so what is known of every single step can be
read off a successful run, and a run succeeds as soon as no step can fail.
-/

namespace GraphSchema

variable {ε α β : Type}

theorem ok_bind (value : α) (next : α → Except ε β) :
    Except.ok value >>= next = next value := rfl

@[simp] theorem bind_eq_ok {step : Except ε α} {next : α → Except ε β}
    {value : β} :
    step >>= next = .ok value ↔
      ∃ first, step = .ok first ∧ next first = .ok value := by
  cases step with
  | error problem => simp [bind, Except.bind]
  | ok first => simp [bind, Except.bind]

@[simp] theorem pure_eq_ok {first value : α} :
    (pure first : Except ε α) = .ok value ↔ first = value := by
  simp [pure, Except.pure]

@[simp] theorem map_eq_ok {step : Except ε α} {image : α → β} {value : β} :
    image <$> step = .ok value ↔
      ∃ first, step = .ok first ∧ image first = value := by
  cases step with
  | error problem => simp [Functor.map, Except.map]
  | ok first => simp [Functor.map, Except.map]

theorem bind_eq_error {step : Except ε α} {next : α → Except ε β} {error : ε} :
    step >>= next = .error error ↔
      step = .error error ∨
        ∃ first, step = .ok first ∧ next first = .error error := by
  cases step with
  | error problem => simp [bind, Except.bind]
  | ok first => simp [bind, Except.bind]

theorem pure_ne_error {value : α} {error : ε} :
    (pure value : Except ε α) ≠ .error error := by
  simp [pure, Except.pure]

/-- To reword the error of a step does not make it succeed. -/
theorem mapError_eq_ok {δ : Type} {step : Except ε α} {reword : ε → δ}
    {value : α} : step.mapError reword = .ok value ↔ step = .ok value := by
  cases step with
  | error problem => simp [Except.mapError]
  | ok first => simp [Except.mapError]

theorem mapError_eq_error {δ : Type} {step : Except ε α} {reword : ε → δ}
    {error : δ} :
    step.mapError reword = .error error ↔
      ∃ problem, step = .error problem ∧ reword problem = error := by
  cases step with
  | error problem => simp [Except.mapError]
  | ok first => simp [Except.mapError]

/-- Steps over a list give one result for each item, in order. -/
theorem mapM_eq_ok {step : α → Except ε β} {items : List α}
    {results : List β} :
    items.mapM step = .ok results ↔
      List.Forall₂ (fun item result => step item = .ok result) items results := by
  induction items generalizing results with
  | nil =>
      simp only [List.mapM_nil, pure_eq_ok, List.forall₂_nil_left_iff]
      exact eq_comm
  | cons item items ih =>
      simp only [List.mapM_cons, bind_eq_ok, pure_eq_ok,
        List.forall₂_cons_left_iff, ih]
      constructor
      · rintro ⟨result, head, rest, tail, rfl⟩
        exact ⟨result, rest, head, tail, rfl⟩
      · rintro ⟨result, rest, head, tail, rfl⟩
        exact ⟨result, head, rest, tail, rfl⟩

/-- Where a step succeeds under a condition and then gives an image of its item, steps
over a list give the images if the condition holds of all items. -/
theorem mapM_eq_ok_map {step : α → Except ε β} {Holds : α → Prop} {image : α → β}
    (each : ∀ item result,
      step item = .ok result ↔ Holds item ∧ image item = result)
    {items : List α} {results : List β} :
    items.mapM step = .ok results ↔
      (∀ item ∈ items, Holds item) ∧ items.map image = results := by
  simp only [mapM_eq_ok, each, List.forall₂_and_left, ← List.forall₂_map_left_iff,
    List.forall₂_eq_eq_eq]

/-- Steps over a list succeed together when none of them can fail. -/
theorem mapM_isOk {step : α → Except ε β} {items : List α} :
    (∃ results, items.mapM step = .ok results) ↔
      ∀ item ∈ items, ∃ result, step item = .ok result := by
  induction items with
  | nil => simp
  | cons item items ih =>
      simp only [List.mapM_cons, bind_eq_ok, pure_eq_ok, List.forall_mem_cons,
        ← ih]
      constructor
      · rintro ⟨_, result, head, results, tail, rfl⟩
        exact ⟨⟨result, head⟩, results, tail⟩
      · rintro ⟨⟨result, head⟩, results, tail⟩
        exact ⟨result :: results, result, head, results, tail, rfl⟩

/-- Steps that do the same to the items of a list do the same over the list. -/
theorem mapM_congr {step other : α → Except ε β} {items : List α}
    (same : ∀ item ∈ items, step item = other item) :
    items.mapM step = items.mapM other := by
  induction items with
  | nil => rfl
  | cons item items ih =>
      have later := ih fun next member => same next (List.mem_cons_of_mem item member)
      rw [List.mapM_cons, List.mapM_cons, same item List.mem_cons_self, later]

/-- An image of the results of steps is taken as well step by step. -/
theorem map_mapM {γ : Type} (image : β → γ) (step : α → Except ε β) (items : List α) :
    List.map image <$> items.mapM step =
      items.mapM fun item => image <$> step item := by
  induction items with
  | nil => rfl
  | cons item items ih =>
      rw [List.mapM_cons, List.mapM_cons, ← ih]
      cases step item with
      | error problem => rfl
      | ok result => cases items.mapM step <;> rfl

/-- Steps over a list fail as the first one does that fails. -/
theorem mapM_eq_error {step : α → Except ε β} {items : List α} {error : ε} :
    items.mapM step = .error error ↔
      ∃ before item after, items = before ++ item :: after ∧
        (∀ earlier ∈ before, ∃ result, step earlier = .ok result) ∧
        step item = .error error := by
  induction items with
  | nil =>
      refine iff_of_false pure_ne_error ?_
      rintro ⟨before, item, after, split, -⟩
      simp at split
  | cons item items ih =>
      simp only [List.mapM_cons, bind_eq_error, pure_ne_error, and_false,
        exists_false, or_false, ih]
      constructor
      · rintro (here | ⟨result, head, before, found, after, rfl, fine, here⟩)
        · exact ⟨[], item, items, rfl, by simp, here⟩
        · refine ⟨item :: before, found, after, rfl, ?_, here⟩
          exact List.forall_mem_cons.2 ⟨⟨result, head⟩, fine⟩
      · rintro ⟨before, found, after, split, fine, here⟩
        cases before with
        | nil =>
            cases split
            exact .inl here
        | cons first before =>
            cases split
            obtain ⟨⟨result, head⟩, fine⟩ := List.forall_mem_cons.1 fine
            exact .inr ⟨result, head, before, found, after, rfl, fine, here⟩

/-- Where steps over a list fail, one of them fails in this way. -/
theorem exists_error_of_mapM {step : α → Except ε β} {items : List α} {error : ε}
    (failed : items.mapM step = .error error) :
    ∃ item ∈ items, step item = .error error := by
  obtain ⟨before, item, after, rfl, -, here⟩ := mapM_eq_error.1 failed
  exact ⟨item, by simp, here⟩

/-- The items of a run over a list are items of the list. -/
theorem forall₂_and_mem {related : α → β → Prop} {items : List α}
    {results : List β} (all : List.Forall₂ related items results) :
    List.Forall₂ (fun item result => item ∈ items ∧ related item result)
      items results := by
  induction all with
  | nil => exact .nil
  | cons head _ ih =>
      refine .cons ⟨by simp, head⟩ (ih.imp ?_)
      rintro item result ⟨member, holds⟩
      exact ⟨by simp [member], holds⟩

/-- Each result of a run over a list is the result for some item. -/
theorem exists_item_of_forall₂ {related : α → β → Prop} {items : List α}
    {results : List β} (all : List.Forall₂ related items results)
    {result : β} (member : result ∈ results) :
    ∃ item ∈ items, related item result := by
  induction all with
  | nil => simp at member
  | @cons item first items results head tail ih =>
      rcases List.mem_cons.1 member with rfl | later
      · exact ⟨item, by simp, head⟩
      · obtain ⟨found, present, holds⟩ := ih later
        exact ⟨found, by simp [present], holds⟩

/-- Each item of a run over a list has its result. -/
theorem exists_result_of_forall₂ {related : α → β → Prop} {items : List α}
    {results : List β} (all : List.Forall₂ related items results)
    {item : α} (member : item ∈ items) :
    ∃ result ∈ results, related item result := by
  obtain ⟨result, present, holds⟩ :=
    exists_item_of_forall₂ all.flip member
  exact ⟨result, present, holds⟩

end GraphSchema
