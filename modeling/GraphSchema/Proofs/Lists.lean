import Mathlib.Data.List.Forall2
import Mathlib.Data.List.Nodup
import Mathlib.Data.List.Pairwise
import Mathlib.Data.List.TakeWhile

/-!
# Values of items

The values that some of the items of a list have, in the order of the items: when
two ways to give values lead to the same list or to a part of it, and when the
values are distinct. At the end, where one item of a list stands with respect to another,
lists with a separator between them, and the run of accepted items that a list begins with.
-/

namespace GraphSchema

/-- Items that are selected and mapped alike on both sides make the same list. -/
theorem filterMap_eq_of_forall₂ {α β γ : Type} {left : α → Option γ}
    {right : β → Option γ} {items : List α} {others : List β}
    (same : List.Forall₂ (fun item other => left item = right other) items others) :
    items.filterMap left = others.filterMap right := by
  induction same with
  | nil => rfl
  | cons head _ ih => simp only [List.filterMap_cons, head, ih]

/-- Items that have a value on the left have the same one on the right, so the
values on the left are some of those on the right. -/
theorem filterMap_sublist {α β : Type} {left right : α → Option β}
    {items : List α}
    (agree : ∀ item ∈ items, ∀ value, left item = some value →
      right item = some value) :
    (items.filterMap left).Sublist (items.filterMap right) := by
  induction items with
  | nil => simp
  | cons item rest ih =>
      have later := ih fun other member => agree other (by simp [member])
      cases here : left item with
      | none =>
          rw [List.filterMap_cons_none here]
          cases there : right item with
          | none => rwa [List.filterMap_cons_none there]
          | some value =>
              rw [List.filterMap_cons_some there]
              exact later.cons value
      | some value =>
          have there := agree item (by simp) value here
          rw [List.filterMap_cons_some here, List.filterMap_cons_some there]
          exact later.cons_cons value

/-- Where the items that have a value are those that are accepted, the values are those
of the accepted items. -/
theorem filterMap_eq_map_filter {α β : Type} {image : α → Option β}
    {accept : α → Bool} {value : α → β}
    (each : ∀ item, image item = if accept item then some (value item) else none)
    (items : List α) :
    items.filterMap image = (items.filter accept).map value := by
  induction items with
  | nil => rfl
  | cons item rest ih =>
      have here := each item
      cases accepted : accept item with
      | true =>
          rw [accepted, if_pos rfl] at here
          rw [List.filterMap_cons_some here, List.filter_cons_of_pos accepted, ih,
            List.map_cons]
      | false =>
          have refused : ¬ accept item = true := by simp [accepted]
          rw [if_neg refused] at here
          rw [List.filterMap_cons_none here, List.filter_cons_of_neg refused, ih]

/-- Where only one item contributes to a list, the list is its contribution. -/
theorem flatMap_eq_of_unique {α β : Type} {items : List α} {item : α}
    {image : α → List β} (distinct : items.Nodup) (member : item ∈ items)
    (others : ∀ other ∈ items, other ≠ item → image other = []) :
    items.flatMap image = image item := by
  obtain ⟨before, after, rfl⟩ := List.append_of_mem member
  rw [List.nodup_append, List.nodup_cons] at distinct
  have earlier : before.flatMap image = [] := by
    apply List.flatMap_eq_nil_iff.2
    intro other inside
    exact others other (by simp [inside])
      (distinct.2.2 other inside item (by simp))
  have later : after.flatMap image = [] := by
    apply List.flatMap_eq_nil_iff.2
    intro other inside
    refine others other (by simp [inside]) ?_
    rintro rfl
    exact distinct.2.1.1 inside
  simp [earlier, later]

/-- Where the items that are accepted on one side are those with a value on the
other, the values are those of the accepted items, one for each. -/
theorem filter_filterMap_of_forall₂ {α β γ : Type} {related : α → β → Prop}
    {accept : α → Bool} {image : β → Option γ} {items : List α} {others : List β}
    (each : List.Forall₂ related items others)
    (total : ∀ item other, related item other →
      (accept item = true ↔ ∃ value, image other = some value)) :
    List.Forall₂
      (fun item value => ∃ other, related item other ∧ image other = some value)
      (items.filter accept) (others.filterMap image) := by
  induction each with
  | nil => simp
  | @cons item other rest later head _ ih =>
      have here := total item other head
      cases found : image other with
      | none =>
          have refused : ¬ accept item = true := by simp [here, found]
          rwa [List.filter_cons_of_neg refused, List.filterMap_cons_none found]
      | some value =>
          have accepted : accept item = true := here.2 ⟨value, found⟩
          rw [List.filter_cons_of_pos accepted, List.filterMap_cons_some found]
          exact .cons ⟨other, head, found⟩ ih

/-- Items that are accepted have a value, so the values are those of the accepted
items, one for each. -/
theorem forall₂_filter_filterMap {α β : Type} {items : List α}
    {accept : α → Bool} {image : α → Option β}
    (total : ∀ item ∈ items, accept item = true ↔ ∃ value, image item = some value) :
    List.Forall₂ (fun item value => image item = some value)
      (items.filter accept) (items.filterMap image) := by
  have each : List.Forall₂ (fun item other => item = other ∧ item ∈ items)
      items items := by
    rw [List.forall₂_same]
    exact fun item member => ⟨rfl, member⟩
  have valued : ∀ item other, item = other ∧ item ∈ items →
      (accept item = true ↔ ∃ value, image other = some value) := by
    intro item other same
    rw [← same.1]
    exact total item same.2
  apply (filter_filterMap_of_forall₂ each valued).imp
  intro item value found
  obtain ⟨other, same, found⟩ := found
  rwa [same.1]

/-- Two items that have one value are the same where the values are distinct. -/
theorem eq_of_nodup_filterMap {α β : Type} {items : List α}
    {image : α → Option β} (distinct : (items.filterMap image).Nodup)
    {left right : α} {value : β} (leftMember : left ∈ items)
    (rightMember : right ∈ items) (leftValue : image left = some value)
    (rightValue : image right = some value) : left = right := by
  by_contra different
  have symmetric : Std.Symm fun first second =>
      ∀ value, image first = some value → ∀ other, image second = some other →
        value ≠ other :=
    ⟨fun _ _ apart value valueOf other otherOf =>
      (apart other otherOf value valueOf).symm⟩
  have apart := (List.pairwise_filterMap.1 distinct).forall leftMember
    rightMember different
  exact apart value leftValue value rightValue rfl

/-- Where keys have values and no two keys have the same one, values are distinct
exactly when keys are. -/
theorem nodup_filterMap_iff {α κ β : Type} {items : List α} {key : α → κ}
    (find : κ → Option β)
    (found : ∀ item ∈ items, ∃ value, find (key item) = some value)
    (injective : ∀ {left right value}, find left = some value →
      find right = some value → left = right) :
    (items.filterMap fun item => find (key item)).Nodup ↔
      (items.map key).Nodup := by
  induction items with
  | nil => simp
  | cons item rest ih =>
      obtain ⟨value, here⟩ := found item (by simp)
      have later := ih fun other member => found other (by simp [member])
      simp only [List.filterMap_cons, here, List.map_cons, List.nodup_cons, later]
      refine and_congr_left' (not_congr ?_)
      simp only [List.mem_filterMap, List.mem_map]
      constructor
      · rintro ⟨other, member, there⟩
        exact ⟨other, member, injective there here⟩
      · rintro ⟨other, member, same⟩
        exact ⟨other, member, same ▸ here⟩

/-- Of two items of one list, one stands before the other or they are at one place. -/
theorem append_cons_eq_append_cons {α : Type} {before behind earlier later : List α}
    {item other : α} (same : before ++ item :: behind = earlier ++ other :: later) :
    (∃ between, before = earlier ++ other :: between ∧
        later = between ++ item :: behind) ∨
      (before = earlier ∧ item = other ∧ behind = later) ∨
      ∃ between, earlier = before ++ item :: between ∧
        behind = between ++ other :: later := by
  cases List.append_eq_append_iff.1 same with
  | inl longer =>
      obtain ⟨between, rfl, rest⟩ := longer
      cases between with
      | nil =>
          cases rest
          exact Or.inr (Or.inl ⟨(List.append_nil _).symm, rfl, rfl⟩)
      | cons first between =>
          cases rest
          exact Or.inr (Or.inr ⟨between, rfl, rfl⟩)
  | inr shorter =>
      obtain ⟨between, rfl, rest⟩ := shorter
      cases between with
      | nil =>
          cases rest
          exact Or.inr (Or.inl ⟨List.append_nil _, rfl, rfl⟩)
      | cons first between =>
          cases rest
          exact Or.inl ⟨between, rfl, rfl⟩

/-- Between lists there is a separator exactly where one stands before all but the first. -/
theorem intercalate_cons {α : Type} (separator first : List α) (others : List (List α)) :
    separator.intercalate (first :: others) =
      first ++ others.flatMap (separator ++ ·) := by
  induction others generalizing first with
  | nil => simp
  | cons next rest ih => simp [List.intercalate_cons_cons, ih]

/-- Where accepted items are followed by a refused one or by none, they are the run. -/
theorem takeWhile_dropWhile_append {α : Type} {accept : α → Bool} {run rest : List α}
    (accepted : ∀ item ∈ run, accept item = true)
    (ended : ∀ item ∈ rest.head?, accept item = false) :
    (run ++ rest).takeWhile accept = run ∧ (run ++ rest).dropWhile accept = rest := by
  have stops : rest.takeWhile accept = [] ∧ rest.dropWhile accept = rest := by
    cases rest with
    | nil => exact ⟨rfl, rfl⟩
    | cons item rest => simp [ended item rfl]
  rw [List.takeWhile_append_of_pos accepted, List.dropWhile_append_of_pos accepted, stops.1,
    stops.2, List.append_nil]
  exact ⟨rfl, rfl⟩

end GraphSchema
