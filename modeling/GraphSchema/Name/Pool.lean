/-!
# Distinct names

A pool holds the names in use where no two things may share one: the tables of a
database, the columns of a table, the fields of an object. A new name is the
wanted one when it is free, and otherwise the wanted one with the least number
that makes it free.
-/

namespace GraphSchema.Name

/-- A name followed by a number. -/
def numbered (name : String) (number : Nat) : String :=
  name ++ "_" ++ toString number

/-- Different numbers make different names. -/
theorem numbered_inj {name : String} {left right : Nat} :
    numbered name left = numbered name right ↔ left = right := by
  constructor
  · intro equal
    have digits := congrArg String.toList equal
    simp only [numbered, String.toList_append, List.append_assoc,
      List.append_cancel_left_eq, Nat.toString_eq_repr, Nat.toList_repr] at digits
    simpa using congrArg (fun digits => Nat.ofDigitChars 10 digits 0) digits
  · rintro rfl
    rfl

/-- The numbered names that are tried, one more than there are names in use. -/
def attempts (wanted : String) (used : List String) : List String :=
  (List.range (used.length + 1)).map fun index => numbered wanted (index + 1)

theorem attempts_nodup (wanted : String) (used : List String) :
    (attempts wanted used).Nodup := by
  rw [attempts, List.nodup_iff_pairwise_ne, List.pairwise_map]
  refine List.Pairwise.imp ?_ List.nodup_range
  intro left right different equal
  exact different (by simpa using numbered_inj.1 equal)

/-- The wanted name if it is free, otherwise `wanted_1`, `wanted_2`, …,
whichever is free first. -/
def firstFree (wanted : String) (used : List String) : String :=
  if wanted ∈ used then
    ((attempts wanted used).find? (· ∉ used)).getD wanted
  else
    wanted

/-- The attempts are distinct and more than the names in use, so one of them is
free. -/
theorem exists_free_attempt (wanted : String) (used : List String) :
    ∃ name ∈ attempts wanted used, name ∉ used := by
  false_or_by_contra
  rename_i taken
  have subset : attempts wanted used ⊆ used := by
    intro name member
    false_or_by_contra
    rename_i free
    exact taken ⟨name, member, free⟩
  have bound := (attempts_nodup wanted used).length_le_of_subset subset
  have count : (attempts wanted used).length = used.length + 1 := by
    simp [attempts]
  omega

theorem firstFree_not_mem (wanted : String) (used : List String) :
    firstFree wanted used ∉ used := by
  unfold firstFree
  split
  · obtain ⟨name, member, free⟩ := exists_free_attempt wanted used
    cases found : (attempts wanted used).find? (· ∉ used) with
    | none => exact absurd free (by simpa using List.find?_eq_none.1 found name member)
    | some name => simpa using List.find?_some found
  · assumption

/-- The names in use. -/
structure Pool where
  used : List String
  deriving DecidableEq, Repr

namespace Pool

/-- Whether a name is in use. -/
def taken (pool : Pool) (name : String) : Bool :=
  name ∈ pool.used

/-- Take a name for a new use: the wanted one, numbered if it is not free. -/
def claim (pool : Pool) (wanted : String) : String × Pool :=
  let name := firstFree wanted pool.used
  (name, ⟨name :: pool.used⟩)

/-- Take a name for each wanted one, from left to right. -/
def claimAll (pool : Pool) : List String → List String × Pool
  | [] => ([], pool)
  | wanted :: rest =>
      let (name, pool) := pool.claim wanted
      let (names, pool) := pool.claimAll rest
      (name :: names, pool)

end Pool

end GraphSchema.Name
