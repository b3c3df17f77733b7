import GraphSchema.Proofs.Name.Claims
import GraphSchema.Storage.TableNames
import Mathlib.Data.List.Dedup
import Mathlib.Data.Nat.Find

/-!
# The search for a free name

The wanted name is tried first, then the wanted name with the number one, and so on until
a name is free. Nothing in the search itself says where it ends. It does end, because
different numbers make different names: with every name that is tried in vain, one more of
the names in use has been seen. So a search tries at most one name more than there are
names in use, and its numbers stay below that.
-/

namespace GraphSchema.Name

/-- The names that are tried one after the other. -/
def candidate (wanted : String) : Nat → String
  | 0 => wanted
  | number + 1 => numbered wanted (number + 1)

/-- A search from some place on that ends with a free name: the names that it tries. A
search that has met only names in use goes on with the next number, which must be one of
64 bits. -/
inductive Search (wanted : String) (used : List String) : Nat → List String → Prop where
  | free {number : Nat} (unused : candidate wanted number ∉ used) :
      Search wanted used number [candidate wanted number]
  | taken {number : Nat} {tried : List String} (inUse : candidate wanted number ∈ used)
      (word : number + 1 < 1 <<< 64) (later : Search wanted used (number + 1) tried) :
      Search wanted used number (candidate wanted number :: tried)

theorem numbered_ne (name : String) (number : Nat) : numbered name number ≠ name := by
  intro same
  have lengths := congrArg (fun text => text.toList.length) same
  simp only [numbered, String.toList_append, List.length_append] at lengths
  have underscore : "_".toList.length = 1 := rfl
  omega

theorem candidate_inj {wanted : String} {left right : Nat} :
    candidate wanted left = candidate wanted right ↔ left = right := by
  cases left with
  | zero =>
      cases right with
      | zero => simp
      | succ right => simpa [candidate] using (numbered_ne wanted (right + 1)).symm
  | succ left =>
      cases right with
      | zero => simpa [candidate] using numbered_ne wanted (left + 1)
      | succ right => exact numbered_inj

section

variable {wanted : String} {used : List String}

/-- A search never has a choice. -/
theorem Search.unique {number : Nat} {tried others : List String}
    (search : Search wanted used number tried)
    (other : Search wanted used number others) : tried = others := by
  induction search generalizing others with
  | free unused =>
      cases other with
      | free => rfl
      | taken inUse => exact absurd inUse unused
  | taken inUse word later ih =>
      cases other with
      | free unused => exact absurd inUse unused
      | taken _ _ otherLater => rw [ih otherLater]

/-- Candidates that are in use are as many different names. -/
theorem le_of_candidates_used {count : Nat}
    (inUse : ∀ number < count, candidate wanted number ∈ used) :
    count ≤ used.dedup.length := by
  have distinct : ((List.range count).map (candidate wanted)).Nodup :=
    List.nodup_range.map fun _ _ same => candidate_inj.1 same
  have subset : (List.range count).map (candidate wanted) ⊆ used.dedup := by
    intro name member
    obtain ⟨number, below, rfl⟩ := List.mem_map.1 member
    exact List.mem_dedup.2 (inUse number (List.mem_range.1 below))
  simpa using distinct.length_le_of_subset subset

/-- There is a first candidate that is free, and all that come before it are in use. -/
theorem exists_first_free (wanted : String) (used : List String) :
    ∃ number ≤ used.dedup.length, candidate wanted number ∉ used ∧
      ∀ earlier < number, candidate wanted earlier ∈ used := by
  have some_free : ∃ number, candidate wanted number ∉ used := by
    by_contra all
    push Not at all
    have bound : used.dedup.length + 1 ≤ used.dedup.length :=
      le_of_candidates_used fun number _ => all number
    exact absurd bound (Nat.not_succ_le_self _)
  classical
  have earlier : ∀ number < Nat.find some_free, candidate wanted number ∈ used := by
    intro number below
    exact not_not.1 (Nat.find_min some_free below)
  exact ⟨Nat.find some_free, le_of_candidates_used earlier, Nat.find_spec some_free, earlier⟩

theorem firstFree_eq_candidate {number : Nat} (unused : candidate wanted number ∉ used)
    (earlier : ∀ smaller < number, candidate wanted smaller ∈ used) :
    firstFree wanted used = candidate wanted number := by
  cases number with
  | zero => exact firstFree_of_not_mem unused
  | succ number =>
      have inUse : wanted ∈ used := earlier 0 (Nat.succ_pos number)
      have few : number + 1 ≤ used.length :=
        Nat.le_trans (le_of_candidates_used earlier) (List.dedup_sublist used).length_le
      have first : (List.range (used.length + 1)).find?
          (fun index => decide (numbered wanted (index + 1) ∉ used)) = some number := by
        rw [List.find?_range_eq_some]
        refine ⟨decide_eq_true unused, List.mem_range.2 (by omega), ?_⟩
        intro index below
        have tried : numbered wanted (index + 1) ∈ used :=
          earlier (index + 1) (Nat.succ_lt_succ below)
        simpa using tried
      rw [firstFree, if_pos inUse, attempts, List.find?_map]
      simp only [Function.comp_def, first, Option.map_some, Option.getD_some, candidate]

/-- A search goes through the candidates up to the first that is free. -/
theorem search_range {start steps : Nat} (unused : candidate wanted (start + steps) ∉ used)
    (earlier : ∀ step < steps, candidate wanted (start + step) ∈ used)
    (word : start + steps < 1 <<< 64) :
    Search wanted used start
      ((List.range' start (steps + 1)).map (candidate wanted)) := by
  induction steps generalizing start with
  | zero => exact .free unused
  | succ steps ih =>
      rw [List.range'_succ, List.map_cons]
      refine .taken (earlier 0 (Nat.succ_pos steps)) (by omega) (ih ?_ ?_ (by omega))
      · rwa [Nat.add_right_comm, Nat.add_assoc]
      · intro step below
        rw [Nat.add_right_comm, Nat.add_assoc]
        exact earlier (step + 1) (Nat.succ_lt_succ below)

/-- What a search for a free name finds, and how long it takes. -/
structure FoundFree (wanted : String) (used : List String) (name : String) : Prop where
  unchanged : wanted ∉ used → name = wanted
  least : wanted ∈ used → ∃ number, 1 ≤ number ∧ number ≤ used.dedup.length ∧
    name = numbered wanted number ∧ name ∉ used ∧
    ∀ smaller, 1 ≤ smaller → smaller < number → numbered wanted smaller ∈ used
  /-- There is one search from the start. It ends with the name. -/
  ends : ∃ tried, (∀ others, Search wanted used 0 others ↔ others = tried) ∧
    tried.getLast? = some name ∧ tried.length ≤ used.dedup.length + 1

theorem foundFree (word : used.dedup.length < 1 <<< 64) :
    FoundFree wanted used (firstFree wanted used) := by
  obtain ⟨number, bound, unused, earlier⟩ := exists_first_free wanted used
  have found := firstFree_eq_candidate unused earlier
  refine ⟨firstFree_of_not_mem, ?least, ?ends⟩
  case least =>
    intro inUse
    cases number with
    | zero => exact absurd inUse unused
    | succ number =>
        refine ⟨number + 1, Nat.succ_pos number, bound, found, found ▸ unused, ?_⟩
        intro smaller positive below
        obtain ⟨index, rfl⟩ := Nat.exists_eq_add_of_le' positive
        exact earlier (index + 1) below
  case ends =>
    have search : Search wanted used 0
        ((List.range' 0 (number + 1)).map (candidate wanted)) := by
      apply search_range
      · rwa [Nat.zero_add]
      · simpa using earlier
      · omega
    refine ⟨(List.range' 0 (number + 1)).map (candidate wanted), ?_, ?_, ?_⟩
    · intro others
      exact ⟨fun other => other.unique search, fun same => same ▸ search⟩
    · rw [found, List.getLast?_map]
      simp [List.getLast?_range']
    · simpa using bound

end

namespace Pool

/-- What a run of claims gives out: distinct names that were not in use, which are then in
use beside those that were, and stay so with any further claim. -/
structure GivesOut (pool : Pool) (wanted : List String) : Prop where
  distinct : (pool.claimAll wanted).1.Nodup
  fresh : ∀ name ∈ (pool.claimAll wanted).1, pool.taken name = false
  taken : ∀ name, (pool.claimAll wanted).2.taken name = true ↔
    name ∈ pool.used ∨ name ∈ (pool.claimAll wanted).1
  lasting : ∀ name next, (pool.claimAll wanted).2.taken name = true →
    ((pool.claimAll wanted).2.claim next).2.taken name = true

theorem taken_eq_true {pool : Pool} {name : String} :
    pool.taken name = true ↔ name ∈ pool.used := by
  simp [taken]

theorem givesOut (pool : Pool) (wanted : List String) : pool.GivesOut wanted where
  distinct := pool.nodup_claimAll wanted
  fresh := by
    intro name member
    rw [Bool.eq_false_iff, Ne, taken_eq_true]
    exact not_mem_used_of_mem_claimAll member
  taken := by
    intro name
    rw [taken_eq_true, mem_used_claimAll, or_comm]
  lasting := by
    intro name next
    rw [taken_eq_true, taken_eq_true, claim_used]
    exact List.mem_cons_of_mem _

end Pool

/-- What a pool of table names is asked for: a table for a type, or a certain name. -/
inductive Demand where
  | table (type : String)
  | exactly (name : String)
  deriving DecidableEq, Repr

def Demand.wanted (tablePrefix : String) : Demand → String
  | .table type => Storage.wantedTable tablePrefix type
  | .exactly name => name

/-- The search for a free name ends with the wanted name or the least number that makes it
free. So all names of a pool are distinct and new to what it began with: the tables of a
database, or the names that are reserved in a table. -/
theorem firstFree_run :
    (∀ wanted used, used.dedup.length < 1 <<< 64 →
      FoundFree wanted used (firstFree wanted used)) ∧
    (∀ tablePrefix catalog (demands : List Demand),
      (Pool.mk catalog).GivesOut (demands.map (Demand.wanted tablePrefix))) ∧
    ∀ reserved wanted, (Pool.mk reserved).GivesOut wanted :=
  ⟨fun _ _ word => foundFree word, fun _ _ _ => Pool.givesOut _ _,
    fun _ _ => Pool.givesOut _ _⟩

/-- The number two is given out although the number three is in use. -/
theorem firstFree_run_gap :
    ["app_pet", "app_pet_3", "app_pet_1", "app_pet"].dedup.length < 1 <<< 64 ∧
      FoundFree "app_pet" ["app_pet", "app_pet_3", "app_pet_1", "app_pet"] "app_pet_2" := by
  have word : ["app_pet", "app_pet_3", "app_pet_1", "app_pet"].dedup.length < 1 <<< 64 := by
    decide
  have found : firstFree "app_pet" ["app_pet", "app_pet_3", "app_pet_1", "app_pet"] =
      "app_pet_2" := by decide
  exact ⟨word, found ▸ firstFree_run.1 "app_pet" _ word⟩

end GraphSchema.Name
