import GraphSchema.Name.Pool
import Mathlib.Data.List.Forall2
import Mathlib.Data.List.Nodup

/-!
# Claims from a pool

A claim never gives out a name that is in use, and the name that it gives out is
in use from then on. So the names of one run of claims are pairwise distinct and
new to the pool, however many of them were wanted twice.
-/

namespace GraphSchema.Name

theorem firstFree_of_not_mem {wanted : String} {used : List String}
    (free : wanted ∉ used) : firstFree wanted used = wanted := by
  rw [firstFree, if_neg free]

namespace Pool

@[simp] theorem claim_used (pool : Pool) (wanted : String) :
    (pool.claim wanted).2.used = (pool.claim wanted).1 :: pool.used := rfl

theorem claim_not_mem (pool : Pool) (wanted : String) :
    (pool.claim wanted).1 ∉ pool.used :=
  firstFree_not_mem wanted pool.used

theorem claim_of_not_mem {pool : Pool} {wanted : String}
    (free : wanted ∉ pool.used) :
    pool.claim wanted = (wanted, ⟨wanted :: pool.used⟩) := by
  simp [claim, firstFree_of_not_mem free]

/-- A name that is wanted is given out exactly when it is not in use. -/
theorem claim_eq_self {pool : Pool} {wanted : String} :
    (pool.claim wanted).1 = wanted ↔ wanted ∉ pool.used := by
  constructor
  · intro same used
    exact pool.claim_not_mem wanted (same.symm ▸ used)
  · intro free
    rw [claim_of_not_mem free]

@[simp] theorem claimAll_nil (pool : Pool) : pool.claimAll [] = ([], pool) := rfl

@[simp] theorem claimAll_cons (pool : Pool) (wanted : String)
    (rest : List String) :
    pool.claimAll (wanted :: rest) =
      ((pool.claim wanted).1 :: ((pool.claim wanted).2.claimAll rest).1,
        ((pool.claim wanted).2.claimAll rest).2) := rfl

@[simp] theorem length_claimAll (pool : Pool) (wanted : List String) :
    (pool.claimAll wanted).1.length = wanted.length := by
  induction wanted generalizing pool with
  | nil => rfl
  | cons wanted rest ih => simp [ih]

/-- A run of claims can be cut into two. -/
theorem claimAll_append (pool : Pool) (first second : List String) :
    (pool.claimAll (first ++ second)).1 =
      (pool.claimAll first).1 ++ ((pool.claimAll first).2.claimAll second).1 := by
  induction first generalizing pool with
  | nil => rfl
  | cons wanted rest ih => simp [ih]

/-- In a run of claims, each name is a claim of the wanted one in its place. -/
theorem claimAll_claims (pool : Pool) (wanted : List String) :
    List.Forall₂ (fun wanted name => ∃ pool : Pool, (pool.claim wanted).1 = name)
      wanted (pool.claimAll wanted).1 := by
  induction wanted generalizing pool with
  | nil => exact .nil
  | cons wanted rest ih => exact .cons ⟨pool, rfl⟩ (ih _)

/-- After a run of claims its names are in use, and so are the names that were in
use before. -/
theorem mem_used_claimAll {pool : Pool} {wanted : List String} {name : String} :
    name ∈ (pool.claimAll wanted).2.used ↔
      name ∈ (pool.claimAll wanted).1 ∨ name ∈ pool.used := by
  induction wanted generalizing pool with
  | nil => simp
  | cons wanted rest ih =>
      simp only [claimAll_cons, ih, claim_used, List.mem_cons]
      tauto

/-- What is in use is never given out. -/
theorem not_mem_used_of_mem_claimAll {pool : Pool} {wanted : List String}
    {name : String} (member : name ∈ (pool.claimAll wanted).1) :
    name ∉ pool.used := by
  induction wanted generalizing pool with
  | nil => simp at member
  | cons wanted rest ih =>
      simp only [claimAll_cons, List.mem_cons] at member
      rcases member with rfl | later
      · exact pool.claim_not_mem wanted
      · intro used
        exact ih later (by simp [used])

theorem nodup_claimAll (pool : Pool) (wanted : List String) :
    (pool.claimAll wanted).1.Nodup := by
  induction wanted generalizing pool with
  | nil => simp
  | cons wanted rest ih =>
      simp only [claimAll_cons, List.nodup_cons]
      refine ⟨?_, ih _⟩
      intro again
      exact not_mem_used_of_mem_claimAll again (by simp)

/-- A run of claims gives out what is wanted exactly when nothing is wanted twice
and nothing that is wanted is in use. -/
theorem claimAll_eq_self {pool : Pool} {wanted : List String} :
    (pool.claimAll wanted).1 = wanted ↔
      wanted.Nodup ∧ ∀ name ∈ wanted, name ∉ pool.used := by
  induction wanted generalizing pool with
  | nil => simp
  | cons name rest ih =>
      simp only [claimAll_cons, List.cons.injEq, claim_eq_self, List.nodup_cons,
        List.forall_mem_cons]
      constructor
      · intro same
        obtain ⟨free, same⟩ := same
        obtain ⟨distinct, others⟩ := ih.1 same
        rw [claim_of_not_mem free] at others
        refine ⟨⟨?_, distinct⟩, free, ?_⟩
        · intro again
          exact others name again List.mem_cons_self
        · intro other member used
          exact others other member (List.mem_cons_of_mem name used)
      · intro apart
        obtain ⟨⟨once, distinct⟩, free, others⟩ := apart
        refine ⟨free, ih.2 ⟨distinct, ?_⟩⟩
        rw [claim_of_not_mem free]
        intro other member used
        rcases List.mem_cons.1 used with rfl | used
        · exact once member
        · exact others other member used

end Pool

end GraphSchema.Name
