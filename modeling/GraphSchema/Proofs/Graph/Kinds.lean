import GraphSchema.Graph.Document

/-!
# Kinds and their documents

Nine words say a kind. A scalar and a collection need nothing else, an object needs the
name of a type and a composition at least one. Each document either says one kind or
fails for one reason.
-/

namespace GraphSchema

namespace KindDocument

/-- The words for kinds. -/
def words : List String :=
  ["boolean", "integer", "number", "string", "object", "array", "map", "union",
    "intersection"]

/-- The kind that a document says. -/
inductive StandsFor : KindDocument → Kind → Prop
  | scalar (basic : Scalar) (reference : Option String) (references : List String) :
      StandsFor ⟨basic.name, reference, references⟩ (.scalar basic)
  | object (target : String) (references : List String) :
      StandsFor ⟨"object", some target, references⟩ (.object target)
  | collection (ordering : Collection) (reference : Option String)
      (references : List String) :
      StandsFor ⟨ordering.name, reference, references⟩
        (.collection ordering (.ofReference reference))
  | composite {mode : Composition} {references : List String} (full : references ≠ []) :
      StandsFor ⟨mode.name, none, references⟩ (.composite mode references)
  /-- A separate reference that is listed stays where it is. -/
  | listed {mode : Composition} {target : String} {references : List String}
      (member : target ∈ references) :
      StandsFor ⟨mode.name, some target, references⟩ (.composite mode references)
  /-- Otherwise the separate reference comes first. -/
  | separate {mode : Composition} {target : String} {references : List String}
      (apart : target ∉ references) :
      StandsFor ⟨mode.name, some target, references⟩
        (.composite mode (target :: references))

/-- Why a document says no kind. -/
inductive Fails : KindDocument → PropertyProblem → Prop
  | unknown {kind : String} (reference : Option String) (references : List String)
      (other : kind ∉ words) : Fails ⟨kind, reference, references⟩ (.unknownKind kind)
  | object (references : List String) :
      Fails ⟨"object", none, references⟩ .objectWithoutReference
  | composite (mode : Composition) :
      Fails ⟨mode.name, none, []⟩ .compositeWithoutReferences

theorem mem_words {word : String} :
    word ∈ words ↔
      (∃ basic : Scalar, basic.name = word) ∨ word = "object" ∨
        (∃ ordering : Collection, ordering.name = word) ∨
        ∃ mode : Composition, mode.name = word := by
  constructor
  · intro member
    simp only [words, List.mem_cons, List.not_mem_nil, or_false] at member
    obtain rfl | rfl | rfl | rfl | rfl | rfl | rfl | rfl | rfl := member
    · exact .inl ⟨.boolean, rfl⟩
    · exact .inl ⟨.integer, rfl⟩
    · exact .inl ⟨.number, rfl⟩
    · exact .inl ⟨.string, rfl⟩
    · exact .inr (.inl rfl)
    · exact .inr (.inr (.inl ⟨.array, rfl⟩))
    · exact .inr (.inr (.inl ⟨.map, rfl⟩))
    · exact .inr (.inr (.inr ⟨.union, rfl⟩))
    · exact .inr (.inr (.inr ⟨.intersection, rfl⟩))
  · rintro (⟨basic, rfl⟩ | rfl | ⟨ordering, rfl⟩ | ⟨mode, rfl⟩)
    · cases basic <;> decide
    · decide
    · cases ordering <;> decide
    · cases mode <;> decide

/-- Every document either says a kind or fails. -/
theorem standsFor_or_fails (document : KindDocument) :
    (∃ kind, document.StandsFor kind) ∨ ∃ problem, document.Fails problem := by
  obtain ⟨kind, reference, references⟩ := document
  by_cases known : kind ∈ words
  · obtain ⟨basic, rfl⟩ | rfl | ⟨ordering, rfl⟩ | ⟨mode, rfl⟩ := mem_words.1 known
    · exact .inl ⟨_, .scalar basic reference references⟩
    · cases reference with
      | none => exact .inr ⟨_, .object references⟩
      | some target => exact .inl ⟨_, .object target references⟩
    · exact .inl ⟨_, .collection ordering reference references⟩
    · cases reference with
      | none =>
          by_cases full : references = []
          · cases full
            exact .inr ⟨_, .composite mode⟩
          · exact .inl ⟨_, .composite full⟩
      | some target =>
          by_cases member : target ∈ references
          · exact .inl ⟨_, .listed member⟩
          · exact .inl ⟨_, .separate member⟩
  · exact .inr ⟨_, .unknown reference references known⟩

theorem StandsFor.ofDocument {document : KindDocument} {kind : Kind}
    (stands : document.StandsFor kind) : Kind.ofDocument document = .ok kind := by
  cases stands with
  | scalar basic => simp [Kind.ofDocument]
  | object => rfl
  | collection ordering => cases ordering <;> rfl
  | @composite mode references full =>
      cases references with
      | nil => exact absurd rfl full
      | cons target targets => cases mode <;> rfl
  | @listed mode target references member =>
      cases references with
      | nil => exact absurd member List.not_mem_nil
      | cons first targets =>
          cases mode <;>
            simp [Kind.ofDocument, Kind.ofDocument.composite, Kind.targets, member,
              Composition.name, Scalar.ofName?]
  | @separate mode target references apart =>
      cases mode <;>
        simp [Kind.ofDocument, Kind.ofDocument.composite, Kind.targets, apart,
          Composition.name, Scalar.ofName?]

theorem Fails.ofDocument {document : KindDocument} {problem : PropertyProblem}
    (fails : document.Fails problem) : Kind.ofDocument document = .error problem := by
  cases fails with
  | @unknown kind reference references other =>
      simp only [words, List.mem_cons, List.not_mem_nil, or_false, not_or] at other
      simp [Kind.ofDocument, Scalar.ofName?, other]
  | object => rfl
  | composite mode => cases mode <;> rfl

end KindDocument

theorem Kind.ofDocument_eq_ok {document : KindDocument} {kind : Kind} :
    ofDocument document = .ok kind ↔ document.StandsFor kind := by
  refine ⟨?_, KindDocument.StandsFor.ofDocument⟩
  intro done
  cases document.standsFor_or_fails with
  | inl said =>
      obtain ⟨other, stands⟩ := said
      rw [stands.ofDocument] at done
      cases done
      exact stands
  | inr failed =>
      obtain ⟨problem, fails⟩ := failed
      rw [fails.ofDocument] at done
      cases done

theorem Kind.ofDocument_eq_error {document : KindDocument} {problem : PropertyProblem} :
    ofDocument document = .error problem ↔ document.Fails problem := by
  refine ⟨?_, KindDocument.Fails.ofDocument⟩
  intro done
  cases document.standsFor_or_fails with
  | inl said =>
      obtain ⟨kind, stands⟩ := said
      rw [stands.ofDocument] at done
      cases done
  | inr failed =>
      obtain ⟨other, fails⟩ := failed
      rw [fails.ofDocument] at done
      cases done
      exact fails

end GraphSchema
