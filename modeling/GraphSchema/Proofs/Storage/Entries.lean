import GraphSchema.Proofs.Name.Spelling
import GraphSchema.Proofs.Storage.Namesakes
import GraphSchema.Storage.Mapping

/-!
# Entries of mapping tables

The text of an entry is read back to the entry exactly when all of its fields are
nonempty and free of colons. An entry that is read has such fields, and its text is the
one that was read, so no two texts are read as the same entry. The fields of the entries
of a type are its property names and, for a collection, the names of a junction. So what
matters are the colons in the names that the graph and the settings give.
-/

namespace GraphSchema.Storage

open Name (Pool snake)

/-! ## Texts of entries -/

/-- The characters of a text, cut at colons. -/
theorem splitFields_eq_splitOn (chars : List Char) :
    splitFields chars = chars.splitOn ':' := by
  induction chars with
  | nil => rfl
  | cons char rest ih =>
      rw [splitFields, List.splitOn_cons_eq_if_modifyHead, ih]
      simp only [beq_iff_eq]

theorem not_mem_of_mem_splitFields {chars field : List Char}
    (member : field ∈ splitFields chars) : ':' ∉ field := by
  induction chars generalizing field with
  | nil => simp_all [splitFields]
  | cons char rest ih =>
      rw [splitFields] at member
      split at member
      · rcases List.mem_cons.1 member with rfl | later
        · simp
        · exact ih later
      next different =>
        cases fields : splitFields rest with
        | nil => simp [fields] at member
        | cons first others =>
            rw [fields, List.modifyHead_cons, List.mem_cons] at member
            rw [fields] at ih
            rcases member with rfl | later
            · simp [Ne.symm different, ih]
            · exact ih (by simp [later])

namespace Entry

/-- Whether a name can be a field of an entry. -/
def PlainField (field : String) : Prop :=
  field ≠ "" ∧ ':' ∉ field.toList

instance (field : String) : Decidable (PlainField field) :=
  inferInstanceAs (Decidable (_ ∧ _))

/-- The entry of some fields has these fields. -/
theorem ofFields_eq_ok {fields : List String} {entry : Entry} :
    ofFields fields = .ok entry ↔ entry.fields = fields := by
  constructor
  · intro made
    unfold ofFields at made
    split at made
    · cases made
      rfl
    · split at made
      next object =>
        cases made
        rw [object]
        rfl
      next => cases made
    · split at made
      next array =>
        cases made
        rw [array]
        rfl
      next =>
        split at made
        next map =>
          cases made
          rw [map]
          rfl
        next => cases made
    · cases made
  · rintro rfl
    cases entry with
    | scalar property => rfl
    | object property => rfl
    | relation property collection table ownerColumn foreignColumn =>
        cases collection <;> rfl

/-- A text is read as the entry that has the parts of the text between colons as
its fields, and none of them may be empty. -/
theorem parse_eq_ok {text : String} {entry : Entry} :
    parse text = .ok entry ↔
      entry.fields = (splitFields text.toList).map String.ofList ∧
        ∀ field ∈ entry.fields, field ≠ "" := by
  have filled : (splitFields text.toList).any List.isEmpty = true ↔
      ¬ ∀ field ∈ (splitFields text.toList).map String.ofList, field ≠ "" := by
    simp
  simp only [parse, mapError_eq_ok]
  split
  next empty =>
    constructor
    · intro read
      cases read
    · rintro ⟨fields, nonempty⟩
      rw [fields] at nonempty
      exact absurd nonempty (filled.1 empty)
  next nonempty =>
    rw [filled, not_not] at nonempty
    rw [ofFields_eq_ok]
    constructor
    · intro fields
      exact ⟨fields, fields ▸ nonempty⟩
    · intro read
      exact read.1

/-- An entry is read back from its text exactly when all of its fields are plain. -/
theorem parse_encode {entry : Entry} :
    parse entry.encode = .ok entry ↔ ∀ field ∈ entry.fields, PlainField field := by
  rw [parse_eq_ok]
  constructor
  · rintro ⟨fields, nonempty⟩ field member
    refine ⟨nonempty field member, ?_⟩
    rw [fields] at member
    obtain ⟨chars, cut, rfl⟩ := List.mem_map.1 member
    rw [String.toList_ofList]
    exact not_mem_of_mem_splitFields cut
  · intro plain
    have cut : splitFields entry.encode.toList =
        entry.fields.map String.toList := by
      rw [splitFields_eq_splitOn, encode, String.toList_intercalate]
      apply List.splitOn_intercalate
      · intro chars member
        obtain ⟨field, inside, rfl⟩ := List.mem_map.1 member
        exact (plain field inside).2
      · cases entry <;> simp [fields]
    constructor
    · simp [cut]
    · intro field member
      exact (plain field member).1

/-- The names that an entry holds. -/
def names : Entry → List String
  | .scalar property => [property]
  | .object property => [property]
  | .relation property _ table ownerColumn foreignColumn =>
      [property, table, ownerColumn, foreignColumn]

/-- Whether all the names of an entry can be fields. -/
def Plain (entry : Entry) : Prop :=
  ∀ name ∈ entry.names, PlainField name

instance (entry : Entry) : Decidable entry.Plain :=
  inferInstanceAs (Decidable (∀ name ∈ entry.names, PlainField name))

theorem plainField_kind (collection : Collection) : PlainField collection.name := by
  cases collection <;> decide

/-- The fields beside the names say what kind of entry it is. -/
theorem fields_plain_iff {entry : Entry} :
    (∀ field ∈ entry.fields, PlainField field) ↔ entry.Plain := by
  have object : PlainField "object" := by decide
  cases entry with
  | scalar property => rfl
  | object property => simp [fields, Plain, names, object]
  | relation property collection table ownerColumn foreignColumn =>
      simp [fields, Plain, names, plainField_kind collection]

/-- The entry that is read of a text has this text. -/
theorem encode_of_parse {text : String} {entry : Entry}
    (read : parse text = .ok entry) : entry.encode = text := by
  obtain ⟨fields, -⟩ := parse_eq_ok.1 read
  have parts : entry.fields.map String.toList = splitFields text.toList := by
    simp [fields]
  apply String.toList_injective
  rw [encode, String.toList_intercalate, parts, splitFields_eq_splitOn]
  exact List.intercalate_splitOn ':'

/-- A text is read as an entry exactly if it is the text of the entry and the names of
the entry are plain. -/
theorem parse_iff {text : String} {entry : Entry} :
    parse text = .ok entry ↔ entry.encode = text ∧ entry.Plain := by
  constructor
  · intro read
    have written := encode_of_parse read
    rw [← written, parse_encode, fields_plain_iff] at read
    exact ⟨written, read⟩
  · rintro ⟨rfl, plain⟩
    exact parse_encode.2 (fields_plain_iff.2 plain)

/-- A text that is no entry is reported with what is wrong about it. -/
theorem parse_error {text : String} {error : CompileError}
    (failed : parse text = .error error) :
    ∃ problem, error = .invalidEntry text problem := by
  obtain ⟨problem, -, reworded⟩ := mapError_eq_error.1 failed
  exact ⟨problem, reworded.symm⟩

/-- The reader of entries accepts exactly the texts of entries whose names are plain,
each as its entry, and reports every other text. So no two texts are read as one
entry, what is read is written as it was, and an entry of plain names is read back. -/
theorem parse_exact :
    (∀ text entry, parse text = .ok entry ↔ entry.encode = text ∧ entry.Plain) ∧
    (∀ text, (∃ problem, parse text = .error (.invalidEntry text problem)) ↔
      ¬ ∃ entry : Entry, entry.encode = text ∧ entry.Plain) ∧
    (∀ left right entry, parse left = .ok entry → parse right = .ok entry →
      left = right) ∧
    (∀ text entry, parse text = .ok entry → entry.encode = text) ∧
    ∀ entry : Entry, entry.Plain → parse entry.encode = .ok entry := by
  refine ⟨fun text entry => parse_iff, ?refused, ?injective,
    fun text entry => encode_of_parse, ?restored⟩
  case refused =>
    intro text
    constructor
    · rintro ⟨problem, failed⟩ ⟨entry, written⟩
      cases failed.symm.trans (parse_iff.2 written)
    · intro foreign
      cases read : parse text with
      | ok entry => exact absurd ⟨entry, parse_iff.1 read⟩ foreign
      | error error =>
          obtain ⟨problem, rfl⟩ := parse_error read
          exact ⟨problem, rfl⟩
  case injective =>
    intro left right entry first second
    exact (encode_of_parse first).symm.trans (encode_of_parse second)
  case restored =>
    intro entry plain
    exact parse_iff.2 ⟨rfl, plain⟩

/-- Words that say the kind of an entry are names as well. -/
theorem parse_kinds :
    parse "object:map:map:array:object" =
        .ok (.relation "object" .map "map" "array" "object") ∧
      (∀ text, parse text = .ok (.object "object") → text = "object:object") ∧
      parse (Entry.object "map").encode = .ok (.object "map") ∧
      parse "map:map" = .error (.invalidEntry "map:map" (.unknownKind "map")) := by
  obtain ⟨-, -, injective, -, restored⟩ := parse_exact
  have plain : (Entry.relation "object" .map "map" "array" "object").Plain := by decide
  refine ⟨restored _ plain, ?_, restored (.object "map") (by decide), by decide⟩
  intro text read
  exact injective text "object:object" _ read (restored (.object "object") (by decide))

end Entry

open Entry (PlainField)

/-! ## Entries of slots -/

variable {graph : TypeGraph} {names : TableNames} {layout : Layout} {slot : Slot}

/-- Whether the names that go into the entry of a slot are plain: that of its
property and, for a collection, those of its junction. -/
def Slot.Plain (slot : Slot) : Prop :=
  PlainField slot.property.name ∧
    ∀ junction, slot.placement = .junction junction →
      PlainField junction.table ∧ PlainField junction.ownerColumn ∧
        PlainField junction.targetColumn

/-- The entry of a slot is read back exactly when its names are plain. -/
theorem Slot.entry?_parse {key : String} {entry : Entry}
    (found : slot.entry? = some (key, entry)) :
    Entry.parse entry.encode = .ok entry ↔ slot.Plain := by
  rw [Entry.parse_encode, Slot.Plain]
  simp only [Slot.entry?] at found
  cases placement : slot.placement with
  | dropped reason => simp [placement] at found
  | column name type =>
      simp only [placement, Option.some.injEq, Prod.mk.injEq] at found
      simp [← found.2, Entry.fields]
  | foreignKey name target =>
      simp only [placement, Option.some.injEq, Prod.mk.injEq] at found
      have kind : PlainField "object" := by decide
      simp [← found.2, Entry.fields, kind]
  | junction junction =>
      simp only [placement, Option.some.injEq, Prod.mk.injEq] at found
      have kind := Entry.plainField_kind junction.collection
      simp [← found.2, Entry.fields, kind]

/-- Whether a property has a place in a schema in which all that is stored refers
to types of a graph. -/
def Stored (graph : TypeGraph) (property : Property) : Prop :=
  match property.kind with
  | .scalar _ => True
  | .collection _ (.scalar _) => True
  | .object target => target ∈ graph.names
  | .collection _ (.type target) => target ∈ graph.names
  | .composite _ _ => False

instance (graph : TypeGraph) : DecidablePred (Stored graph)
  | ⟨_, .scalar _, _⟩ => inferInstanceAs (Decidable True)
  | ⟨_, .collection _ (.scalar _), _⟩ => inferInstanceAs (Decidable True)
  | ⟨_, .object target, _⟩ => inferInstanceAs (Decidable (target ∈ graph.names))
  | ⟨_, .collection _ (.type target), _⟩ =>
      inferInstanceAs (Decidable (target ∈ graph.names))
  | ⟨_, .composite _ _, _⟩ => inferInstanceAs (Decidable False)

/-- The properties that are stored are those that have an entry. -/
theorem LaidOut.stored_iff {catalog : List String}
    (allocated : names.Allocated graph catalog)
    (laid : LaidOut graph names layout) (member : slot ∈ layout.slots)
    (known : slot.Known graph) :
    Stored graph slot.property ↔ ∃ key entry, slot.entry? = some (key, entry) := by
  have placed := laid.placed member
  simp only [Stored, Slot.entry?]
  simp only [Slot.Known] at known
  generalize slot.placement = stored at placed known
  cases placed with
  | scalar kind | scalars kind | composite kind => simp [kind]
  | object kind present => simp [kind, present]
  | strangeObject kind unknown => simp [kind, unknown]
  | collection kind found mappingKey =>
      have present := known _ rfl
      rw [makeJunction_target] at present
      simp [kind, present]
  | @strangeCollection collection target kind missing =>
      have unknown := laid.target_unknown allocated member
        (heldType?_eq_some.2 ⟨collection, kind⟩) missing
      simp [kind, unknown]

/-! ## Names of junctions -/

theorem colon_sign : IsSign ':' := by decide

/-- A name that is claimed is plain when the wanted name holds no colon. -/
theorem plainField_claim {pool : Pool} {wanted : String}
    (nonempty : wanted ≠ "") :
    PlainField (pool.claim wanted).1 ↔ ':' ∉ wanted.toList := by
  rw [PlainField, Name.mem_claim colon_sign rfl]
  exact and_iff_right (pool.claim_ne_empty nonempty)

theorem colon_rowColumn (type : String) :
    ':' ∈ (rowColumn type).toList ↔ ':' ∈ type.toList := by
  simp [rowColumn, Name.mem_snake colon_sign]

theorem plainField_rowColumn {pool : Pool} {type : String} :
    PlainField (pool.claim (rowColumn type)).1 ↔ ':' ∉ type.toList := by
  rw [plainField_claim, colon_rowColumn]
  rw [rowColumn, ne_eq, ← String.toList_inj]
  simp

namespace LaidOut

theorem junction_ownerColumn (laid : LaidOut graph names layout)
    (member : slot ∈ layout.slots) {junction : Junction}
    (placement : slot.placement = .junction junction) :
    junction.ownerColumn = (freshPool.claim (rowColumn layout.type.name)).1 := by
  have placed := laid.placed member
  rw [placement] at placed
  cases placed with
  | @collection collection target table kind found mappingKey =>
      cases collection <;> rfl

theorem junction_targetColumn (laid : LaidOut graph names layout)
    (member : slot ∈ layout.slots) {junction : Junction}
    (placement : slot.placement = .junction junction) :
    ∃ pool : Pool,
      junction.targetColumn = (pool.claim (rowColumn junction.target)).1 := by
  have placed := laid.placed member
  rw [placement] at placed
  cases placed with
  | @collection collection target table kind found mappingKey =>
      cases collection with
      | array => exact ⟨(freshPool.claim (rowColumn layout.type.name)).2, rfl⟩
      | map =>
          exact ⟨((freshPool.claim (rowColumn layout.type.name)).2.claim
            mapKeyColumn).2, rfl⟩

end LaidOut

end GraphSchema.Storage
