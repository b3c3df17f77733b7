import GraphSchema.Proofs.Json.Records

/-!
# Reading and converting

A reader can convert what it reads as soon as a part of it is complete, or leave it as the
document has it. Where the latter finds nothing to complain about, the former gives what
comes of converting the whole afterwards: the same contents, or the first failure of a
conversion. A record may have one field whose conversion can fail.
-/

namespace GraphSchema.Json

variable {α β σ τ : Type}

/-- Whether a reader gives what the contents that another one finds are converted to. -/
def Converts (plain : Reader α) (convert : α → Reading β) (read : Reader β) : Prop :=
  ∀ {levels draft contents}, plain levels draft = .ok contents →
    read levels draft = convert contents

section Values

variable {plain : Reader α} {convert : α → Reading β} {read : Reader β}

theorem readItems_converts {plain : Draft → Reading α} {read : Draft → Reading β}
    (converts : ∀ {draft contents}, plain draft = .ok contents →
      read draft = convert contents) {contents : List α} :
    ∀ {items : Items}, readItems plain items = .ok contents →
      readItems read items = contents.mapM convert
  | .closed, done => by
      cases done
      rfl
  | .broken _, done => by cases done
  | .item first rest, done => by
      simp only [readItems, bind_eq_ok, pure_eq_ok] at done
      obtain ⟨content, head, contents, tail, rfl⟩ := done
      rw [readItems, converts head, readItems_converts converts tail, List.mapM_cons]

theorem Converts.readList (converts : Converts plain convert read) :
    Converts (readList plain) (List.mapM convert) (readList read) := by
  intro levels draft contents done
  cases draft with
  | array items =>
      cases levels with
      | zero => cases done
      | succ below => exact readItems_converts converts done
  | _ => cases done

theorem Converts.readOptional {image : α → β}
    (converts : Converts plain (fun contents => .ok (image contents)) read) :
    Converts (readOptional plain) (fun contents => .ok (contents.map image))
      (readOptional read) := by
  intro levels draft contents done
  cases contents with
  | none =>
      unfold Json.readOptional at done ⊢
      split at done
      · rfl
      · cases found : plain levels draft <;> rw [found] at done <;> cases done
  | some content =>
      have found := read_of_readOptional done
      unfold Json.readOptional at done ⊢
      split at done
      · cases done
      · rw [converts found]
        rfl

/-- A text that holds plain contents holds what they are converted to. -/
theorem Converts.source (converts : Converts plain convert read) {source : Source}
    {contents : α} (done : source.read plain = .ok contents) :
    source.read read = convert contents := by
  obtain ⟨found, ended⟩ := Source.read_eq_ok.1 done
  rw [Source.read, converts found, ended]
  cases convert contents <;> rfl

end Values

/-! ## Records -/

/-- Whether a field makes of a converted record what becomes of the plain one. -/
structure RecordField.Converts (convert : σ → Reading τ) (plain : RecordField σ)
    (field : RecordField τ) : Prop where
  name : field.name = plain.name
  read : ∀ {draft record next image}, convert record = .ok image →
    plain.read draft record = .ok next → field.read draft image = convert next

/-- Whether a field neither makes nor mends a failure of the conversion. -/
def RecordField.Neutral (convert : σ → Reading τ) (plain : RecordField σ) : Prop :=
  ∀ draft record next, plain.read draft record = .ok next →
    ∀ error, convert next = .error error ↔ convert record = .error error

/-- Fields of plain and of converted records, of which only one can make a conversion
fail. -/
structure ConvertedFields (convert : σ → Reading τ) (risky : String)
    (plains : List (RecordField σ)) (fields : List (RecordField τ)) : Prop where
  each : List.Forall₂ (RecordField.Converts convert) plains fields
  distinct : (plains.map RecordField.name).Nodup
  neutral : ∀ plain ∈ plains, plain.name ≠ risky → plain.Neutral convert

section Records

variable {convert : σ → Reading τ} {risky : String} {plains : List (RecordField σ)}
  {fields : List (RecordField τ)}

theorem RecordField.Neutral.keeps {plain : RecordField σ}
    (neutral : plain.Neutral convert) (error : ReadError) :
    plain.Keeps fun record => convert record = .error error :=
  fun draft record next failed done => (neutral draft record next done error).2 failed

/-- A field that makes a conversion fail is the risky one. -/
theorem RecordField.name_eq_risky {plain : RecordField σ}
    (neutral : plain.name ≠ risky → plain.Neutral convert) {draft : Draft} {record next : σ}
    {image : τ} (fine : convert record = .ok image)
    (done : plain.read draft record = .ok next) {error : ReadError}
    (failed : convert next = .error error) : plain.name = risky := by
  by_contra other
  rw [neutral other draft record next done error, fine] at failed
  cases failed

/-- Fields that correspond are found by the same names. -/
theorem find?_converts (each : List.Forall₂ (RecordField.Converts convert) plains fields)
    (key : String) :
    Option.Rel (RecordField.Converts convert) (plains.find? (·.name = key))
      (fields.find? (·.name = key)) := by
  induction each with
  | nil => exact .none
  | cons head _ ih =>
      rw [List.find?_cons, List.find?_cons, head.name]
      split
      · exact .some head
      · exact ih

theorem find?_eq_none_of_converts
    (each : List.Forall₂ (RecordField.Converts convert) plains fields) {key : String}
    (absent : plains.find? (·.name = key) = none) :
    fields.find? (·.name = key) = none := by
  have same := find?_converts each key
  rw [absent] at same
  generalize fields.find? (·.name = key) = found at same
  cases same
  rfl

theorem exists_field_of_converts
    (each : List.Forall₂ (RecordField.Converts convert) plains fields) {key : String}
    {plain : RecordField σ} (present : plains.find? (·.name = key) = some plain) :
    ∃ field, fields.find? (·.name = key) = some field ∧ plain.Converts convert field := by
  have same := find?_converts each key
  rw [present] at same
  generalize fields.find? (·.name = key) = found at same
  cases same with
  | some same => exact ⟨_, rfl, same⟩

/-- The members of a record, if the plain record is complete. A conversion that fails does so
at the risky field, which is not given again. -/
theorem readMembers_converts (converted : ConvertedFields convert risky plains fields)
    {final : σ} :
    ∀ {given : List String} {record : σ} {image : τ} {members : Members},
      convert record = .ok image → readMembers plains given record members = .ok final →
      readMembers fields given image members = convert final
  | _, _, _, .closed, fine, done => by
      cases done
      exact fine.symm
  | _, _, _, .broken _, _, done => by cases done
  | _, _, _, .keyless _, _, done => by cases done
  | _, _, _, .member none _ _, _, done => by cases done
  | given, record, image, .member (some key) value rest, fine, done => by
      rw [readMembers] at done ⊢
      cases found : plains.find? (·.name = key) with
      | none =>
          rw [find?_eq_none_of_converts converted.each found]
          rw [found] at done
          cases skipped : value.skip with
          | error fault => simp [skipped] at done
          | ok _ =>
              simp only [skipped] at done ⊢
              exact readMembers_converts converted fine done
      | some plain =>
          obtain ⟨field, present, same⟩ := exists_field_of_converts converted.each found
          rw [present]
          rw [found] at done
          by_cases again : key ∈ given
          · simp [again] at done
          · simp only [if_neg again, bind_eq_ok] at done ⊢
            obtain ⟨next, read, done⟩ := done
            rw [same.read fine read]
            have neutral := converted.neutral plain (List.mem_of_find?_eq_some found)
            cases next_image : convert next with
            | ok image => exact readMembers_converts converted next_image done
            | error error =>
                -- From here on the conversion stays failed, as its only field is used up.
                have name := plain.name_eq_risky neutral fine read next_image
                have named : plain.name = key := by simpa using List.find?_some found
                refine (readMembers_keeps (fun record => convert record = .error error)
                  ?_ next_image done).symm
                intro other inside absent
                refine (converted.neutral other inside ?_).keeps error
                intro also
                exact absent (by simp [also, ← name, named])

theorem readPositions_converts (each : List.Forall₂ (RecordField.Converts convert) plains fields)
    (distinct : (plains.map RecordField.name).Nodup)
    (neutral : ∀ plain ∈ plains, plain.name ≠ risky → plain.Neutral convert)
    {record final : σ} {image : τ} {items : Items} (fine : convert record = .ok image)
    (done : readPositions plains record items = .ok final) :
    readPositions fields image items = convert final := by
  induction each generalizing record image items with
  | nil =>
      cases items with
      | closed =>
          cases done
          exact fine.symm
      | broken | item => cases done
  | @cons plain field plains fields head _ ih =>
      rw [List.map_cons, List.nodup_cons] at distinct
      rw [List.forall_mem_cons] at neutral
      cases items with
      | closed =>
          cases done
          exact fine.symm
      | broken => cases done
      | item value rest =>
          obtain ⟨next, read, done⟩ := bind_eq_ok.1 done
          rw [readPositions, head.read fine read]
          cases converted : convert next with
          | ok image => exact ih distinct.2 neutral.2 converted done
          | error error =>
              have name := plain.name_eq_risky neutral.1 fine read converted
              refine (readPositions_keeps (fun record => convert record = .error error)
                ?_ converted done).symm
              intro later member
              refine (neutral.2 later member ?_).keeps error
              intro also
              refine distinct.1 ?_
              rw [name, ← also]
              exact List.mem_map_of_mem member

end Records

/-- Records whose fields correspond, and whose completion makes of the converted record what
becomes of the plain one. -/
theorem readRecord_converts {empty : σ} {start : τ} {plains : Nat → List (RecordField σ)}
    {fields : Nat → List (RecordField τ)} {convertRecord : σ → Reading τ} {risky : String}
    {plainFinish : (String → ReadError) → σ → Reading α}
    {finish : (String → ReadError) → τ → Reading β} {convert : α → Reading β}
    (begin : convertRecord empty = .ok start)
    (converted : ∀ levels,
      ConvertedFields convertRecord risky (plains levels) (fields levels))
    (complete : ∀ {missing record contents}, plainFinish missing record = .ok contents →
      convertRecord record >>= finish missing = convert contents) :
    Converts (readRecord empty plains plainFinish) convert
      (readRecord start fields finish) := by
  intro levels draft contents done
  cases draft with
  | object members =>
      cases levels with
      | zero => cases done
      | succ below =>
          obtain ⟨record, read, done⟩ := bind_eq_ok.1 done
          rw [← complete done, ← readMembers_converts (converted below) begin read]
          rfl
  | array items =>
      cases levels with
      | zero => cases done
      | succ below =>
          obtain ⟨record, read, done⟩ := bind_eq_ok.1 done
          obtain ⟨each, distinct, neutral⟩ := converted below
          rw [← complete done, ← readPositions_converts each distinct neutral begin read]
          rfl
  | _ => cases done

end GraphSchema.Json
