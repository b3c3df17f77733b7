import GraphSchema.Json.Reading
import GraphSchema.Proofs.Json.Drafts
import GraphSchema.Proofs.Success

/-!
# Reading arrays, maps and records

What is read of the draft of an array is what is read of its items, one after the
other. What is read of a map are entries of distinct keys, and a map of distinct keys
is read in its order. What is read of a record comes from its fields, in whichever of
the two forms the record is written, so a property that every field keeps holds of all
records that are read. What is inside is read one level below.
-/

namespace GraphSchema.Json

section Arrays

variable {α : Type} {read : Reader α} {levels : Nat}

theorem readItems_draft {β : Type} (read : Draft → Reading α) (write : β → Json)
    (items : List β) :
    readItems read (draftItems (items.map write)) =
      items.mapM fun item => read (write item).draft := by
  induction items with
  | nil => rfl
  | cons item rest ih =>
      rw [List.map_cons, draftItems, readItems, ih, List.mapM_cons]

theorem readList_draft {β : Type} (write : β → Json) (items : List β) :
    readList read (levels + 1) (draft (.array (items.map write))) =
      items.mapM fun item => read levels (write item).draft := by
  rw [draft, readList, enter, readItems_draft]

theorem readList_texts (values : List String) :
    readList readText (levels + 1) (draft (.texts values)) = .ok values := by
  rw [texts, readList_draft, mapM_eq_ok, List.forall₂_same]
  exact fun _ _ => rfl

/-- The items that are read of an array are read one by one. -/
theorem forall_readItems {read : Draft → Reading α} {values : List α} :
    ∀ {items : Items}, readItems read items = .ok values →
      ∀ value ∈ values, ∃ draft, read draft = .ok value
  | .closed, done => by
      cases done
      simp
  | .broken _, done => by cases done
  | .item first rest, done => by
      simp only [readItems, bind_eq_ok, pure_eq_ok] at done
      obtain ⟨value, head, values, tail, rfl⟩ := done
      intro found member
      rcases List.mem_cons.1 member with rfl | later
      · exact ⟨first, head⟩
      · exact forall_readItems tail found later

/-- An array that is read takes up a level, and its items are read one below. -/
theorem of_readList {draft : Draft} {values : List α}
    (done : readList read levels draft = .ok values) :
    ∃ below, levels = below + 1 ∧
      ∀ value ∈ values, ∃ draft, read below draft = .ok value := by
  cases draft with
  | array items =>
      cases levels with
      | zero => cases done
      | succ below => exact ⟨below, rfl, forall_readItems done⟩
  | _ => cases done

theorem forall_readList {draft : Draft} {values : List α}
    (done : readList read levels draft = .ok values) :
    ∀ value ∈ values, ∃ levels draft, read levels draft = .ok value := by
  obtain ⟨below, -, inside⟩ := of_readList done
  exact fun value member => ⟨below, inside value member⟩

end Arrays

section Maps

variable {α : Type}

/-- A new key goes to the end. -/
theorem put_of_not_mem {key : String} {value : α} {entries : List (String × α)}
    (absent : key ∉ entries.map Prod.fst) :
    put key value entries = entries ++ [(key, value)] := by
  induction entries with
  | nil => rfl
  | cons entry rest ih =>
      simp only [List.map_cons, List.mem_cons, not_or] at absent
      rw [put, if_neg (Ne.symm absent.1), ih absent.2, List.cons_append]

/-- Entries of distinct keys are put one after the other. -/
theorem foldl_put (entries before : List (String × α))
    (distinct : ((before ++ entries).map Prod.fst).Nodup) :
    entries.foldl (fun table (key, value) => put key value table) before =
      before ++ entries := by
  induction entries generalizing before with
  | nil => simp
  | cons entry rest ih =>
      obtain ⟨key, value⟩ := entry
      have absent : key ∉ before.map Prod.fst := by
        intro member
        rw [List.map_append, List.nodup_append] at distinct
        exact distinct.2.2 key member key (by simp) rfl
      simp only [List.foldl_cons]
      rw [put_of_not_mem absent, ih]
      · simp
      · simpa using distinct

theorem mem_put {key : String} {value : α} {entries : List (String × α)}
    {entry : String × α} (member : entry ∈ put key value entries) :
    entry = (key, value) ∨ entry ∈ entries := by
  induction entries with
  | nil => simpa [put] using member
  | cons first rest ih =>
      rw [put] at member
      split at member
      · rcases List.mem_cons.1 member with rfl | later
        · exact .inl rfl
        · exact .inr (List.mem_cons_of_mem first later)
      · rcases List.mem_cons.1 member with rfl | later
        · exact .inr List.mem_cons_self
        · exact (ih later).imp_right (List.mem_cons_of_mem first)

theorem nodup_put (key : String) (value : α) {entries : List (String × α)}
    (distinct : (entries.map Prod.fst).Nodup) :
    ((put key value entries).map Prod.fst).Nodup := by
  induction entries with
  | nil => simp [put]
  | cons first rest ih =>
      rw [List.map_cons, List.nodup_cons] at distinct
      rw [put]
      split
      next same => simpa [← same] using distinct
      next other =>
        refine List.nodup_cons.2 ⟨?_, ih distinct.2⟩
        intro again
        obtain ⟨entry, member, same⟩ := List.mem_map.1 again
        rcases mem_put member with rfl | old
        · exact other same.symm
        · exact distinct.1 (same ▸ List.mem_map_of_mem old)

/-- The entries that are read of an object have distinct keys, and their values are read
one by one. -/
theorem of_readEntries {read : Draft → Reading α} {entries : List (String × α)} :
    ∀ {before : List (String × α)} {members : Members},
      (before.map Prod.fst).Nodup →
      (∀ entry ∈ before, ∃ draft, read draft = .ok entry.2) →
      readEntries read before members = .ok entries →
      (entries.map Prod.fst).Nodup ∧ ∀ entry ∈ entries, ∃ draft, read draft = .ok entry.2
  | _, .closed, distinct, inside, done => by
      cases done
      exact ⟨distinct, inside⟩
  | _, .broken _, _, _, done => by cases done
  | _, .keyless _, _, _, done => by cases done
  | _, .member none _ _, _, _, done => by cases done
  | before, .member (some key) draft rest, distinct, inside, done => by
      obtain ⟨value, here, done⟩ := bind_eq_ok.1 done
      refine of_readEntries (nodup_put key value distinct) ?_ done
      intro entry member
      rcases mem_put member with rfl | old
      · exact ⟨draft, here⟩
      · exact inside entry old

/-- A map that is read takes up a level, has distinct keys, and its values are read one
below. -/
theorem of_readMap {read : Reader α} {levels : Nat} {draft : Draft}
    {entries : List (String × α)} (done : readMap read levels draft = .ok entries) :
    ∃ below, levels = below + 1 ∧ (entries.map Prod.fst).Nodup ∧
      ∀ entry ∈ entries, ∃ draft, read below draft = .ok entry.2 := by
  cases draft with
  | object members =>
      cases levels with
      | zero => cases done
      | succ below => exact ⟨below, rfl, of_readEntries (by simp) (by simp) done⟩
  | _ => cases done

/-- Entries of distinct keys are read again behind those that were read before, if the
value of each one is. -/
theorem readEntries_draft {read : Draft → Reading α} {write : α → Json}
    {entries before : List (String × α)}
    (distinct : (before.map Prod.fst ++ entries.map Prod.fst).Nodup)
    (each : ∀ entry ∈ entries, read (write entry.2).draft = .ok entry.2) :
    readEntries read before
        (draftMembers (entries.map fun (key, value) => (key, write value))) =
      .ok (before ++ entries) := by
  induction entries generalizing before with
  | nil =>
      rw [List.append_nil]
      rfl
  | cons entry rest ih =>
      obtain ⟨key, value⟩ := entry
      rw [List.forall_mem_cons] at each
      have absent : key ∉ before.map Prod.fst := by
        intro member
        rw [List.nodup_append] at distinct
        exact distinct.2.2 key member key (by simp) rfl
      have still : ((before ++ [(key, value)]).map Prod.fst ++
          rest.map Prod.fst).Nodup := by simpa using distinct
      have behind := ih still each.2
      rw [List.append_assoc, List.singleton_append] at behind
      rw [List.map_cons, draftMembers, readEntries, each.1, ok_bind,
        put_of_not_mem absent, behind]

end Maps

theorem read_of_readOptional {α : Type} {read : Reader α} {levels : Nat}
    {draft : Draft} {value : α}
    (done : readOptional read levels draft = .ok (some value)) :
    read levels draft = .ok value := by
  unfold readOptional at done
  split at done
  · cases done
  · cases found : read levels draft <;> rw [found] at done <;> cases done
    rfl

section Records

variable {σ : Type}

/-- What holds of a record still holds when the field has been read. -/
def RecordField.Keeps (field : RecordField σ) (Kept : σ → Prop) : Prop :=
  ∀ draft record next, Kept record → field.read draft record = .ok next → Kept next

variable (Kept : σ → Prop)

/-- Fields that are given already are not read again, so they need not keep anything. -/
theorem readMembers_keeps {fields : List (RecordField σ)} {final : σ} :
    ∀ {given : List String} {record : σ} {members : Members},
      (∀ field ∈ fields, field.name ∉ given → field.Keeps Kept) → Kept record →
      readMembers fields given record members = .ok final → Kept final
  | _, _, .closed, _, kept, done => by
      cases done
      exact kept
  | _, _, .broken _, _, _, done => by cases done
  | _, _, .keyless _, _, _, done => by cases done
  | _, _, .member none _ _, _, _, done => by cases done
  | given, record, .member (some key) value rest, keeps, kept, done => by
      rw [readMembers] at done
      split at done
      next field found =>
        split at done
        · cases done
        next fresh =>
          obtain ⟨next, read, done⟩ := bind_eq_ok.1 done
          have inside := List.mem_of_find?_eq_some found
          have named : field.name = key := by simpa using List.find?_some found
          refine readMembers_keeps ?_ (keeps field inside (named ▸ fresh) value _ next kept read)
            done
          intro other member absent
          exact keeps other member fun present => absent (List.mem_cons_of_mem key present)
      next =>
        split at done
        · cases done
        · exact readMembers_keeps keeps kept done

theorem readPositions_keeps {fields : List (RecordField σ)} {final : σ}
    (keeps : ∀ field ∈ fields, field.Keeps Kept) {record : σ} {items : Items}
    (kept : Kept record) (done : readPositions fields record items = .ok final) :
    Kept final := by
  induction fields generalizing record items with
  | nil =>
      match items with
      | .closed =>
        cases done
        exact kept
      | .broken _ | .item _ _ => cases done
  | cons field fields ih =>
      match items with
      | .closed =>
        cases done
        exact kept
      | .broken _ => cases done
      | .item value rest =>
        obtain ⟨next, read, done⟩ := bind_eq_ok.1 done
        rw [List.forall_mem_cons] at keeps
        exact ih keeps.2 (keeps.1 value record next kept read) done

variable {α : Type} {empty : σ} {fields : Nat → List (RecordField σ)}
  {finish : (String → ReadError) → σ → Reading α} {levels : Nat} {draft : Draft}
  {value : α}

/-- A record that is read takes up a level, and is completed from what its fields, which
are read one below, have made of the empty one. -/
theorem of_readRecord (Kept : Nat → σ → Prop) (start : ∀ below, Kept below empty)
    (keeps : ∀ below, ∀ field ∈ fields below, field.Keeps (Kept below))
    (done : readRecord empty fields finish levels draft = .ok value) :
    ∃ below missing record, levels = below + 1 ∧ Kept below record ∧
      finish missing record = .ok value := by
  cases draft with
  | object members =>
      cases levels with
      | zero => cases done
      | succ below =>
          obtain ⟨record, read, done⟩ := bind_eq_ok.1 done
          have kept := readMembers_keeps (Kept below)
            (fun field member _ => keeps below field member) (start below) read
          exact ⟨below, _, record, rfl, kept, done⟩
  | array items =>
      cases levels with
      | zero => cases done
      | succ below =>
          obtain ⟨record, read, done⟩ := bind_eq_ok.1 done
          have kept := readPositions_keeps (Kept below) (keeps below) (start below) read
          exact ⟨below, _, record, rfl, kept, done⟩
  | _ => cases done

theorem exists_record_of_readRecord (start : Kept empty)
    (keeps : ∀ levels, ∀ field ∈ fields levels, field.Keeps Kept)
    (done : readRecord empty fields finish levels draft = .ok value) :
    ∃ missing record, Kept record ∧ finish missing record = .ok value := by
  obtain ⟨_, missing, record, -, kept, done⟩ :=
    of_readRecord (fun _ => Kept) (fun _ => start) keeps done
  exact ⟨missing, record, kept, done⟩

end Records

/-- A text is read if it holds one value and nothing else. -/
theorem Source.read_eq_ok {α : Type} {source : Source} {read : Reader α}
    {value : α} :
    source.read read = .ok value ↔
      read levelLimit source.draft = .ok value ∧ source.trailing = false := by
  obtain ⟨draft, trailing⟩ := source
  simp only [Source.read, bind_eq_ok]
  cases trailing <;> simp [throw, throwThe, MonadExceptOf.throw]

end GraphSchema.Json
