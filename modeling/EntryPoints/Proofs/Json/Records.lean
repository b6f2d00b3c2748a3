import EntryPoints.Json.Decode
import EntryPoints.Json.Stream
import EntryPoints.Proofs.Related

/-! Records read from objects: the order of the fields makes no difference, and neither do fields of
other names where these are passed over.
-/

namespace EntryPoints.Json

------------------------------------------------------------------------------------------
-- Entries of an object

/-- What an object holds under a key, in the order of the text. -/
def entries {ν : Type} (fields : List (String × ν)) (key : String) : List ν :=
  (fields.filter (fun field => field.1 == key)).map Prod.snd

section
variable {ν : Type}

@[simp]
theorem entries_nil (key : String) : entries ([] : List (String × ν)) key = [] :=
  rfl

/-- The entries of an object are those of its first field, if that has the key, and those of the
rest.
-/
theorem entries_cons (name : String) (part : ν) (fields : List (String × ν)) (key : String)
    : entries ((name, part) :: fields) key
      = if name = key then part :: entries fields key else entries fields key := by
  by_cases same : name = key <;> simp [entries, same]

theorem entries_append (first second : List (String × ν)) (key : String)
    : entries (first ++ second) key = entries first key ++ entries second key := by
  simp [entries]

/-- Without the fields of one name the entries under all other keys are as before, since a field
with such a key is not filtered out.
-/
theorem entries_filter_ne (fields : List (String × ν)) {removed key : String}
    (other : key ≠ removed)
    : entries (fields.filter (fun field => field.1 ≠ removed)) key = entries fields key := by
  rw [entries, List.filter_filter, entries]
  refine congrArg (List.map Prod.snd) (List.filter_congr fun field _ => ?_)
  by_cases same : field.1 = key <;> simp [same, other]

/-- Making readings of an object changes neither its keys nor the order of its entries.
By induction on the fields, with a case for each one that does or does not have the key.
-/
theorem entries_ofFields (fields : List (String × Value)) (key : String)
    : entries (Reading.ofFields fields) key = (entries fields key).map Reading.ofValue := by
  induction fields with
  | nil => rfl
  | cons field rest ih =>
      obtain ⟨name, value⟩ := field
      rw [Reading.ofFields, entries_cons, entries_cons, ih]
      split <;> rfl

end

/-- A field with a value is written once, or left out where the value is the default. -/
inductive FieldWritten {α ν : Type} (default? : Option α) (writes : α → ν → Prop) (value : α)
    : List ν → Prop where
  | once {part : ν} (written : writes value part) : FieldWritten default? writes value [part]
  | omitted (isDefault : default? = some value) : FieldWritten default? writes value []

/-- A reading of what writes a content. -/
inductive ReadingOf {α : Type} (writes : α → Value → Prop) : α → Reading → Prop where
  | ofValue {content : α} {value : Value} (written : writes content value)
    : ReadingOf writes content (.ofValue value)

/-- A field that is written among values is written among their readings, with the same default.
There is the one reading of the one entry, or there is none of either.
-/
theorem FieldWritten.ofValue {α : Type} {default? : Option α} {writes : α → Value → Prop}
    {value : α} {fields : List (String × Value)} {key : String}
    (written : FieldWritten default? writes value (entries fields key))
    : FieldWritten default? (ReadingOf writes) value
        (entries (Reading.ofFields fields) key) := by
  rw [entries_ofFields]
  generalize entries fields key = found at written ⊢
  cases written with
  | once written => exact .once (.ofValue written)
  | omitted isDefault => exact .omitted isDefault

------------------------------------------------------------------------------------------
-- Reading the fields of an object

namespace RecordReader

variable {ν ε φ : Type} {reader : RecordReader ν ε φ}

/-- The object has one entry under the name at most, and it can be read. -/
def Reads (reader : RecordReader ν ε φ) (fields : List (String × ν)) (key : String) : Prop :=
  entries fields key = []
  ∨ ∃ part field, entries fields key = [part] ∧ reader.read key part = .ok field

/-- Each field that is read tells under which name. -/
def Keeps (reader : RecordReader ν ε φ) (keyOf : φ → String) : Prop :=
  ∀ key ∈ reader.names, ∀ part field, reader.read key part = .ok field → keyOf field = key

/-- An object can be read if that is so for each of the names that the reader knows, by induction on
the fields. Names that were seen before may not come again.
-/
theorem exists_named {fields : List (String × ν)} {seen : List String}
    (known : reader.strict → ∀ field ∈ fields, field.1 ∈ reader.names)
    (unseen : ∀ key ∈ seen, entries fields key = [])
    (reads : ∀ key ∈ reader.names, reader.Reads fields key)
    : ∃ parsed, reader.named seen fields = .ok parsed := by
  induction fields generalizing seen with
  | nil => exact ⟨[], rfl⟩
  | cons field rest ih =>
      obtain ⟨name, part⟩ := field
      have restKnown : reader.strict → ∀ field ∈ rest, field.1 ∈ reader.names :=
        fun strict field member => known strict field (List.mem_cons_of_mem _ member)
      have restUnseen : ∀ key ∈ seen, entries rest key = [] := by
        intro key earlier
        have none := unseen key earlier
        rw [entries_cons] at none
        split at none
        · cases none
        · exact none
      by_cases named : name ∈ reader.names
      · have new : name ∉ seen := fun earlier => by
          simpa [entries_cons] using unseen name earlier
        obtain ⟨field, read, last⟩
            : ∃ field, reader.read name part = .ok field ∧ entries rest name = [] := by
          rcases reads name named with none | ⟨only, field, one, read⟩
          · simp [entries_cons] at none
          · obtain ⟨rfl, last⟩ : part = only ∧ entries rest name = [] := by
              simpa [entries_cons] using one
            exact ⟨field, read, last⟩
        have restReads : ∀ key ∈ reader.names, reader.Reads rest key := by
          intro key isName
          by_cases same : name = key
          · exact .inl (same ▸ last)
          · simpa [Reads, entries_cons, same] using reads key isName
        obtain ⟨parsed, restNamed⟩ :=
          ih restKnown (List.forall_mem_cons.mpr ⟨last, restUnseen⟩) restReads
        exact ⟨field :: parsed, by simp [RecordReader.named, named, new, read, restNamed]⟩
      · have lenient : reader.strict = false := by
          cases strict : reader.strict with
          | false => rfl
          | true => exact absurd (known strict (name, part) List.mem_cons_self) named
        have restReads : ∀ key ∈ reader.names, reader.Reads rest key := by
          intro key isName
          have other : name ≠ key := fun same => named (same ▸ isName)
          simpa [Reads, entries_cons, other] using reads key isName
        obtain ⟨parsed, restNamed⟩ := ih restKnown restUnseen restReads
        exact ⟨parsed, by simp [RecordReader.named, named, lenient, restNamed]⟩

/-- How a record is read whose first field is given, if it can be. Either the name is known, and its
field comes before those of the rest; or a lenient reader passes over it.
By cases on the checks in their order: what they refuse is no record.
-/
theorem of_named_cons {name : String} {part : ν} {rest : List (String × ν)} {seen : List String}
    {parsed : List φ} (named : reader.named seen ((name, part) :: rest) = .ok parsed)
    : (name ∈ reader.names
        ∧ ∃ field others,
            reader.read name part = .ok field
            ∧ reader.named (name :: seen) rest = .ok others
            ∧ parsed = field :: others)
      ∨ (name ∉ reader.names
        ∧ reader.strict = false
        ∧ reader.named seen rest = .ok parsed) := by
  simp only [RecordReader.named] at named
  split at named
  · next known =>
    split at named
    · cases named
    · split at named
      · cases named
      · next field read =>
        split at named
        · cases named
        · next others restNamed =>
          exact .inl ⟨List.contains_iff_mem.mp known, field, others, read, restNamed,
            (Except.ok.inj named).symm⟩
  · next unknown =>
    split at named
    · cases named
    · next lenient =>
      exact .inr ⟨fun known => unknown (List.contains_iff_mem.mpr known),
        Bool.eq_false_iff.mpr lenient, named⟩

/-- What is selected of the fields that were read is what the entries under one name give, by
induction on the fields.
-/
theorem findSome?_named {α : Type} {keyOf : φ → String} (keeps : reader.Keeps keyOf)
    {fields : List (String × ν)} {seen : List String} {parsed : List φ}
    (named : reader.named seen fields = .ok parsed) {key : String} (isName : key ∈ reader.names)
    {select : φ → Option α} (selects : ∀ field, (select field).isSome → keyOf field = key)
    : parsed.findSome? select
      = (entries fields key).findSome?
          (fun part => (reader.read key part).toOption.bind select) := by
  induction fields generalizing seen parsed with
  | nil =>
      obtain rfl := Except.ok.inj named
      rfl
  | cons field rest ih =>
      obtain ⟨name, part⟩ := field
      rcases of_named_cons named with
        ⟨known, field, others, read, restNamed, rfl⟩ | ⟨unknown, _, restNamed⟩
      · rw [List.findSome?_cons, ih restNamed, entries_cons]
        by_cases same : name = key
        · subst same
          simp [read, Except.toOption, List.findSome?_cons]
        · have kept := keeps name known part field read
          have unselected : select field = none := by
            rw [← Option.not_isSome_iff_eq_none]
            exact fun selected => same (kept.symm.trans (selects field selected))
          simp [same, unselected]
      · have other : name ≠ key := fun same => unknown (same ▸ isName)
        rw [ih restNamed, entries_cons, if_neg other]

/-- A record that is read has no field of another name, if the reader refuses these, and all fields
whose names it knows can be read; by induction on the fields.
-/
theorem of_named_eq_ok {fields : List (String × ν)} {seen : List String} {parsed : List φ}
    (named : reader.named seen fields = .ok parsed)
    : ∀ field ∈ fields,
        (reader.strict → field.1 ∈ reader.names)
        ∧ (field.1 ∈ reader.names → ∃ read, reader.read field.1 field.2 = .ok read) := by
  induction fields generalizing seen parsed with
  | nil => simp
  | cons field rest ih =>
      obtain ⟨name, part⟩ := field
      refine List.forall_mem_cons.mpr ?_
      rcases of_named_cons named with
        ⟨known, field, _, read, restNamed, rfl⟩ | ⟨unknown, lenient, restNamed⟩
      · exact ⟨⟨fun _ => known, fun _ => ⟨field, read⟩⟩, ih restNamed⟩
      · refine ⟨⟨fun strict => ?_, (absurd · unknown)⟩, ih restNamed⟩
        cases lenient.symm.trans strict

variable {α : Type} {keyOf : φ → String} {writes : φ → ν → Prop} {fields : List (String × ν)}

/-- Keys are kept if under each name the reader maps what it reads to fields of that name: a mapped
result is made of some content, and whatever the content, the key is the name.
-/
theorem keeps_of_maps
    (maps
      : ∀ key ∈ reader.names,
          ∀ part,
            ∃ (α : Type) (result : Except ε α) (make : α → φ),
              reader.read key part = result.map make ∧ ∀ content, keyOf (make content) = key)
    : reader.Keeps keyOf := by
  intro key isName part field read
  obtain ⟨_, _, _, mapped, keyed⟩ := maps key isName part
  obtain ⟨content, _, rfl⟩ := exists_of_map_eq_ok (mapped.symm.trans read)
  exact keyed content

/-- A reader decodes its fields: what writes a field is read as the field, under the key of the
field, which is one of the names that the reader knows, and under no other name.
-/
structure Decodes (reader : RecordReader ν ε φ) (keyOf : φ → String) (writes : φ → ν → Prop)
    : Prop where
  isName : ∀ field, keyOf field ∈ reader.names
  reads : ∀ field part, writes field part → reader.read (keyOf field) part = .ok field
  keeps : reader.Keeps keyOf

/-- A written field can be read, whichever field it is: it is left out, or it has the one entry that
writes it.
-/
theorem Decodes.reads_written (decodes : reader.Decodes keyOf writes) (make : α → φ)
    {default? : Option α} {value : α}
    (written
      : FieldWritten default? (fun value => writes (make value)) value
          (entries fields (keyOf (make value))))
    : reader.Reads fields (keyOf (make value)) := by
  unfold Reads
  generalize entries fields (keyOf (make value)) = found at written ⊢
  cases written with
  | @once part written => exact .inr ⟨part, _, rfl, decodes.reads (make value) part written⟩
  | omitted isDefault => exact .inl rfl

/-- Of the fields that were read the value of a written one is selected, or it is the default.
Whichever field it is, what is selected is what its entries give, and that is its value.
-/
theorem Decodes.selected (decodes : reader.Decodes keyOf writes) {parsed : List φ}
    (named : reader.named [] fields = .ok parsed) (make : α → φ) {default? : Option α} {value : α}
    (written
      : FieldWritten default? (fun value => writes (make value)) value
          (entries fields (keyOf (make value))))
    {select : φ → Option α} (made : select (make value) = some value)
    (selects : ∀ field, (select field).isSome → keyOf field = keyOf (make value))
    : (parsed.findSome? select).or default? = some value := by
  have readable := decodes.reads (make value)
  rw [findSome?_named decodes.keeps named (decodes.isName (make value)) selects]
  generalize entries fields (keyOf (make value)) = found at written ⊢
  cases written with
  | @once part written => simp [readable part written, Except.toOption, made]
  | omitted isDefault => simpa using isDefault

end RecordReader

/-- An object whose fields are read by their names is read as a record of these. -/
theorem Value.asRecord_of_named {φ : Type} {reader : RecordReader Value DataError φ}
    {fields : List (String × Value)} {parsed : List φ}
    (named : reader.named [] fields = .ok parsed)
    : (Value.object fields).asRecord reader = .ok (.named, parsed) := by
  simp [Value.asRecord, named, Except.map]

/-- The same of a reading, which has nothing left behind its last field. -/
theorem Reading.asRecord_of_named {φ : Type} {reader : RecordReader Reading ReadError φ}
    {fields : List (String × Value)} {parsed : List φ}
    (named : reader.named [] (Reading.ofFields fields) = .ok parsed)
    : (Reading.ofValue (.object fields)).asRecord reader = .ok (.named, parsed) := by
  simp [Reading.ofValue, Reading.asRecord, named, Reading.close, Ending.fault?]

namespace RecordForm

variable {α : Type} {found? : Option α} {value : α}

/-- A part that is needed is there if what was found, or else nothing, makes the value. -/
theorem require_of_or (found : found?.or none = some value) (form : RecordForm) (name : String)
    : form.require name found? = .ok value := by
  obtain rfl : found? = some value := by simpa using found
  rfl

/-- An optional part has a value that was found, or it is absent, in an object without the field. -/
theorem optional_of_or {found? : Option (Option α)} {value : Option α}
    (found : found?.or (some none) = some value)
    : named.optional found? = .ok value := by
  cases found? with
  | none =>
      obtain rfl : none = value := by simpa using found
      rfl
  | some present =>
      obtain rfl : present = value := by simpa using found
      rfl

/-- A part with a default is what was found, or the default. -/
theorem getD_of_or {default : α} (found : found?.or (some default) = some value)
    : found?.getD default = value := by
  cases found? <;> simpa using found

end RecordForm

------------------------------------------------------------------------------------------
-- Whole values

mutual
/-- The reading of a value holds the value: it was closed everywhere, so nothing is found to be
wrong with it later.
By recursion on the value, with its items and fields.
-/
theorem Reading.value_ofValue : (value : Value) → (Reading.ofValue value).value = .ok value
  | .scalar _ => rfl
  | .array items => by
      simp [Reading.ofValue, Reading.value, Reading.values_ofValues items, Ending.check,
        Ending.fault?]
  | .object fields => by
      simp [Reading.ofValue, Reading.value, Reading.fieldValues_ofFields fields, Ending.check,
        Ending.fault?]

/-- The readings of items hold the items, by recursion on them. -/
theorem Reading.values_ofValues
    : (items : List Value) → Reading.values (Reading.ofValues items) = .ok items
  | [] => rfl
  | value :: rest => by
      simp [Reading.ofValues, Reading.values, Reading.value_ofValue value,
        Reading.values_ofValues rest]

/-- The readings of fields hold the fields, by recursion on them. -/
theorem Reading.fieldValues_ofFields
    : (fields : List (String × Value))
      → Reading.fieldValues (Reading.ofFields fields) = .ok fields
  | [] => rfl
  | (key, value) :: rest => by
      simp [Reading.ofFields, Reading.fieldValues, Reading.value_ofValue value,
        Reading.fieldValues_ofFields rest]
end

/-- What a reading holds can be taken out of it as a whole. -/
theorem Reading.asValue_ofValue (value : Value) : (Reading.ofValue value).asValue = .ok value := by
  simp [Reading.asValue, Reading.value_ofValue]

/-- Readings of items are made one by one, by induction on the items. -/
theorem Reading.ofValues_eq_map (items : List Value)
    : Reading.ofValues items = items.map Reading.ofValue := by
  induction items with
  | nil => rfl
  | cons value rest ih => rw [Reading.ofValues, ih, List.map_cons]

------------------------------------------------------------------------------------------
-- Tags

section
variable {α : Type} {tag : String} {variants : List (String × α)}

/-- A variant that is listed under a name is the one that the name is read as. -/
theorem Reading.asVariantName_of_lookup {name : String} {variant : α}
    (isVariant : variants.lookup name = some variant)
    : Reading.asVariantName variants name = .ok variant := by
  rw [Reading.asVariantName, variantNamed, isVariant]
  rfl

/-- Without a tag among the fields, all of them are kept and what was found before stays.
By induction on the fields: each has another key, so it is taken as a value and kept.
-/
theorem tagged_of_absent {fields : List (String × Value)} (absent : entries fields tag = [])
    (found : Option α)
    : Reading.tagged tag variants found (Reading.ofFields fields)
      = .ok (found, fields.filter (fun field => field.1 ≠ tag)) := by
  induction fields with
  | nil => rfl
  | cons field rest ih =>
      obtain ⟨key, value⟩ := field
      rw [entries_cons] at absent
      split at absent
      · cases absent
      · next other =>
        simp [Reading.ofFields, Reading.tagged, other, Reading.asValue_ofValue, ih absent]

/-- The tag is found wherever it is among the fields, and the others are kept in their order; by
induction on the fields.
-/
theorem tagged_of_present {fields : List (String × Value)} {name : String} {variant : α}
    (present : entries fields tag = [.scalar (.string name)])
    (isVariant : variants.lookup name = some variant)
    : Reading.tagged tag variants none (Reading.ofFields fields)
      = .ok (some variant, fields.filter (fun field => field.1 ≠ tag)) := by
  induction fields with
  | nil => cases present
  | cons field rest ih =>
      obtain ⟨key, value⟩ := field
      rw [entries_cons] at present
      split at present
      · next same =>
        obtain ⟨rfl, last⟩ := List.cons.inj present
        simp [Reading.ofFields, Reading.tagged, same, Reading.ofValue, Reading.asString,
          Reading.asVariantName_of_lookup isVariant, tagged_of_absent last]
      · next other =>
        simp [Reading.ofFields, Reading.tagged, other, Reading.asValue_ofValue, ih present]

/-- A tagged variant is read with the other fields, wherever the tag is among them.
The fields are taken as values for that, which is what keeps them all until the tag has been seen.
-/
theorem asTagged_ofValue {fields : List (String × Value)} {name : String} {variant : α}
    (present : entries fields tag = [.scalar (.string name)])
    (isVariant : variants.lookup name = some variant)
    : (Reading.ofValue (.object fields)).asTagged tag variants
      = .ok (variant, .object (fields.filter (fun field => field.1 ≠ tag))) := by
  simp [Reading.ofValue, Reading.asTagged, tagged_of_present present isVariant, Reading.close,
    Ending.fault?]

end

end EntryPoints.Json
