import EntryPoints.Proofs.Json.Building
import EntryPoints.Proofs.Manifest.MemberDecoding

/-! Decoding undoes every way of writing a manifest. -/

namespace EntryPoints

open Json

------------------------------------------------------------------------------------------
-- Parts

section
variable {α : Type} {writes : α → Value → Prop} {reading : Reading}

/-- A string is read from the text as it is written. -/
theorem Json.ReadingOf.asString {content : String}
    (written : ReadingOf WritesString content reading)
    : reading.asString = .ok content := by
  obtain ⟨rfl⟩ := written
  rfl

/-- A flag is read from the text as it is written. -/
theorem Json.ReadingOf.asBool {content : Bool} (written : ReadingOf WritesBool content reading)
    : reading.asBool = .ok content := by
  obtain ⟨rfl⟩ := written
  rfl

/-- An optional string is read from the text as it is written; by cases on whether it is there. -/
theorem Json.ReadingOf.asOptionalString {content : Option String}
    (written : ReadingOf (WritesOptional WritesString) content reading)
    : reading.asOptional Reading.asString = .ok content := by
  obtain ⟨written⟩ := written
  cases written with
  | absent => rfl
  | present written =>
      obtain rfl := written
      rfl

/-- A list is read from the text as it is written, if each of its items is, since a list that is
closed has no fault at its end.
-/
theorem Json.ReadingOf.asList {contents : List α}
    (written : ReadingOf (WritesList writes) contents reading)
    {read : Reading → Except ReadError α}
    (reads : ∀ content reading, ReadingOf writes content reading → read reading = .ok content)
    : reading.asList read = .ok contents := by
  obtain ⟨⟨written⟩⟩ := written
  have items : (List.map Reading.ofValue _).mapM read = .ok contents :=
    mapM_of_forall₂
      (List.forall₂_map_right_iff.mpr (written.imp fun _ _ writes => reads _ _ (.ofValue writes)))
  simp [Reading.ofValue, Reading.asList, Reading.ofValues_eq_map, items, Reading.close,
    Ending.fault?]

/-- A name that is written as a string is read from the text as the variant of that name. -/
theorem Json.ReadingOf.asVariant {name : String} (written : ReadingOf WritesString name reading)
    {variants : List (String × α)} {content : α} (found : variants.lookup name = some content)
    : reading.asVariant variants = .ok content := by
  obtain ⟨rfl⟩ := written
  exact Reading.asVariantName_of_lookup found

end

------------------------------------------------------------------------------------------
-- Types

namespace TypeField

/-- The name that a field of a type goes by. -/
def key : TypeField → String
  | .name _ => "name"
  | .kind _ => "kind"
  | .base _ => "base"
  | .bogus _ => "bogus"
  | .members _ => "members"

/-- What writes a field of a type under its name. -/
def Writes : TypeField → Reading → Prop
  | .name content => ReadingOf WritesString content
  | .kind content => ReadingOf (fun kind => WritesString kind.keyword) content
  | .base content => ReadingOf (WritesOptional WritesString) content
  | .bogus content => ReadingOf WritesBool content
  | .members contents => ReadingOf (WritesList (WritesObject MemberDecl.WrittenAs)) contents

/-- The fields of a type are read as they are written, by cases on the field: the part is read as
its content, and the content becomes the field.
-/
theorem decodes : reader.Decodes key Writes where
  isName field := by cases field <;> simp [reader, key]
  reads field _ writes := by
    cases field with
    | name => exact congrArg (Except.map TypeField.name) writes.asString
    | kind content =>
        obtain ⟨writes⟩ := writes
        have named : ReadingOf WritesString content.keyword _ := .ofValue writes
        exact congrArg (Except.map TypeField.kind) (named.asVariant (lookup_namedKind content))
    | base => exact congrArg (Except.map TypeField.base) writes.asOptionalString
    | bogus => exact congrArg (Except.map TypeField.bogus) writes.asBool
    | members =>
        exact congrArg (Except.map TypeField.members)
          (writes.asList fun _ _ => MemberDecl.ofReading_eq)
  keeps := by
    refine RecordReader.keeps_of_maps fun name known part => ?_
    simp only [reader, List.mem_cons, List.not_mem_nil, or_false] at known
    rcases known with rfl | rfl | rfl | rfl | rfl <;> exact ⟨_, _, _, rfl, fun _ => rfl⟩

end TypeField

/-- Reading the fields of an object leaves their keys as they are, so keys that are known stay
known; by induction over the fields.
-/
theorem known_ofFields {fields : List (String × Value)} {names : List String}
    (known : ∀ field ∈ fields, field.1 ∈ names)
    : ∀ field ∈ Reading.ofFields fields, field.1 ∈ names := by
  induction fields with
  | nil => simp [Reading.ofFields]
  | cons field rest ih =>
      rw [List.forall_mem_cons] at known
      rw [Reading.ofFields, List.forall_mem_cons]
      exact ⟨known.1, ih known.2⟩

/-- A type is read as it is written. All of its keys are known, each of its fields can be read, in
whichever order they are, and the type is put together of what is selected for each field or of its
default.
-/
theorem TypeDecl.ofReading_eq {type : TypeDecl} {reading : Reading}
    (writes : ReadingOf (WritesObject TypeDecl.WrittenAs) type reading)
    : TypeDecl.ofReading reading = .ok type := by
  open TypeField in
  obtain ⟨@⟨fields, written⟩⟩ := writes
  obtain ⟨parsed, named⟩
      : ∃ parsed, TypeField.reader.named [] (Reading.ofFields fields) = .ok parsed := by
    refine RecordReader.exists_named (fun _ => known_ofFields written.known) (by simp) ?_
    simp only [reader, List.forall_mem_cons]
    exact ⟨decodes.reads_written .name written.name.ofValue,
      decodes.reads_written .kind written.kind.ofValue,
      decodes.reads_written .base written.base.ofValue,
      decodes.reads_written .bogus written.bogus.ofValue,
      decodes.reads_written .members written.members.ofValue, by simp⟩
  have fromFields : TypeDecl.ofFields .named parsed = .ok type := by
    unfold TypeDecl.ofFields
    rw [@RecordForm.require_of_or _ _ type.name ?_, @RecordForm.optional_of_or _ _ type.base ?_,
      @RecordForm.getD_of_or _ _ type.kind _ ?_, @RecordForm.getD_of_or _ _ type.bogus _ ?_,
      @RecordForm.getD_of_or _ _ type.members _ ?_]
    · rfl
    · exact decodes.selected named .members written.members.ofValue rfl
        fun field => by cases field <;> simp [key]
    · exact decodes.selected named .bogus written.bogus.ofValue rfl
        fun field => by cases field <;> simp [key]
    · exact decodes.selected named .kind written.kind.ofValue rfl
        fun field => by cases field <;> simp [key]
    · exact decodes.selected named .base written.base.ofValue rfl
        fun field => by cases field <;> simp [key]
    · exact decodes.selected named .name written.name.ofValue rfl
        fun field => by cases field <;> simp [key]
  rw [TypeDecl.ofReading, Reading.asRecord_of_named named]
  exact congrArg (Except.mapError ReadError.data) fromFields

------------------------------------------------------------------------------------------
-- The compilation

namespace CompilationDecl

/-- The one field of a program is read as it is written, as an optional string. -/
theorem decodes_main : mainReader.Decodes (fun _ => "main") (WritesOptional WritesString) where
  isName _ := List.mem_singleton_self _
  reads _ _ writes := writes.asOptionalString
  keeps _ known _ _ _ := (List.mem_singleton.mp known).symm

/-- The one field of a script or a submission is read as it is written, as a string. -/
theorem decodes_class : classReader.Decodes (fun _ => "class") WritesString where
  isName _ := List.mem_singleton_self _
  reads _ _ writes := writes.asString
  keeps _ known _ _ _ := (List.mem_singleton.mp known).symm

/-- The main of a program is read as it is written, also where it is left out, and whatever else is
beside it.
-/
theorem mainOf_eq {main : Option String} {fields : List (String × Value)}
    (written
      : FieldWritten (some none) (WritesOptional WritesString) main (entries fields "main"))
    : mainOf (.object fields) = .ok main := by
  obtain ⟨parsed, named⟩ : ∃ parsed, mainReader.named [] fields = .ok parsed := by
    refine RecordReader.exists_named (fun strict => nomatch strict) (by simp) ?_
    simp only [mainReader, List.forall_mem_cons]
    exact ⟨decodes_main.reads_written id written, by simp⟩
  have selected : (parsed.findSome? some).or (some none) = some main :=
    decodes_main.selected named id written rfl fun _ _ => rfl
  have fromFields : RecordForm.named.optional parsed.head? = .ok main :=
    RecordForm.optional_of_or (by cases parsed <;> exact selected)
  rw [mainOf, Value.asRecord_of_named named]
  exact fromFields

/-- The class of a script or a submission is read as it is written, whatever else is beside it. -/
theorem classOf_eq {className : String} {fields : List (String × Value)}
    (written : FieldWritten none WritesString className (entries fields "class"))
    : classOf (.object fields) = .ok className := by
  obtain ⟨parsed, named⟩ : ∃ parsed, classReader.named [] fields = .ok parsed := by
    refine RecordReader.exists_named (fun strict => nomatch strict) (by simp) ?_
    simp only [classReader, List.forall_mem_cons]
    exact ⟨decodes_class.reads_written id written, by simp⟩
  have selected : (parsed.findSome? some).or none = some className :=
    decodes_class.selected named id written rfl fun _ _ => rfl
  have fromFields : RecordForm.named.require "class" parsed.head? = .ok className :=
    RecordForm.require_of_or (by cases parsed <;> exact selected) _ _
  rw [classOf, Value.asRecord_of_named named]
  exact fromFields

/-- The compilation is read as it is written, by cases on its tag.
The tag is found wherever it is, and taking it out leaves the field beside it as it is.
-/
theorem ofReading_eq {compilation : CompilationDecl} {reading : Reading}
    (writes : ReadingOf (WritesObject CompilationDecl.WrittenAs) compilation reading)
    : CompilationDecl.ofReading reading = .ok compilation := by
  obtain ⟨⟨written⟩⟩ := writes
  cases written with
  | regular tag written =>
      rw [← entries_filter_ne _ (by decide : "main" ≠ "kind")] at written
      rw [CompilationDecl.ofReading, asTagged_ofValue tag
        (rfl : CompilationTag.variants.lookup "regular" = some .regular)]
      exact congrArg (fun result => (result.map CompilationDecl.regular).mapError ReadError.data)
        (mainOf_eq written)
  | script tag written =>
      rw [← entries_filter_ne _ (by decide : "class" ≠ "kind")] at written
      rw [CompilationDecl.ofReading, asTagged_ofValue tag
        (rfl : CompilationTag.variants.lookup "script" = some .script)]
      exact congrArg (fun result => (result.map CompilationDecl.script).mapError ReadError.data)
        (classOf_eq written)
  | submission tag written =>
      rw [← entries_filter_ne _ (by decide : "class" ≠ "kind")] at written
      rw [CompilationDecl.ofReading, asTagged_ofValue tag
        (rfl : CompilationTag.variants.lookup "submission" = some .submission)]
      exact congrArg (fun result => (result.map CompilationDecl.submission).mapError ReadError.data)
        (classOf_eq written)

end CompilationDecl

------------------------------------------------------------------------------------------
-- The manifest

namespace ManifestField

/-- The name that a field of a manifest goes by. -/
def key : ManifestField → String
  | .platformTasks _ => "platform_tasks"
  | .types _ => "types"
  | .compilation _ => "compilation"

/-- What writes a field of a manifest under its name. -/
def Writes : ManifestField → Reading → Prop
  | .platformTasks content => ReadingOf WritesBool content
  | .types contents => ReadingOf (WritesList (WritesObject TypeDecl.WrittenAs)) contents
  | .compilation content => ReadingOf (WritesObject CompilationDecl.WrittenAs) content

/-- The fields of a manifest are read as they are written, by cases on the field: flags and lists as
in general, types and the compilation by the lemmas above.
-/
theorem decodes : reader.Decodes key Writes where
  isName field := by cases field <;> simp [reader, key]
  reads field _ writes := by
    cases field with
    | platformTasks => exact congrArg (Except.map ManifestField.platformTasks) writes.asBool
    | types =>
        exact congrArg (Except.map ManifestField.types)
          (writes.asList fun _ _ => TypeDecl.ofReading_eq)
    | compilation =>
        exact congrArg (Except.map ManifestField.compilation) (CompilationDecl.ofReading_eq writes)
  keeps := by
    refine RecordReader.keeps_of_maps fun name known part => ?_
    simp only [reader, List.mem_cons, List.not_mem_nil, or_false] at known
    rcases known with rfl | rfl | rfl <;> exact ⟨_, _, _, rfl, fun _ => rfl⟩

end ManifestField

namespace Manifest

variable {manifest : Manifest} {fields : List (String × Value)}

/-- A manifest is read as it is written. All of its keys are known, each of its fields can be read,
in whichever order they are, and the manifest is put together of what is selected for each field or
of its default.
-/
theorem ofReading_eq (written : manifest.WrittenAs fields)
    : ofReading (.ofValue (.object fields)) = .ok manifest := by
  open ManifestField in
  obtain ⟨parsed, named⟩
      : ∃ parsed, ManifestField.reader.named [] (Reading.ofFields fields) = .ok parsed := by
    refine RecordReader.exists_named (fun _ => known_ofFields written.known) (by simp) ?_
    simp only [reader, List.forall_mem_cons]
    exact ⟨decodes.reads_written .platformTasks written.platformTasks.ofValue,
      decodes.reads_written .types written.types.ofValue,
      decodes.reads_written .compilation written.compilation.ofValue, by simp⟩
  have fromFields : ofFields .named parsed = .ok manifest := by
    unfold ofFields
    rw [@RecordForm.require_of_or _ _ manifest.compilation ?_,
      @RecordForm.getD_of_or _ _ manifest.platformTasks _ ?_,
      @RecordForm.getD_of_or _ _ manifest.types _ ?_]
    · rfl
    · exact decodes.selected named .types written.types.ofValue rfl
        fun field => by cases field <;> simp [key]
    · exact decodes.selected named .platformTasks written.platformTasks.ofValue rfl
        fun field => by cases field <;> simp [key]
    · exact decodes.selected named .compilation written.compilation.ofValue rfl
        fun field => by cases field <;> simp [key]
  rw [ofReading, Reading.asRecord_of_named named]
  exact congrArg (Except.mapError ReadError.data) fromFields

end Manifest

end EntryPoints
