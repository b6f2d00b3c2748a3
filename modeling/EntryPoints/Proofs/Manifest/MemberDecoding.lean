import EntryPoints.Manifest.Reader
import EntryPoints.Proofs.Manifest.Presentation
import EntryPoints.Proofs.Related

/-! Members are read as they are written: with their fields in any order, with defaults written or
left out, and with any other fields beside theirs.
-/

namespace EntryPoints

open Json

------------------------------------------------------------------------------------------
-- Parts

/-- If every part of a list is read as its content, then the list is read as the list of contents;
by induction over the parts.
-/
theorem mapM_of_forall₂ {ε α ν : Type} {read : ν → Except ε α} {contents : List α}
    {parts : List ν}
    (reads : List.Forall₂ (fun content part => read part = .ok content) contents parts)
    : parts.mapM read = .ok contents := by
  induction reads with
  | nil => rfl
  | cons first _ ih =>
      rw [List.mapM_cons, first, ih]
      rfl

section
variable {α : Type} {writes : α → Value → Prop}

/-- What a string is written as is read as the string. -/
theorem WritesString.asString {content : String} {value : Value}
    (writes : WritesString content value)
    : value.asString = .ok content := by
  rw [writes]
  rfl

/-- What a flag is written as is read as the flag. -/
theorem WritesBool.asBool {content : Bool} {value : Value} (writes : WritesBool content value)
    : value.asBool = .ok content := by
  rw [writes]
  rfl

/-- An optional part is read as it is written, if what is there is, and the reader takes no null.
The latter keeps what is there from being left out. By cases on whether the part is there.
-/
theorem WritesOptional.asOptional {content : Option α} {value : Value}
    (written : WritesOptional writes content value) {read : Value → Except DataError α}
    (reads : ∀ content value, writes content value → read value = .ok content)
    (refuses : ∀ content, read (.scalar .null) ≠ .ok content)
    : value.asOptional read = .ok content := by
  cases written with
  | absent => rfl
  | @present content value written =>
      have read := reads content value written
      unfold Value.asOptional
      split
      · exact absurd read (refuses content)
      · rw [read]
        rfl

/-- An optional string is read as it is written, since null is no string. -/
theorem WritesOptional.asOptionalString {content : Option String} {value : Value}
    (written : WritesOptional WritesString content value)
    : value.asOptional Value.asString = .ok content :=
  written.asOptional (fun _ _ writes => writes.asString) (by simp [Value.asString])

/-- A list is read as it is written, if each of its items is. -/
theorem WritesList.asList {contents : List α} {value : Value}
    (written : WritesList writes contents value) {read : Value → Except DataError α}
    (reads : ∀ content value, writes content value → read value = .ok content)
    : value.asList read = .ok contents := by
  cases written with
  | items written => exact mapM_of_forall₂ (written.imp reads)

/-- A name that is written as a string is read as the variant of that name. -/
theorem WritesString.asVariant {name : String} {value : Value}
    (written : WritesString name value) {variants : List (String × α)} {content : α}
    (found : variants.lookup name = some content) (isNothing : Value → Bool)
    : value.asVariant isNothing variants = .ok content := by
  rw [written]
  simp [Value.asVariant, variantNamed, found]

/-- A location is read as it is written, as the pair of its numbers. -/
theorem WritesLocation.asPair {location : Nat × Nat} {value : Value}
    (written : WritesLocation location value)
    : value.asPair Value.asNatural = .ok location := by
  cases written
  rfl

end

/-- Every kind of method is found under its keyword. -/
theorem lookup_methodKind (kind : MethodKind)
    : MethodKind.variants.lookup kind.keyword = some kind := by
  cases kind <;> decide

/-- Every accessibility is found under its keyword. -/
theorem lookup_accessibility (accessibility : Accessibility)
    : Accessibility.variants.lookup accessibility.keyword = some accessibility := by
  cases accessibility <;> decide

/-- Every kind of type is found under its keyword. -/
theorem lookup_namedKind (kind : NamedKind)
    : NamedKind.variants.lookup kind.keyword = some kind := by
  cases kind <;> decide

------------------------------------------------------------------------------------------
-- Parameters

namespace ParameterField

/-- The name that a field is read under. -/
def key : ParameterField → String
  | .name _ => "name"
  | .type _ => "type"

/-- What writes a field under its name. -/
def Writes : ParameterField → Value → Prop
  | .name content => WritesOptional WritesString content
  | .type content => WritesString content

/-- The fields of a parameter are read as they are written, by cases on the field: the part is read
as its content, and the content becomes the field.
-/
theorem decodes : reader.Decodes key Writes where
  isName field := by cases field <;> simp [reader, key]
  reads field _ writes := by
    cases field with
    | name => exact congrArg (Except.map ParameterField.name) writes.asOptionalString
    | type => exact congrArg (Except.map ParameterField.type) writes.asString
  keeps := by
    refine RecordReader.keeps_of_maps fun name known part => ?_
    simp only [reader, List.mem_cons, List.not_mem_nil, or_false] at known
    rcases known with rfl | rfl <;> exact ⟨_, _, _, rfl, fun _ => rfl⟩

end ParameterField

/-- A parameter is read as it is written: its fields are read, in whichever order they are, and its
name and its type are selected of them.
-/
theorem ParameterDecl.ofValue_eq {parameter : ParameterDecl} {value : Value}
    (writes : WritesObject ParameterDecl.WrittenAs parameter value)
    : ParameterDecl.ofValue value = .ok parameter := by
  open ParameterField in
  cases writes with
  | @fields fields written =>
      obtain ⟨parsed, named⟩ : ∃ parsed, ParameterField.reader.named [] fields = .ok parsed := by
        refine RecordReader.exists_named (fun _ => written.known) (by simp) ?_
        simp only [reader, List.forall_mem_cons]
        exact ⟨decodes.reads_written .name written.name, decodes.reads_written .type written.type,
          by simp⟩
      have fromFields : ParameterDecl.ofFields .named parsed = .ok parameter := by
        unfold ParameterDecl.ofFields
        rw [@RecordForm.optional_of_or _ _ parameter.name ?_,
          @RecordForm.require_of_or _ _ parameter.type ?_]
        · rfl
        · exact decodes.selected named .type written.type rfl
            fun field => by cases field <;> simp [key]
        · exact decodes.selected named .name written.name rfl
            fun field => by cases field <;> simp [key]
      rw [ParameterDecl.ofValue, Value.asRecord_of_named named]
      exact fromFields

------------------------------------------------------------------------------------------
-- Members

namespace MethodField

/-- The name that a field of a method goes by. -/
def key : MethodField → String
  | .name _ => "name"
  | .kind _ => "kind"
  | .returns _ => "returns"
  | .parameters _ => "parameters"
  | .isStatic _ => "static"
  | .isAsync _ => "async"
  | .isVirtual _ => "virtual"
  | .accessibility _ => "accessibility"
  | .location _ => "location"

/-- What writes a field of a method under its name. -/
def Writes : MethodField → Value → Prop
  | .name content => WritesOptional WritesString content
  | .kind content => WritesString content.keyword
  | .returns content => WritesOptional WritesString content
  | .parameters contents => WritesList (WritesObject ParameterDecl.WrittenAs) contents
  | .isStatic content => WritesBool content
  | .isAsync content => WritesBool content
  | .isVirtual content => WritesBool content
  | .accessibility content =>
      WritesOptional (fun accessibility => WritesString accessibility.keyword) content
  | .location content => WritesOptional WritesLocation content

/-- The fields of a method are read as they are written, by cases on the field: the part is read as
its content, and the content becomes the field.
-/
theorem decodes : reader.Decodes key Writes where
  isName field := by cases field <;> simp [reader, key]
  reads field part writes := by
    cases field with
    | name => exact congrArg (Except.map MethodField.name) writes.asOptionalString
    | kind content =>
        exact congrArg (Except.map MethodField.kind)
          (WritesString.asVariant writes (lookup_methodKind content) _)
    | returns => exact congrArg (Except.map MethodField.returns) writes.asOptionalString
    | parameters =>
        exact congrArg (Except.map MethodField.parameters)
          (writes.asList fun _ _ => ParameterDecl.ofValue_eq)
    | isStatic => exact congrArg (Except.map MethodField.isStatic) writes.asBool
    | isAsync => exact congrArg (Except.map MethodField.isAsync) writes.asBool
    | isVirtual => exact congrArg (Except.map MethodField.isVirtual) writes.asBool
    | accessibility =>
        have read : part.asOptional (Value.asVariant Value.isUnit Accessibility.variants) = .ok _ :=
          writes.asOptional
            (fun content _ writes => WritesString.asVariant writes (lookup_accessibility content) _)
            (by simp [Value.asVariant])
        exact congrArg (Except.map MethodField.accessibility) read
    | location =>
        have read : part.asOptional (Value.asPair Value.asNatural) = .ok _ :=
          writes.asOptional (fun _ _ writes => writes.asPair) (by simp [Value.asPair])
        exact congrArg (Except.map MethodField.location) read
  keeps := by
    refine RecordReader.keeps_of_maps fun name known part => ?_
    simp only [reader, List.mem_cons, List.not_mem_nil, or_false] at known
    rcases known with rfl | rfl | rfl | rfl | rfl | rfl | rfl | rfl | rfl <;>
      exact ⟨_, _, _, rfl, fun _ => rfl⟩

end MethodField

/-- A method is read as it is written. Each of its fields can be read, in whichever order they are,
and the method is put together of what is selected under each name, or of the default.
-/
theorem MethodDecl.ofValue_eq {method : MethodDecl} {fields : List (String × Value)}
    (written : method.WrittenAs fields)
    : MethodDecl.ofValue (.object fields) = .ok method := by
  open MethodField in
  obtain ⟨parsed, named⟩ : ∃ parsed, MethodField.reader.named [] fields = .ok parsed := by
    refine RecordReader.exists_named (fun strict => nomatch strict) (by simp) ?_
    simp only [reader, List.forall_mem_cons]
    exact ⟨decodes.reads_written .name written.name, decodes.reads_written .kind written.kind,
      decodes.reads_written .returns written.returns,
      decodes.reads_written .parameters written.parameters,
      decodes.reads_written .isStatic written.isStatic,
      decodes.reads_written .isAsync written.isAsync,
      decodes.reads_written .isVirtual written.isVirtual,
      decodes.reads_written .accessibility written.accessibility,
      decodes.reads_written .location written.location, by simp⟩
  have fromFields : MethodDecl.ofFields .named parsed = .ok method := by
    unfold MethodDecl.ofFields
    rw [@RecordForm.optional_of_or _ _ method.name ?_,
      @RecordForm.optional_of_or _ _ method.returns ?_,
      @RecordForm.optional_of_or _ _ method.accessibility ?_,
      @RecordForm.optional_of_or _ _ method.location ?_,
      @RecordForm.getD_of_or _ _ method.kind _ ?_,
      @RecordForm.getD_of_or _ _ method.parameters _ ?_,
      @RecordForm.getD_of_or _ _ method.isStatic _ ?_,
      @RecordForm.getD_of_or _ _ method.isAsync _ ?_,
      @RecordForm.getD_of_or _ _ method.isVirtual _ ?_]
    · rfl
    · exact decodes.selected named .isVirtual written.isVirtual rfl
        fun field => by cases field <;> simp [key]
    · exact decodes.selected named .isAsync written.isAsync rfl
        fun field => by cases field <;> simp [key]
    · exact decodes.selected named .isStatic written.isStatic rfl
        fun field => by cases field <;> simp [key]
    · exact decodes.selected named .parameters written.parameters rfl
        fun field => by cases field <;> simp [key]
    · exact decodes.selected named .kind written.kind rfl
        fun field => by cases field <;> simp [key]
    · exact decodes.selected named .location written.location rfl
        fun field => by cases field <;> simp [key]
    · exact decodes.selected named .accessibility written.accessibility rfl
        fun field => by cases field <;> simp [key]
    · exact decodes.selected named .returns written.returns rfl
        fun field => by cases field <;> simp [key]
    · exact decodes.selected named .name written.name rfl
        fun field => by cases field <;> simp [key]
  rw [MethodDecl.ofValue, Value.asRecord_of_named named]
  exact fromFields

namespace FieldField

/-- The name that a part of a field goes by. -/
def key : FieldField → String
  | .name _ => "name"
  | .type _ => "type"

/-- What writes a field under its name. -/
def Writes : FieldField → Value → Prop
  | .name content => WritesString content
  | .type content => WritesString content

/-- The two fields are read as they are written, each as a string that becomes the field. -/
theorem decodes : reader.Decodes key Writes where
  isName field := by cases field <;> simp [reader, key]
  reads field _ writes := by
    cases field with
    | name => exact congrArg (Except.map FieldField.name) writes.asString
    | type => exact congrArg (Except.map FieldField.type) writes.asString
  keeps := by
    refine RecordReader.keeps_of_maps fun name known part => ?_
    simp only [reader, List.mem_cons, List.not_mem_nil, or_false] at known
    rcases known with rfl | rfl <;> exact ⟨_, _, _, rfl, fun _ => rfl⟩

end FieldField

/-- A field is read as it is written. Both of its parts can be read, in whichever order they are,
and its name and its type are selected of what is read.
-/
theorem FieldDecl.ofValue_eq {field : FieldDecl} {fields : List (String × Value)}
    (written : field.WrittenAs fields)
    : FieldDecl.ofValue (.object fields) = .ok field := by
  open FieldField in
  obtain ⟨parsed, named⟩ : ∃ parsed, FieldField.reader.named [] fields = .ok parsed := by
    refine RecordReader.exists_named (fun strict => nomatch strict) (by simp) ?_
    simp only [reader, List.forall_mem_cons]
    exact ⟨decodes.reads_written .name written.name, decodes.reads_written .type written.type,
      by simp⟩
  have fromFields : FieldDecl.ofFields .named parsed = .ok field := by
    unfold FieldDecl.ofFields
    rw [@RecordForm.require_of_or _ _ field.name ?_, @RecordForm.require_of_or _ _ field.type ?_]
    · rfl
    · exact decodes.selected named .type written.type rfl
        fun field => by cases field <;> simp [key]
    · exact decodes.selected named .name written.name rfl
        fun field => by cases field <;> simp [key]
  rw [FieldDecl.ofValue, Value.asRecord_of_named named]
  exact fromFields

/-- The tag makes no difference to the other fields of a method: each of them has the same entries
without it, since none has the key of the tag.
-/
theorem MethodDecl.WrittenAs.withoutTag {method : MethodDecl} {fields : List (String × Value)}
    (written : method.WrittenAs fields)
    : method.WrittenAs (fields.filter (fun field => field.1 ≠ "member")) := by
  have same {key : String} (other : key ≠ "member")
      : entries (fields.filter (fun field => field.1 ≠ "member")) key = entries fields key :=
    entries_filter_ne fields other
  constructor <;> rw [same (by decide)]
  · exact written.name
  · exact written.kind
  · exact written.returns
  · exact written.parameters
  · exact written.isStatic
  · exact written.isAsync
  · exact written.isVirtual
  · exact written.accessibility
  · exact written.location

/-- The tag makes no difference to the other parts of a field either. -/
theorem FieldDecl.WrittenAs.withoutTag {field : FieldDecl} {fields : List (String × Value)}
    (written : field.WrittenAs fields)
    : field.WrittenAs (fields.filter (fun field => field.1 ≠ "member")) := by
  have same {key : String} (other : key ≠ "member")
      : entries (fields.filter (fun field => field.1 ≠ "member")) key = entries fields key :=
    entries_filter_ne fields other
  constructor <;> rw [same (by decide)]
  · exact written.name
  · exact written.type

/-- A member is read as it is written, by cases on its tag.
The tag is found wherever it is, and the fields beside it are read as a method or as a field.
-/
theorem MemberDecl.ofReading_eq {member : MemberDecl} {reading : Reading}
    (writes : ReadingOf (WritesObject MemberDecl.WrittenAs) member reading)
    : MemberDecl.ofReading reading = .ok member := by
  obtain ⟨⟨written⟩⟩ := writes
  cases written with
  | method tag written =>
      rw [MemberDecl.ofReading, asTagged_ofValue tag
        (rfl : MemberTag.variants.lookup "method" = some .method)]
      exact congrArg (fun result => (result.map MemberDecl.method).mapError ReadError.data)
        (MethodDecl.ofValue_eq written.withoutTag)
  | field tag written =>
      rw [MemberDecl.ofReading, asTagged_ofValue tag
        (rfl : MemberTag.variants.lookup "field" = some .field)]
      exact congrArg (fun result => (result.map MemberDecl.field).mapError ReadError.data)
        (FieldDecl.ofValue_eq written.withoutTag)

end EntryPoints
