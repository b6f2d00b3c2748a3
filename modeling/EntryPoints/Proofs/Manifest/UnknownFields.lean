import EntryPoints.Proofs.Manifest.Decoding

/-! A field that does not belong to a manifest, a type or a parameter is refused, however deep it
stands within others.
-/

namespace EntryPoints

open Json

------------------------------------------------------------------------------------------
-- What is refused within a part makes the whole refused

/-- A reader makes nothing of a part. -/
def Refuses {ε α ν : Type} (read : ν → Except ε α) (part : ν) : Prop :=
  ∀ content, read part ≠ .ok content

section
variable {ε α β ν : Type}

/-- If two steps succeed, so does the first, and the second does with what the first one made. -/
theorem exists_of_bind_eq_ok {result : Except ε α} {further : α → Except ε β} {made : β}
    (bound : (result >>= further) = .ok made)
    : ∃ content, result = .ok content ∧ further content = .ok made := by
  cases result with
  | error error => cases bound
  | ok content => exact ⟨content, rfl, bound⟩

/-- Explaining errors makes no success out of one. -/
theorem eq_ok_of_mapError_eq_ok {ε' : Type} {result : Except ε α} {explain : ε → ε'}
    {content : α} (explained : result.mapError explain = .ok content)
    : result = .ok content := by
  cases result with
  | error error => cases explained
  | ok value => exact congrArg Except.ok (Except.ok.inj explained)

/-- What is refused at first is refused, whatever comes next. -/
theorem Refuses.bind {read : ν → Except ε α} {part : ν} (refuses : Refuses read part)
    (further : α → Except ε β)
    : Refuses (fun part => read part >>= further) part := by
  intro made bound
  obtain ⟨content, accepted, _⟩ := exists_of_bind_eq_ok bound
  exact refuses content accepted

/-- What is refused is refused, whatever would be made of it. -/
theorem Refuses.map {read : ν → Except ε α} {part : ν} (refuses : Refuses read part)
    (make : α → β)
    : Refuses (fun part => (read part).map make) part := by
  intro made mapped
  obtain ⟨content, accepted, _⟩ := exists_of_map_eq_ok mapped
  exact refuses content accepted

/-- If a list is read, every part of it is; by induction over the parts. -/
theorem exists_of_mapM_eq_ok {read : ν → Except ε α} {parts : List ν} {contents : List α}
    (mapped : parts.mapM read = .ok contents)
    : ∀ part ∈ parts, ∃ content, read part = .ok content := by
  induction parts generalizing contents with
  | nil => simp
  | cons part rest ih =>
      rw [List.mapM_cons] at mapped
      obtain ⟨content, first, further⟩ := exists_of_bind_eq_ok mapped
      obtain ⟨others, restMapped, _⟩ := exists_of_bind_eq_ok further
      exact List.forall_mem_cons.mpr ⟨⟨content, first⟩, ih restMapped⟩

/-- A list with an item that is refused is refused as a whole, whatever stands in front of the item
and behind it.
-/
theorem Refuses.mapM {read : ν → Except ε α} {part : ν} (refuses : Refuses read part)
    (before after : List ν)
    : Refuses (fun parts : List ν => parts.mapM read) (before ++ part :: after) := by
  intro contents mapped
  obtain ⟨content, accepted⟩ := exists_of_mapM_eq_ok mapped part (by simp)
  exact refuses content accepted

end

section
variable {ν ε φ : Type} {reader : RecordReader ν ε φ} {key : String} {part : ν}

/-- A strict reader refuses fields with a key that it does not know. -/
theorem Json.RecordReader.refuses_unknown (strict : reader.strict = true)
    (unknown : key ∉ reader.names) (before after : List (String × ν))
    : Refuses (reader.named []) (before ++ (key, part) :: after) := by
  intro parsed named
  have known := (RecordReader.of_named_eq_ok named (key, part) (by simp)).1 strict
  exact unknown known

/-- A reader refuses fields if it refuses the content of one that it knows. -/
theorem Json.RecordReader.refuses_field (known : key ∈ reader.names)
    (refuses : Refuses (reader.read key) part) (before after : List (String × ν))
    : Refuses (reader.named []) (before ++ (key, part) :: after) := by
  intro parsed named
  obtain ⟨field, read⟩ := (RecordReader.of_named_eq_ok named (key, part) (by simp)).2 known
  exact refuses field read

end

------------------------------------------------------------------------------------------
-- Values

section
variable {α φ : Type} {reader : RecordReader Value DataError φ} {fields : List (String × Value)}
  {changes : Value → Value → Prop} {value changed : Value}

/-- If the fields of an object are refused, so is the object. -/
theorem Refuses.asRecord (refuses : Refuses (reader.named []) fields)
    : Refuses (Value.asRecord reader) (.object fields) :=
  refuses.map _

/-- An object that gains a field with an unknown key is refused by a strict reader. -/
theorem GainsField.refused {names : List String} (gains : GainsField names value changed)
    (strict : reader.strict = true) (same : reader.names = names)
    : Refuses (Value.asRecord reader) changed := by
  obtain ⟨unknown⟩ := gains
  exact (RecordReader.refuses_unknown strict (same ▸ unknown) _ _).asRecord

/-- An object of which a known field changes to something that is refused is refused. -/
theorem ChangesField.refused {key : String} (change : ChangesField key changes value changed)
    (known : key ∈ reader.names)
    (refuses : ∀ value changed, changes value changed → Refuses (reader.read key) changed)
    : Refuses (Value.asRecord reader) changed := by
  obtain ⟨change⟩ := change
  exact (RecordReader.refuses_field known (refuses _ _ change) _ _).asRecord

/-- A list of which an item changes to something that is refused is refused. -/
theorem ChangesItem.refused {read : Value → Except DataError α}
    (change : ChangesItem changes value changed)
    (refuses : ∀ value changed, changes value changed → Refuses read changed)
    : Refuses (Value.asList read) changed := by
  obtain ⟨change⟩ := change
  exact (refuses _ _ change).mapM _ _

/-- The fields beside a tag are changed as the whole object is, and the tag stays as it is.
The changed field has another key than the tag, so taking out the tag leaves the change in place.
-/
theorem ChangesField.withoutTag {key tag : String}
    (change : ChangesField key changes (.object fields) changed) (other : key ≠ tag)
    : ∃ changedFields,
        changed = .object changedFields
        ∧ entries changedFields tag = entries fields tag
        ∧ ChangesField key changes (.object (fields.filter (fun field => field.1 ≠ tag)))
            (.object (changedFields.filter (fun field => field.1 ≠ tag))) := by
  cases change with
  | field change =>
      refine ⟨_, rfl, ?_, ?_⟩
      · simp [entries_append, entries_cons, other]
      · simpa [List.filter_append, List.filter_cons, other] using ChangesField.field change

end

------------------------------------------------------------------------------------------
-- Readings

/-- Fields are read from the text one after another; by induction over the first ones. -/
theorem Json.Reading.ofFields_append (first second : List (String × Value))
    : Reading.ofFields (first ++ second)
      = Reading.ofFields first ++ Reading.ofFields second := by
  induction first with
  | nil => rfl
  | cons field rest ih =>
      obtain ⟨key, value⟩ := field
      rw [List.cons_append, Reading.ofFields, Reading.ofFields, ih, List.cons_append]

section
variable {α φ : Type} {reader : RecordReader Reading ReadError φ}
  {changes : Value → Value → Prop} {value changed : Value}

/-- If the fields of an object are refused, so is the object as it stands in the text. -/
theorem Refuses.asReadingRecord {fields : List (String × Value)}
    (refuses : Refuses (reader.named []) (Reading.ofFields fields))
    : Refuses (Reading.asRecord reader) (.ofValue (.object fields)) := by
  intro content accepted
  simp only [Reading.ofValue, Reading.asRecord] at accepted
  split at accepted
  · cases accepted
  · next parsed named => exact refuses parsed named

/-- An object in the text that gains a field with an unknown key is refused by a strict reader. -/
theorem GainsField.reading_refused {names : List String} (gains : GainsField names value changed)
    (strict : reader.strict = true) (same : reader.names = names)
    : Refuses (Reading.asRecord reader) (.ofValue changed) := by
  obtain ⟨unknown⟩ := gains
  refine Refuses.asReadingRecord ?_
  rw [Reading.ofFields_append, Reading.ofFields]
  exact RecordReader.refuses_unknown strict (same ▸ unknown) _ _

/-- An object in the text of which a known field changes to something that is refused is refused. -/
theorem ChangesField.reading_refused {key : String}
    (change : ChangesField key changes value changed) (known : key ∈ reader.names)
    (refuses
      : ∀ value changed, changes value changed → Refuses (reader.read key) (.ofValue changed))
    : Refuses (Reading.asRecord reader) (.ofValue changed) := by
  obtain ⟨change⟩ := change
  refine Refuses.asReadingRecord ?_
  rw [Reading.ofFields_append, Reading.ofFields]
  exact RecordReader.refuses_field known (refuses _ _ change) _ _

/-- A list in the text of which an item changes to something that is refused is refused. -/
theorem ChangesItem.reading_refused {read : Reading → Except ReadError α}
    (change : ChangesItem changes value changed)
    (refuses : ∀ value changed, changes value changed → Refuses read (.ofValue changed))
    : Refuses (Reading.asList read) (.ofValue changed) := by
  obtain ⟨change⟩ := change
  intro contents accepted
  simp only [Reading.ofValue, Reading.asList, Reading.ofValues_eq_map, List.map_append,
    List.map_cons] at accepted
  split at accepted
  · cases accepted
  · next mapped => exact (refuses _ _ change).mapM _ _ _ mapped

end

------------------------------------------------------------------------------------------
-- Declarations

/-- A parameter that gains an unknown field is refused, as its reader is strict. -/
theorem GainsField.parameter_refused {value gained : Value}
    (gains : GainsField ["name", "type"] value gained)
    : Refuses ParameterDecl.ofValue gained :=
  (@GainsField.refused _ ParameterField.reader _ _ _ gains rfl rfl).bind _

/-- A method with a parameter that gains an unknown field is refused, though the method itself may
have unknown fields.
-/
theorem GainsParameterField.method_refused {value gained : Value}
    (gains : GainsParameterField value gained)
    : Refuses MethodDecl.ofValue gained := by
  have refused : Refuses (Value.asRecord MethodField.reader) gained :=
    gains.refused (by decide) fun _ _ item =>
      (item.refused fun _ _ => GainsField.parameter_refused).map MethodField.parameters
  exact refused.bind _

/-- A method is refused as a member if one of its parameters gains an unknown field.
The tag stays as it is, so the other fields are still read as those of a method, which is refused.
-/
theorem ChangesMethod.member_refused {value gained : Value}
    (gains : ChangesMethod GainsParameterField value gained)
    : Refuses MemberDecl.ofReading (.ofValue gained) := by
  obtain ⟨tag, change⟩ := gains
  obtain ⟨gainedFields, rfl, tagKept, others⟩ := change.withoutTag (by decide : _ ≠ "member")
  rw [tag] at tagKept
  intro member accepted
  rw [MemberDecl.ofReading, asTagged_ofValue tagKept
    (rfl : MemberTag.variants.lookup "method" = some .method)] at accepted
  have mapped := eq_ok_of_mapError_eq_ok accepted
  exact (GainsParameterField.method_refused others).map MemberDecl.method _ mapped

/-- A type that gains an unknown field is refused, as its reader is strict. -/
theorem GainsField.type_refused {value gained : Value}
    (gains : GainsField ["name", "kind", "base", "bogus", "members"] value gained)
    : Refuses TypeDecl.ofReading (.ofValue gained) :=
  (@GainsField.reading_refused _ TypeField.reader _ _ _ gains rfl rfl).bind _

/-- A type is refused if a parameter of one of its methods gains an unknown field. -/
theorem ChangesField.type_refused {value gained : Value}
    (change
      : ChangesField "members" (ChangesItem (ChangesMethod GainsParameterField)) value gained)
    : Refuses TypeDecl.ofReading (.ofValue gained) := by
  have refused : Refuses (Reading.asRecord TypeField.reader) (.ofValue gained) :=
    change.reading_refused (by decide) fun _ _ item =>
      (item.reading_refused fun _ _ => ChangesMethod.member_refused).map TypeField.members
  exact refused.bind _

/-- A manifest is refused if one of its types changes to something that is refused. -/
theorem ChangesField.manifest_refused {changes : Value → Value → Prop} {value gained : Value}
    (change : ChangesField "types" (ChangesItem changes) value gained)
    (refuses
      : ∀ value gained, changes value gained → Refuses TypeDecl.ofReading (.ofValue gained))
    : Refuses Manifest.ofReading (.ofValue gained) := by
  have refused : Refuses (Reading.asRecord ManifestField.reader) (.ofValue gained) :=
    change.reading_refused (by decide) fun _ _ item =>
      (item.reading_refused refuses).map ManifestField.types
  exact refused.bind _

/-- A manifest is refused if it gains an unknown field itself, or one of its types or parameters
does; by cases on the object that gains the field.
-/
theorem GainsUnknownField.refused {value gained : Value} (gains : GainsUnknownField value gained)
    : Refuses Manifest.ofReading (.ofValue gained) := by
  cases gains with
  | manifest gains =>
      exact (@GainsField.reading_refused _ ManifestField.reader _ _ _ gains rfl rfl).bind _
  | type gains => exact gains.manifest_refused fun _ _ => GainsField.type_refused
  | parameter gains => exact gains.manifest_refused fun _ _ => ChangesField.type_refused

------------------------------------------------------------------------------------------
-- A program that makes use of what its text may look like

/-- A main with one parameter. Its tag comes last, after a note that is passed over, so a reader has
kept all of its fields by then.
-/
def mainFields (parameter : List (String × Value)) : List (String × Value) :=
  [("location",
      .array [.scalar (.number (.natural 0)),
        .scalar (.number (.natural 18446744073709551615))]),
    ("static", .scalar (.bool true)), ("note", .array []),
    ("parameters", .array [.object parameter]), ("name", .scalar (.string "Main")),
    ("async", .scalar (.bool true)), ("member", .scalar (.string "method"))]

/-- A program of one type with one member. -/
def programFields (member : List (String × Value)) : List (String × Value) :=
  [("types",
      .array [.object
        [("members", .array [.object member]), ("name", .scalar (.string "Program"))]]),
    ("platform_tasks", .scalar (.bool true)),
    ("compilation", .object [("kind", .scalar (.string "regular"))])]

/-- The text of the main, with that of its parameter in it and an escaped letter in its name. -/
def mainText (parameter : String) : String :=
  "\x7b\"location\": [0, 18446744073709551615], \"static\": true, \"note\": [], "
    ++ "\"parameters\": [" ++ parameter
    ++ "], \"name\": \"Ma\\u0069n\", \"async\": true, \"member\": \"method\"\x7d"

/-- The text of the program, with that of its member in it. -/
def programText (member : String) : String :=
  "\x7b\"types\": [\x7b\"members\": [" ++ member
    ++ "], \"name\": \"Program\"\x7d], \"platform_tasks\": true, "
    ++ "\"compilation\": \x7b\"kind\": \"regular\"\x7d\x7d"

/-- The main that the text stands for. -/
def mainDecl (parameter : ParameterDecl) : MethodDecl :=
  {
    name := some "Main", parameters := [parameter], isStatic := true, isAsync := true,
    location := some (0, 18446744073709551615)
  }

/-- The program that the text stands for. -/
def programDecl (member : MemberDecl) : Manifest :=
  {
    platformTasks := true, types := [{ name := "Program", members := [member] }],
    compilation := .regular none
  }

/-- The fields of the main, some of them left out, write the main with the parameter that its fields
write.
-/
theorem mainFields_written {parameter : ParameterDecl} {fields : List (String × Value)}
    (written : parameter.WrittenAs fields)
    : (MemberDecl.method (mainDecl parameter)).WrittenAs (mainFields fields) :=
  .method rfl {
    name := .once (.present rfl)
    kind := .omitted rfl
    returns := .omitted rfl
    parameters := .once (.items (.cons (.fields written) .nil))
    isStatic := .once rfl
    isAsync := .once rfl
    isVirtual := .omitted rfl
    accessibility := .omitted rfl
    location := .once (.present (.span 0 18446744073709551615))
  }

/-- The fields of the program, in another order than they are declared, write the program with the
member that its fields write.
-/
theorem programFields_written {member : MemberDecl} {fields : List (String × Value)}
    (written : member.WrittenAs fields)
    : (programDecl member).WrittenAs (programFields fields) where
  platformTasks := .once rfl
  types :=
    have type
        : TypeDecl.WrittenAs { name := "Program", members := [member] }
            [("members", .array [.object fields]), ("name", .scalar (.string "Program"))] :=
      {
        name := .once rfl
        kind := .omitted rfl
        base := .omitted rfl
        bogus := .omitted rfl
        members := .once (.items (.cons (.fields written) .nil))
        known := by simp
      }
    .once (.items (.cons (.fields type) .nil))
  compilation := .once (.fields (.regular rfl (.omitted rfl)))
  known := by simp [programFields]

/-- The last byte that a location can name is spelled with its twenty digits. -/
theorem lastByte_spelled
    : SpellsToken (.scalar (.number (.natural 18446744073709551615)))
        "18446744073709551615".toList := by
  have spelled :=
    @SpellsToken.natural 1 [8, 4, 4, 6, 7, 4, 4, 0, 7, 3, 7, 0, 9, 5, 5, 1, 6, 1, 5]
      (by decide) (by decide) (by decide)
  simpa [decimal, Scanner.ofDigits, Nat.digitChar] using spelled

/-- The name of the main, whose third letter is escaped. -/
theorem mainName_spelled
    : SpellsToken (.scalar (.string "Main")) "\"Ma\\u0069n\"".toList := by
  have letter : SpellsCode 'i'.toNat ['0', '0', '6', '9'] :=
    @SpellsCode.digits 0 0 6 9 _ _ _ _ ⟨by decide, .inl rfl⟩ ⟨by decide, .inl rfl⟩
      ⟨by decide, .inl rfl⟩ ⟨by decide, .inl rfl⟩
  have spelled : SpellsString "Main".toList _ :=
    .plain (by decide) (by decide) (by decide) <| .plain (by decide) (by decide) (by decide) <|
    .code letter <| .plain (by decide) (by decide) (by decide) .nil
  exact .string spelled

/-- The text of the main spells its fields, if the text of the parameter spells those of the
parameter.
The text is taken apart in front of the parameter and behind it, token by token.
-/
theorem mainText_spelled {parameter : List (String × Value)} {text : String}
    (spelled : Spells (Value.object parameter).tokens text.toList)
    : Spells (Value.object (mainFields parameter)).tokens (mainText text).toList := by
  have before : Spells _ _ :=
    .compact .openBrace <| .compact (.plain "location" (by simp)) <| .compact .colon <|
    .spaced .openBracket <|
    .compact (@SpellsToken.natural 0 [] (by decide) (by decide) (by decide)) <|
    .compact .comma <| .spaced lastByte_spelled <| .compact .closeBracket <| .compact .comma <|
    .spaced (.plain "static" (by simp)) <| .compact .colon <| .spaced .trueWord <|
    .compact .comma <| .spaced (.plain "note" (by simp)) <| .compact .colon <|
    .spaced .openBracket <| .compact .closeBracket <| .compact .comma <|
    .spaced (.plain "parameters" (by simp)) <| .compact .colon <| .spaced .openBracket <|
    .nil (List.nil_subset _)
  have after : Spells _ _ :=
    .compact .closeBracket <| .compact .comma <| .spaced (.plain "name" (by simp)) <|
    .compact .colon <| .spaced mainName_spelled <| .compact .comma <|
    .spaced (.plain "async" (by simp)) <| .compact .colon <| .spaced .trueWord <|
    .compact .comma <| .spaced (.plain "member" (by simp)) <| .compact .colon <|
    .spaced (.plain "method" (by simp)) <| .compact .closeBrace <| .nil (List.nil_subset _)
  have whole := before.append (spelled.append after)
  -- The pieces of the text are reduced one by one, as a long literal is slow to take apart.
  unfold mainText
  simp only [String.toList_append]
  simpa [mainFields, Value.tokens, Value.itemTokens, Value.fieldTokens, decimal,
    Scanner.ofDigits, Nat.digitChar] using whole

/-- The text of the program spells its fields, if the text of the member spells those of the member.
-/
theorem programText_spelled {member : List (String × Value)} {text : String}
    (spelled : Spells (Value.object member).tokens text.toList)
    : Spells (Value.object (programFields member)).tokens (programText text).toList := by
  have before : Spells _ _ :=
    .compact .openBrace <| .compact (.plain "types" (by simp)) <| .compact .colon <|
    .spaced .openBracket <| .compact .openBrace <| .compact (.plain "members" (by simp)) <|
    .compact .colon <| .spaced .openBracket <| .nil (List.nil_subset _)
  have after : Spells _ _ :=
    .compact .closeBracket <| .compact .comma <| .spaced (.plain "name" (by simp)) <|
    .compact .colon <| .spaced (.plain "Program" (by simp)) <| .compact .closeBrace <|
    .compact .closeBracket <| .compact .comma <| .spaced (.plain "platform_tasks" (by simp)) <|
    .compact .colon <| .spaced .trueWord <| .compact .comma <|
    .spaced (.plain "compilation" (by simp)) <| .compact .colon <| .spaced .openBrace <|
    .compact (.plain "kind" (by simp)) <| .compact .colon <|
    .spaced (.plain "regular" (by simp)) <| .compact .closeBrace <| .compact .closeBrace <|
    .nil (List.nil_subset _)
  have whole := before.append (spelled.append after)
  unfold programText
  simp only [String.toList_append]
  simpa [programFields, Value.tokens, Value.itemTokens, Value.fieldTokens] using whole

/-- If the only parameter of the main gains an unknown field, so does the program as a whole. -/
theorem programFields_gains {fields gained : List (String × Value)}
    (gains : GainsField ["name", "type"] (.object fields) (.object gained))
    : GainsUnknownField (.object (programFields (mainFields fields)))
        (.object (programFields (mainFields gained))) := by
  have parameter
      : GainsParameterField (.object (mainFields fields)) (.object (mainFields gained)) :=
    @ChangesField.field _ _ ((mainFields fields).take 3) _ _ _ <|
      @ChangesItem.item _ [] _ _ _ gains
  exact .parameter <| @ChangesField.field _ _ [] _ _ _ <| @ChangesItem.item _ [] _ _ _ <|
    @ChangesField.field _ _ [] _ _ _ <| @ChangesItem.item _ [] _ _ _ <| .method rfl parameter

------------------------------------------------------------------------------------------
-- Texts

/-- A text that holds a manifest is read as the manifest, in whichever way it is written. If the
manifest, a type or a parameter gains a field that does not belong there, the text is refused.
-/
theorem Manifest.ofText_of_written {manifest : Manifest} {fields : List (String × Value)}
    {text : String} (written : manifest.WrittenAs fields)
    (spelled : (Value.object fields).WrittenIn text)
    : ofText text = .ok manifest
      ∧ ∀ gained gainedText,
          GainsUnknownField (.object fields) gained
          → gained.WrittenIn gainedText
          → ∃ error, ofText gainedText = .error error := by
  refine ⟨?_, fun gained gainedText gains gainedSpelled => ?_⟩
  · rw [ofText, spelled.read_eq]
    simp [ofReading_eq written, bind, Except.bind, pure, Except.pure]
  · rw [ofText, gainedSpelled.read_eq]
    cases decoded : ofReading (.ofValue gained) with
    | error error => exact ⟨error, by simp [decoded, bind, Except.bind]⟩
    | ok manifest => exact absurd decoded (gains.refused manifest)

/-- The note of the main is passed over, and that of its parameter refused.
Witness: a program that is written in an order of its own, with a tag behind the fields of its
member, an escaped letter and a location of full width.
-/
theorem program_decoded_note_refused
    : Manifest.ofText (programText (mainText "\x7b\"type\": \"int\"\x7d"))
        = .ok (programDecl (.method (mainDecl { type := "int" })))
      ∧ ∃ error,
          Manifest.ofText (programText (mainText "\x7b\"note\": null,\"type\": \"int\"\x7d"))
            = .error error := by
  let fields : List (String × Value) := [("type", .scalar (.string "int"))]
  let gained : List (String × Value) := ("note", .scalar .null) :: fields
  have written : ParameterDecl.WrittenAs { type := "int" } fields :=
    { name := .omitted rfl, type := .once rfl, known := by decide }
  have gains : GainsField ["name", "type"] (.object fields) (.object gained) :=
    @GainsField.gains _ [] fields _ _ (by decide)
  have rest : Spells (Value.object fields).tokens.tail _ :=
    .compact (.plain "type" (by simp)) <| .compact .colon <|
    .spaced (.plain "int" (by simp)) <| .compact .closeBrace <| .nil (List.nil_subset _)
  have spelled
      : Spells (Value.object fields).tokens "\x7b\"type\": \"int\"\x7d".toList := by
    have spelled : Spells (Value.object fields).tokens _ := .compact .openBrace rest
    simpa using spelled
  have gainedSpelled
      : Spells (Value.object gained).tokens
          "\x7b\"note\": null,\"type\": \"int\"\x7d".toList := by
    have spelled : Spells (Value.object gained).tokens _ :=
      .compact .openBrace <| .compact (.plain "note" (by simp)) <| .compact .colon <|
      .spaced .nullWord <| .compact .comma rest
    simpa using spelled
  obtain ⟨decoded, refused⟩ :=
    Manifest.ofText_of_written (programFields_written (mainFields_written written))
      ⟨programText_spelled (mainText_spelled spelled), by decide⟩
  exact ⟨decoded, refused _ _ (programFields_gains gains)
    ⟨programText_spelled (mainText_spelled gainedSpelled), by decide⟩⟩

end EntryPoints
