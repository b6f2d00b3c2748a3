import EntryPoints.Proofs.Manifest.Identity
import EntryPoints.Proofs.Related
import EntryPoints.Proofs.Text.Trimming

/-! The grammar of type spellings, apart from the order in which a reader looks for its forms. Where
declared names cannot be taken for anything else, the reader accepts exactly this grammar.
-/

namespace EntryPoints

/-- A declared name that cannot be taken for another spelling: blanks around it, a keyword, an array
or a generic task.
-/
structure PlainName (name : String) : Prop where
  trimmed : Text.trim name.toList = name.toList
  noKeyword : ∀ special : SpecialType, name ≠ special.keyword
  noArray : ¬ "[]".toList <:+ name.toList
  noTask : ¬ ("Task<".toList <+: name.toList ∧ ">".toList <:+ name.toList)

namespace TypeExpression

/-- The spelling of an expression without any optional blanks. The error type and the awaiters of
generic tasks have none.
-/
def compact : TypeExpression → List Char
  | .special named => named.keyword.toList
  | .declared name => name.toList
  | .task => "Task".toList
  | .taskAwaiter => "TaskAwaiter".toList
  | .array element => element.compact ++ "[]".toList
  | .taskOf result => "Task<".toList ++ result.compact ++ ">".toList
  | .error | .taskAwaiterOf _ => []

/-- The spellings of an expression. Blanks may stand around each of its parts. -/
inductive Spelled (known : KnownNames) : TypeExpression → List Char → Prop where
  | special (special : SpecialType) : Spelled known (.special special) special.keyword.toList
  | declared {name : String} (declared : known.declared name)
    : Spelled known (.declared name) name.toList
  | task (platformTasks : known.platformTasks) (undeclared : known.declared "Task" = false)
    : Spelled known .task "Task".toList
  | taskAwaiter (platformTasks : known.platformTasks)
      (undeclared : known.declared "TaskAwaiter" = false)
    : Spelled known .taskAwaiter "TaskAwaiter".toList
  | array {element : TypeExpression} {text : List Char} (inner : Spelled known element text)
    : Spelled known (.array element) (text ++ "[]".toList)
  | taskOf {result : TypeExpression} {text : List Char} (platformTasks : known.platformTasks)
      (inner : Spelled known result text)
    : Spelled known (.taskOf result) ("Task<".toList ++ text ++ ">".toList)
  | blanks {expression : TypeExpression} {before text after : List Char}
      (blank : Text.IsBlank before) (blank' : Text.IsBlank after)
      (inner : Spelled known expression text)
    : Spelled known expression (before ++ text ++ after)

/-- The outermost part of a spelling that only the platform's future types can give a meaning, below
the array suffixes and without the blanks around it.
-/
inductive OutermostFuture (known : KnownNames) : List Char → List Char → Prop where
  | task (undeclared : known.declared "Task" = false)
    : OutermostFuture known "Task".toList "Task".toList
  | taskAwaiter (undeclared : known.declared "TaskAwaiter" = false)
    : OutermostFuture known "TaskAwaiter".toList "TaskAwaiter".toList
  | taskOf (result : List Char)
    : OutermostFuture known ("Task<".toList ++ result ++ ">".toList)
        ("Task<".toList ++ result ++ ">".toList)
  | array {part text : List Char} (inner : OutermostFuture known part text)
    : OutermostFuture known part (text ++ "[]".toList)
  | blanks {part before text after : List Char} (blank : Text.IsBlank before)
      (blank' : Text.IsBlank after) (inner : OutermostFuture known part text)
    : OutermostFuture known part (before ++ text ++ after)

------------------------------------------------------------------------------------------
-- The forms that a reader looks for

/-- A text ends in a suffix exactly if it is the rest with the suffix behind it. -/
theorem dropSuffix?_eq_some_iff {suffix text rest : List Char}
    : Scope.dropSuffix? suffix text = some rest ↔ text = rest ++ suffix := by
  unfold Scope.dropSuffix?
  constructor
  · intro found
    split at found
    · next ends =>
      obtain ⟨front, rfl⟩ := List.isSuffixOf_iff_suffix.mp ends
      obtain rfl : front = rest := by simpa using found
      rfl
    · cases found
  · rintro rfl
    simp

/-- An array is spelled by its element with brackets behind it. -/
theorem elementSpelling?_eq_some_iff {text element : List Char}
    : Scope.elementSpelling? text = some element ↔ text = element ++ "[]".toList :=
  dropSuffix?_eq_some_iff

/-- A generic task is spelled by its result between angle brackets.
Both ends are looked for one after the other, so they do not overlap.
-/
theorem resultSpelling?_eq_some_iff {text result : List Char}
    : Scope.resultSpelling? text = some result
      ↔ text = "Task<".toList ++ result ++ ">".toList := by
  unfold Scope.resultSpelling?
  constructor
  · intro found
    split at found
    · next starts =>
      obtain ⟨rest, rfl⟩ := List.isPrefixOf_iff_prefix.mp starts
      rw [List.drop_left, dropSuffix?_eq_some_iff] at found
      subst found
      rw [List.append_assoc]
      rfl
    · cases found
  · rintro rfl
    have starts : Scope.taskOpening.isPrefixOf ("Task<".toList ++ result ++ ">".toList) := by
      simp [Scope.taskOpening]
    rw [if_pos starts, dropSuffix?_eq_some_iff]
    rfl

/-- A keyword is that of one special type, as the five keywords differ. -/
theorem ofKeyword?_eq_some_iff {name : String} {special : SpecialType}
    : SpecialType.ofKeyword? name = some special ↔ name = special.keyword := by
  constructor
  · intro found
    have same : special.keyword = name := by simpa using List.find?_some found
    exact same.symm
  · rintro rfl
    cases special <;> decide

/-- All other names are no keyword. -/
theorem ofKeyword?_eq_none_iff {name : String}
    : SpecialType.ofKeyword? name = none ↔ ∀ special : SpecialType, name ≠ special.keyword := by
  simp only [Option.eq_none_iff_forall_ne_some, ne_eq, ofKeyword?_eq_some_iff]

instance (name : String) : Decidable (PlainName name) :=
  decidable_of_iff
    (Text.trim name.toList = name.toList
      ∧ SpecialType.ofKeyword? name = none
      ∧ ¬ "[]".toList <:+ name.toList
      ∧ ¬ ("Task<".toList <+: name.toList ∧ ">".toList <:+ name.toList))
    ⟨fun ⟨trimmed, noKeyword, noArray, noTask⟩ =>
        ⟨trimmed, ofKeyword?_eq_none_iff.mp noKeyword, noArray, noTask⟩,
      fun ⟨trimmed, noKeyword, noArray, noTask⟩ =>
        ⟨trimmed, ofKeyword?_eq_none_iff.mpr noKeyword, noArray, noTask⟩⟩

------------------------------------------------------------------------------------------
-- What a reader makes of each form

/-- A reader does not see blanks around a spelling. -/
theorem read_eq_of_trim_eq {known : KnownNames} {text other : List Char}
    (same : Text.trim text = Text.trim other)
    : read known text = read known other := by
  rw [read, read, same]

section
variable (known : KnownNames)

/-- So blanks may be put around it. -/
theorem read_blanks {before text after : List Char} (blank : Text.IsBlank before)
    (blank' : Text.IsBlank after)
    : read known (before ++ text ++ after) = read known text :=
  read_eq_of_trim_eq ((Text.trim_append_right blank').trans (Text.trim_append_left blank))

/-- Brackets behind a spelling make an array of what it spells.
They are no blanks, so they are still at the end when the spelling is trimmed, and blanks before the
element do not count.
-/
theorem read_array (text : List Char)
    : read known (text ++ "[]".toList) = (read known text).map array := by
  have trimmed
      : Text.trim (text ++ "[]".toList) = text.dropWhile Text.isBlank ++ "[]".toList :=
    Text.trim_append_mark (by decide) (by decide)
  have element
      : Scope.elementSpelling? (Text.trim (text ++ "[]".toList))
        = some (text.dropWhile Text.isBlank) :=
    elementSpelling?_eq_some_iff.mpr trimmed
  rw [read_of_element element, read_eq_of_trim_eq (Text.trim_dropWhile text)]

/-- The keyword of a special type is read as that type, by cases on the types. -/
theorem read_special (special : SpecialType)
    : read known special.keyword.toList = .ok (.special special) := by
  cases special <;> exact read_of_keyword (by decide) (by decide)

end

section
variable {known : KnownNames} (plain : ∀ name, known.declared name → PlainName name)
include plain

/-- A declared name is read as its type, if it is plain: it is neither a keyword nor an array, and
has no blanks around it.
-/
theorem read_declared {name : String} (declared : known.declared name)
    : read known name.toList = .ok (.declared name) := by
  have isPlain := plain name declared
  have trimmed := isPlain.trimmed
  have noKeyword : SpecialType.ofKeyword? (String.ofList (Text.trim name.toList)) = none := by
    rw [trimmed, String.ofList_toList]
    exact ofKeyword?_eq_none_iff.mpr isPlain.noKeyword
  have noArray : Scope.elementSpelling? (Text.trim name.toList) = none := by
    rw [trimmed]
    refine Option.eq_none_iff_forall_ne_some.mpr (fun element found => isPlain.noArray ?_)
    exact ⟨element, (elementSpelling?_eq_some_iff.mp found).symm⟩
  have listed : known.declared (String.ofList (Text.trim name.toList)) = true := by
    rw [trimmed, String.ofList_toList]
    exact declared
  have reading := read_of_declared noArray noKeyword listed
  rwa [trimmed, String.ofList_toList] at reading

/-- A spelling with the form of a generic task is read as one, or reported where there are none.
It cannot be taken for anything else: it does not end in brackets, is no keyword, and no plain name
looks like it.
-/
theorem read_taskOf (result : List Char)
    : read known ("Task<".toList ++ result ++ ">".toList)
      = if known.platformTasks then (read known result).map taskOf
        else .error
          (.tasksDisabled (String.ofList ("Task<".toList ++ result ++ ">".toList))) := by
  have trimmed
      : Text.trim ("Task<".toList ++ result ++ ">".toList)
        = "Task<".toList ++ result ++ ">".toList :=
    @Text.trim_of_proper_ends ("ask<".toList ++ result) 'T' '>' (by decide) (by decide)
  have noArray
      : Scope.elementSpelling? (Text.trim ("Task<".toList ++ result ++ ">".toList)) = none := by
    rw [trimmed]
    refine Option.eq_none_iff_forall_ne_some.mpr (fun element found => ?_)
    have last := congrArg List.getLast? (elementSpelling?_eq_some_iff.mp found)
    simp [List.getLast?_cons, List.getLast?_append] at last
  have noKeyword
      : SpecialType.ofKeyword?
          (String.ofList (Text.trim ("Task<".toList ++ result ++ ">".toList)))
        = none := by
    rw [trimmed, ofKeyword?_eq_none_iff]
    intro special same
    have first := congrArg (fun name => name.toList.head?) same
    cases special <;> simp [SpecialType.keyword] at first
  have undeclared
      : known.declared (String.ofList (Text.trim ("Task<".toList ++ result ++ ">".toList)))
        = false := by
    rw [trimmed, Bool.eq_false_iff]
    intro declared
    refine (plain _ declared).noTask ?_
    simp only [String.toList_ofList]
    exact ⟨⟨result ++ ">".toList, by simp⟩, ⟨"Task<".toList ++ result, rfl⟩⟩
  rw [read_of_result noArray noKeyword undeclared (resultSpelling?_eq_some_iff.mpr trimmed),
    trimmed]

omit plain in
/-- The names of the platform's future types are read as these, unless a type of that name is
declared.
-/
theorem read_future {name : String} (future : name = "Task" ∨ name = "TaskAwaiter")
    (undeclared : known.declared name = false)
    : read known name.toList
      = if known.platformTasks then .ok (if name = "Task" then .task else .taskAwaiter)
        else .error (.tasksDisabled name) := by
  have trimmed : Text.trim name.toList = name.toList := by
    rcases future with rfl | rfl <;> decide
  have same : String.ofList (Text.trim name.toList) = name := by
    rw [trimmed, String.ofList_toList]
  have noKeyword : SpecialType.ofKeyword? (String.ofList (Text.trim name.toList)) = none := by
    rw [same]
    rcases future with rfl | rfl <;> decide
  have noArray : Scope.elementSpelling? (Text.trim name.toList) = none := by
    rcases future with rfl | rfl <;> decide
  have noTask : Scope.resultSpelling? (Text.trim name.toList) = none := by
    rcases future with rfl | rfl <;> decide
  rw [read_of_name noArray noKeyword (by rw [same]; exact undeclared) noTask, same,
    if_pos future]

------------------------------------------------------------------------------------------
-- Reading is exact

/-- A reader takes every spelling for the expression that it spells, by induction on the
spelling. -/
theorem Spelled.read_eq {expression : TypeExpression} {text : List Char}
    (spelled : Spelled known expression text)
    : read known text = .ok expression := by
  induction spelled with
  | special special => exact read_special known special
  | declared declared => exact read_declared plain declared
  | task platformTasks undeclared =>
      rw [read_future (.inl rfl) undeclared, if_pos platformTasks, if_pos rfl]
  | taskAwaiter platformTasks undeclared =>
      rw [read_future (.inr rfl) undeclared, if_pos platformTasks, if_neg (by decide)]
  | array _ ih => rw [read_array, ih, Except.map]
  | taskOf platformTasks _ ih =>
      rw [read_taskOf plain, if_pos platformTasks, ih, Except.map]
  | blanks blank blank' _ ih => rw [read_blanks known blank blank', ih]

/-- Without the platform's futures a reader reports the outermost part that needs them, by induction
on what is around it.
-/
theorem OutermostFuture.read_eq (disabled : known.platformTasks = false) {part text : List Char}
    (outermost : OutermostFuture known part text)
    : read known text = .error (.tasksDisabled (String.ofList part)) := by
  have off : ¬ known.platformTasks = true := by simp [disabled]
  induction outermost with
  | task undeclared => rw [read_future (.inl rfl) undeclared, if_neg off, String.ofList_toList]
  | taskAwaiter undeclared =>
      rw [read_future (.inr rfl) undeclared, if_neg off, String.ofList_toList]
  | taskOf result => rw [read_taskOf plain, if_neg off]
  | array _ ih => rw [read_array, ih, Except.map]
  | blanks blank blank' _ ih => rw [read_blanks known blank blank', ih]

end

/-- A text is a spelling if it is one without the blanks around it, as blanks around a spelling may
always stand.
-/
theorem Spelled.of_trim {known : KnownNames} {expression : TypeExpression} {text : List Char}
    (spelled : Spelled known expression (Text.trim text))
    : Spelled known expression text := by
  obtain ⟨before, after, blank, blank', around⟩ := Text.exists_blanks_around_trim text
  rw [around]
  exact .blanks blank blank' spelled

/-- What a reader accepts is spelled in the grammar.
By induction on the reading, with a case for each of its forms; the trimmed text is spelled, and so
is the text with its blanks.
-/
theorem spelled_of_read {known : KnownNames} (text : List Char)
    : ∀ {expression : TypeExpression},
        read known text = .ok expression → Spelled known expression text := by
  have named {text : List Char} {name : String} (same : String.ofList (Text.trim text) = name)
      : Text.trim text = name.toList := by
    rw [← same, String.toList_ofList]
  fun_induction read known text
  case case1 text _ element isArray ih =>
    intro expression reading
    obtain ⟨inner, reads, rfl⟩ := exists_of_map_eq_ok reading
    have trimmed : Text.trim text = _ := elementSpelling?_eq_some_iff.mp isArray
    exact .of_trim (trimmed ▸ .array (ih reads))
  case case2 text _ name noArray special keyword =>
    rintro _ ⟨⟩
    have trimmed : Text.trim text = _ := named (ofKeyword?_eq_some_iff.mp keyword)
    exact .of_trim (trimmed ▸ .special special)
  case case3 text _ name noArray noKeyword declared =>
    rintro _ ⟨⟩
    have trimmed : Text.trim text = name.toList := named rfl
    exact .of_trim (trimmed ▸ .declared declared)
  case case4 text _ _ noArray noKeyword undeclared result isTask platformTasks ih =>
    intro expression reading
    obtain ⟨inner, reads, rfl⟩ := exists_of_map_eq_ok reading
    have trimmed : Text.trim text = _ := resultSpelling?_eq_some_iff.mp isTask
    exact .of_trim (trimmed ▸ .taskOf platformTasks (ih reads))
  case case6 text _ name noArray noKeyword undeclared noTask future platformTasks =>
    rintro _ ⟨⟩
    rw [Bool.not_eq_true] at undeclared
    rcases future with same | same
    · have trimmed : Text.trim text = "Task".toList := named same
      rw [same] at undeclared ⊢
      exact .of_trim (trimmed ▸ .task platformTasks undeclared)
    · have trimmed : Text.trim text = "TaskAwaiter".toList := named same
      rw [same] at undeclared ⊢
      exact .of_trim (trimmed ▸ .taskAwaiter platformTasks undeclared)
  case case5 | case7 | case8 => nofun

/-- With the platform's future types there is more to spell, but only by parts that need them; by
induction on the spelling.
-/
theorem Spelled.of_withFutures {known : KnownNames} {expression : TypeExpression}
    {text : List Char}
    (spelled : Spelled { known with platformTasks := true } expression text)
    : Spelled known expression text ∨ ∃ part, OutermostFuture known part text := by
  induction spelled with
  | special special => exact .inl (.special special)
  | declared declared => exact .inl (.declared declared)
  | task _ undeclared => exact .inr ⟨_, .task undeclared⟩
  | taskAwaiter _ undeclared => exact .inr ⟨_, .taskAwaiter undeclared⟩
  | array _ ih =>
      rcases ih with inner | ⟨part, outermost⟩
      · exact .inl (.array inner)
      · exact .inr ⟨part, .array outermost⟩
  | taskOf _ _ _ => exact .inr ⟨_, .taskOf _⟩
  | blanks blank blank' _ ih =>
      rcases ih with inner | ⟨part, outermost⟩
      · exact .inl (.blanks blank blank' inner)
      · exact .inr ⟨part, .blanks blank blank' outermost⟩

/-- An expression that is spelled is spelled without blanks, too, by induction on the spelling. -/
theorem Spelled.compact {known : KnownNames} {expression : TypeExpression} {text : List Char}
    (spelled : Spelled known expression text)
    : Spelled known expression expression.compact := by
  induction spelled with
  | special special => exact .special special
  | declared declared => exact .declared declared
  | task platformTasks undeclared => exact .task platformTasks undeclared
  | taskAwaiter platformTasks undeclared => exact .taskAwaiter platformTasks undeclared
  | array _ ih => exact .array ih
  | taskOf platformTasks _ ih => exact .taskOf platformTasks ih
  | blanks _ _ _ ih => exact ih

/-- An expression that is spelled is named as it is spelled without blanks, by induction on the
spelling.
-/
theorem Spelled.name_eq {known : KnownNames} {expression : TypeExpression} {text : List Char}
    (spelled : Spelled known expression text)
    : expression.name known.platformTasks = String.ofList expression.compact := by
  induction spelled with
  | special _ | declared _ => exact String.ofList_toList.symm
  | task platformTasks _ =>
      rw [platformTasks]
      exact String.ofList_toList.symm
  | taskAwaiter _ _ => exact String.ofList_toList.symm
  | @array element _ _ ih =>
      have parts : element.array.compact = element.compact ++ "[]".toList := rfl
      rw [parts, String.ofList_append, String.ofList_toList, ← ih]
      rfl
  | @taskOf result _ _ _ ih =>
      have parts : result.taskOf.compact = "Task<".toList ++ result.compact ++ ">".toList := rfl
      rw [parts, String.ofList_append, String.ofList_append, String.ofList_toList,
        String.ofList_toList, ← ih]
      rfl
  | blanks _ _ _ ih => exact ih

end TypeExpression

end EntryPoints
