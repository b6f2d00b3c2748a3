import EntryPoints.Text.Blank
import EntryPoints.TypeTable.Interning

/-! Spellings of types: keywords, declared names, arrays and the platform's future types. -/

namespace EntryPoints

/-- Why a manifest describes no compilation. Types are given as they are spelled. -/
inductive BuildError where
  | duplicateType (name : String)
  | unknownType (spelling : String)
  | tasksDisabled (spelling : String)
  | cyclicBase (name : String)
  | unknownMethod (path : String)
  | unnamedMethod (type : String)
  deriving DecidableEq, Repr, Inhabited

def BuildError.message : BuildError → String
  | duplicateType name => s!"type `{name}` is declared more than once"
  | unknownType spelling => s!"unknown type `{spelling}`"
  | tasksDisabled spelling => s!"`{spelling}` requires \"platform_tasks\": true"
  | cyclicBase name => s!"base types of `{name}` form a cycle"
  | unknownMethod path => s!"unknown method `{path}`"
  | unnamedMethod type => s!"ordinary method on `{type}` has no name"

/-- What spellings may refer to. -/
structure Scope where
  declared : List (String × TypeId) := []
  platformTasks : Bool := false
  deriving DecidableEq, Repr, Inhabited

namespace Scope

def find? (scope : Scope) (name : String) : Option TypeId :=
  scope.declared.lookup name

/-- What comes before an ending of the text. -/
def dropSuffix? (suffix text : List Char) : Option (List Char) :=
  if suffix.isSuffixOf text then some (text.take (text.length - suffix.length)) else none

def arraySuffix : List Char :=
  ['[', ']']

def taskOpening : List Char :=
  ['T', 'a', 's', 'k', '<']

/-- The spelling of an array's element type. -/
def elementSpelling? (spelling : List Char) : Option (List Char) :=
  dropSuffix? arraySuffix spelling

/-- The spelling of a generic task's result type. -/
def resultSpelling? (spelling : List Char) : Option (List Char) :=
  if taskOpening.isPrefixOf spelling then
    dropSuffix? ['>'] (spelling.drop taskOpening.length)
  else
    none

theorem length_dropSuffix? {suffix text rest : List Char} (h : dropSuffix? suffix text = some rest)
    : rest.length + suffix.length = text.length := by
  unfold dropSuffix? at h
  split at h
  · next ends =>
      have := (List.isSuffixOf_iff_suffix.mp ends).length_le
      obtain rfl := Option.some.inj h
      simp
      omega
  · cases h

theorem length_elementSpelling? {spelling element : List Char}
    (h : elementSpelling? spelling = some element)
    : element.length < spelling.length := by
  have := length_dropSuffix? h
  simp [arraySuffix] at this
  omega

theorem length_resultSpelling? {spelling result : List Char}
    (h : resultSpelling? spelling = some result)
    : result.length < spelling.length := by
  unfold resultSpelling? at h
  split at h
  · have := length_dropSuffix? h
    simp at this
    omega
  · cases h

/-- Finds the type that a spelling stands for, making arrays and generic tasks as they are met.
Blanks around a spelling and around each of its parts do not count. -/
def resolve (scope : Scope) (spelling : List Char) (table : TypeTable)
    : Except BuildError TypeId × TypeTable :=
  let trimmed := Text.trim spelling
  let name := String.ofList trimmed
  match _isArray : elementSpelling? trimmed with
  | some element =>
      match scope.resolve element table with
      | (.error error, table) => (.error error, table)
      | (.ok id, table) =>
          let (array, table) := table.arrayOf id
          (.ok array, table)
  | none =>
      match SpecialType.ofKeyword? name with
      | some special => (.ok special.id, table)
      | none =>
          match scope.find? name with
          | some id => (.ok id, table)
          | none =>
              match _isTask : resultSpelling? trimmed with
              | some result =>
                  if scope.platformTasks then
                    match scope.resolve result table with
                    | (.error error, table) => (.error error, table)
                    | (.ok id, table) =>
                        let (task, table) := table.taskOf id
                        (.ok task, table)
                  else
                    (.error (.tasksDisabled name), table)
              | none =>
                  if name = "Task" ∨ name = "TaskAwaiter" then
                    if scope.platformTasks then
                      match table.typeByName? name with
                      | some id => (.ok id, table)
                      | none => (.error (.unknownType name), table)
                    else
                      (.error (.tasksDisabled name), table)
                  else
                    (.error (.unknownType name), table)
termination_by spelling.length
decreasing_by
  · exact Nat.lt_of_lt_of_le (length_elementSpelling? _isArray) (Text.length_trim_le spelling)
  · exact Nat.lt_of_lt_of_le (length_resultSpelling? _isTask) (Text.length_trim_le spelling)

end Scope

end EntryPoints
