import EntryPoints.Proofs.Manifest.Contents
import EntryPoints.Proofs.TypeTable.Members
import Mathlib.Data.List.TakeWhile

/-! The compilation that a manifest describes: its class, or the declared method that is its main.
-/

namespace EntryPoints

open TypeTable

/-- A method among the members of a described type is a declared one, and is what its declaration
says.
-/
theorem TypeDecl.Describes.of_method_mem {scope : Scope} {table : TypeTable}
    {declaration : TypeDecl} {type : TypeId} (describes : declaration.Describes scope table type)
    {id : MethodId} (listed : .method id ∈ (table.symbol type).members)
    : ∃ method,
        .method method ∈ declaration.members
        ∧ method.Describes scope table type (table.method id) := by
  obtain ⟨member, declared, described⟩ := exists_of_mem_right describes.members listed
  cases described with
  | method _ describes => exact ⟨_, declared, describes⟩

/-- The first of the methods that a type declares under the name. -/
def TypeDecl.method? (declaration : TypeDecl) (name : String) : Option MethodDecl :=
  declaration.members.findSome? fun
    | .method method => if method.memberName? = some name then some method else none
    | .field _ => none

/-- The first method of a name is the first declared one, as the two lists of members agree member
by member.
-/
theorem TypeDecl.Describes.methodByName?_rel {scope : Scope} {table : TypeTable}
    {declaration : TypeDecl} {type : TypeId} (describes : declaration.Describes scope table type)
    (name : String)
    : Option.Rel (fun method id => method.Describes scope table type (table.method id))
        (declaration.method? name) (table.methodByName? type name) := by
  refine forall₂_findSome? (fun {declared member} described => ?_) describes.members
  cases described with
  | @method method id _ described =>
      by_cases named : (table.method id).name = name
      · simp only [described.name, named, if_true, beq_self_eq_true]
        exact .some described
      · simp [described.name, named]
  | field _ => exact .none

namespace Manifest

------------------------------------------------------------------------------------------
-- Paths

/-- The parts of a path are what stands before its last dot and what stands behind it. -/
structure SplitsAtLastDot (path typeName methodName : String) : Prop where
  whole : path = typeName ++ "." ++ methodName
  last : '.' ∉ methodName.toList

/-- No character of a text without dots is one, also from behind. -/
theorem ne_dot_of_mem_reverse {text : List Char} (dotless : '.' ∉ text)
    : ∀ c ∈ text.reverse, (c != '.') = true := by
  intro c listed
  refine bne_iff_ne.mpr ?_
  rintro rfl
  exact dotless (List.mem_reverse.mp listed)

/-- A path that splits at its last dot is split there: read from behind, the first dot comes behind
the name of the method.
-/
theorem SplitsAtLastDot.splitAtLastDot?_eq {path typeName methodName : String}
    (splits : SplitsAtLastDot path typeName methodName)
    : splitAtLastDot? path = some (typeName, methodName) := by
  have reversed
      : path.toList.reverse = methodName.toList.reverse ++ '.' :: typeName.toList.reverse := by
    rw [splits.whole]
    simp
  have behind := ne_dot_of_mem_reverse splits.last
  simp only [splitAtLastDot?, reversed, List.dropWhile_append_of_pos behind,
    List.takeWhile_append_of_pos behind]
  simp

/-- A path without a dot is not split. -/
theorem splitAtLastDot?_of_dotless {path : String} (dotless : '.' ∉ path.toList)
    : splitAtLastDot? path = none := by
  have none : path.toList.reverse.dropWhile (· != '.') = [] :=
    List.dropWhile_eq_nil_iff.mpr (ne_dot_of_mem_reverse dotless)
  rw [splitAtLastDot?, none]

/-- A path has no dot or a last one, which is the first one from behind. -/
theorem dotless_or_splits (path : String)
    : '.' ∉ path.toList ∨ ∃ typeName methodName, SplitsAtLastDot path typeName methodName := by
  by_cases dot : '.' ∈ path.toList
  · obtain ⟨behind, before, reversed, last⟩ :=
      List.eq_append_cons_of_mem (List.mem_reverse.mpr dot)
    refine .inr ⟨.ofList before.reverse, .ofList behind.reverse, ?_, by simpa using last⟩
    have parts : path.toList = before.reverse ++ '.' :: behind.reverse := by
      rw [← List.reverse_reverse path.toList, reversed]
      simp
    apply String.toList_inj.mp
    simp [parts]
  · exact .inl dot

------------------------------------------------------------------------------------------
-- Mains and classes

variable {scope : Scope} {table : TypeTable}

/-- A main is the first method of its name on a declared type, and an ordinary one.
By cases on how far the search gets, as each of its steps may fail.
-/
theorem findMain_eq_ok_iff {path : String} {main : MethodId}
    : findMain scope table path = .ok main
      ↔ ∃ typeName methodName owner,
          splitAtLastDot? path = some (typeName, methodName)
          ∧ scope.find? typeName = some owner
          ∧ table.methodByName? owner methodName = some main
          ∧ (table.method main).kind = .ordinary := by
  cases parts : splitAtLastDot? path with
  | none => simp [findMain, parts]
  | some names =>
      obtain ⟨typeName, methodName⟩ := names
      cases found : scope.find? typeName with
      | none => simp [findMain, parts, declaredType, found]
      | some owner =>
          cases named : table.methodByName? owner methodName with
          | none => simp [findMain, parts, declaredType, found, named]
          | some id =>
              by_cases ordinary : (table.method id).kind = .ordinary
              · have same (equal : id = main) : (table.method main).kind = .ordinary :=
                  equal ▸ ordinary
                simpa [findMain, parts, declaredType, found, named, ordinary] using same
              · have other (equal : id = main) : (table.method main).kind ≠ .ordinary :=
                  equal ▸ ordinary
                simpa [findMain, parts, declaredType, found, named, ordinary] using other

/-- A main is a declared method of the manifest, with what its declaration says. -/
theorem Contents.main_described {manifest : Manifest} (contents : manifest.Contents scope table)
    {path : String} {main : MethodId} (found : findMain scope table path = .ok main)
    : ∃ owner method, MethodDecl.Describes scope table method owner (table.method main) := by
  obtain ⟨_, _, owner, _, declared, named, _⟩ := findMain_eq_ok_iff.mp found
  obtain ⟨declaration, _, _, describes⟩ := contents.declaration_of_find? declared
  obtain ⟨method, _, described⟩ :=
    describes.of_method_mem (mem_members_of_methodByName? named)
  exact ⟨owner, method, described⟩

/-- The compilation found for a description is a program with the main that it names, or a class; by
cases on the description.
-/
theorem findCompilation_eq_ok_iff {description : CompilationDecl} {kind : CompilationKind}
    {candidate : Option MethodId}
    : findCompilation scope table description = .ok (kind, candidate)
      ↔ match description with
        | .regular none => kind = .regular ∧ candidate = none
        | .regular (some path) =>
            kind = .regular ∧ ∃ main, candidate = some main ∧ findMain scope table path = .ok main
        | .script className =>
            candidate = none ∧ ∃ type, kind = .script type ∧ scope.find? className = some type
        | .submission className =>
            candidate = none
            ∧ ∃ type, kind = .submission type ∧ scope.find? className = some type := by
  cases description with
  | regular path =>
      cases path with
      | none => simp [findCompilation, eq_comm]
      | some path =>
          cases found : findMain scope table path <;>
            simp [findCompilation, found, eq_comm]
  | script className =>
      cases found : scope.find? className <;>
        simp [findCompilation, declaredType, found, eq_comm, and_comm]
  | submission className =>
      cases found : scope.find? className <;>
        simp [findCompilation, declaredType, found, eq_comm, and_comm]

------------------------------------------------------------------------------------------
-- Faults

/-- What is wrong with the compilation that a manifest describes. -/
inductive CompilationFault (manifest : Manifest) : BuildError → Prop where
  | dotless {path : String} (described : manifest.compilation = .regular (some path))
      (dotless : '.' ∉ path.toList)
    : CompilationFault manifest (.unknownMethod path)
  | noType {path typeName methodName : String}
      (described : manifest.compilation = .regular (some path))
      (splits : SplitsAtLastDot path typeName methodName)
      (undeclared : typeName ∉ manifest.names)
    : CompilationFault manifest (.unknownType typeName)
  | noMain {path typeName methodName : String} {declaration : TypeDecl}
      (described : manifest.compilation = .regular (some path))
      (splits : SplitsAtLastDot path typeName methodName)
      (listed : declaration ∈ manifest.types) (named : declaration.name = typeName)
      (other : ∀ method ∈ declaration.method? methodName, method.kind ≠ .ordinary)
    : CompilationFault manifest (.unknownMethod path)
  | noScript {className : String} (described : manifest.compilation = .script className)
      (undeclared : className ∉ manifest.names)
    : CompilationFault manifest (.unknownType className)
  | noSubmission {className : String} (described : manifest.compilation = .submission className)
      (undeclared : className ∉ manifest.names)
    : CompilationFault manifest (.unknownType className)

/-- A path with a dot leads to a declared type, and there to a method, which has to be an ordinary
one.
-/
theorem findMain_of_splits {path typeName methodName : String}
    (splits : SplitsAtLastDot path typeName methodName)
    : findMain scope table path
      = match scope.find? typeName with
        | none => .error (.unknownType typeName)
        | some owner =>
            match table.methodByName? owner methodName with
            | none => .error (.unknownMethod path)
            | some id =>
                if (table.method id).kind = .ordinary then .ok id
                else .error (.unknownMethod path) := by
  rw [findMain, splits.splitAtLastDot?_eq]
  dsimp only
  unfold declaredType
  cases scope.find? typeName <;> rfl

section
variable {manifest : Manifest} (contents : manifest.Contents scope table)
include contents

/-- A name is not in scope exactly if no type of the manifest has it. -/
theorem Contents.find?_eq_none_iff {name : String}
    : scope.find? name = none ↔ name ∉ manifest.names := by
  have declared := congrFun (congrArg KnownNames.declared contents.known) name
  simp only [Scope.known, Manifest.known] at declared
  rw [← Option.not_isSome_iff_eq_none, declared, decide_eq_true_iff]

/-- Each fault of a compilation is reported.
By cases on the fault: a method that the manifest does not declare on a type is not found among the
type's members, and one that it declares is found with its kind.
-/
theorem Contents.findCompilation_of_fault {error : BuildError}
    (fault : manifest.CompilationFault error)
    : findCompilation scope table manifest.compilation = .error error := by
  cases fault with
  | dotless described dotless =>
      simp only [described, findCompilation, findMain, splitAtLastDot?_of_dotless dotless]
  | noType described splits undeclared =>
      have absent := contents.find?_eq_none_iff.mpr undeclared
      simp only [described, findCompilation, findMain_of_splits splits, absent]
  | @noMain path typeName methodName declaration described splits listed named other =>
      obtain ⟨owner, found, describes⟩ := contents.describes declaration listed
      have methods := describes.methodByName?_rel methodName
      rw [named] at found
      simp only [described, findCompilation, findMain_of_splits splits, found]
      generalize table.methodByName? owner methodName = id? at methods
      generalize declaration.method? methodName = method? at methods other
      cases methods with
      | none => rfl
      | some describes =>
          have extraordinary := other _ rfl
          rw [← describes.kind] at extraordinary
          simp only [if_neg extraordinary]
  | noScript described undeclared =>
      have absent := contents.find?_eq_none_iff.mpr undeclared
      simp only [described, findCompilation, declaredType, absent]
  | noSubmission described undeclared =>
      have absent := contents.find?_eq_none_iff.mpr undeclared
      simp only [described, findCompilation, declaredType, absent]

/-- An error for a main is one of the faults.
By cases on how far the search got: at the dot, at the type, or at the method, where the type's
declaration tells what is wrong.
-/
theorem Contents.fault_of_findMain {path : String}
    (described : manifest.compilation = .regular (some path)) {error : BuildError}
    (failed : findMain scope table path = .error error)
    : manifest.CompilationFault error := by
  rcases dotless_or_splits path with dotless | ⟨typeName, methodName, splits⟩
  · simp only [findMain, splitAtLastDot?_of_dotless dotless, Except.error.injEq] at failed
    exact failed ▸ .dotless described dotless
  · rw [findMain_of_splits splits] at failed
    cases found : scope.find? typeName with
    | none =>
        have undeclared := contents.find?_eq_none_iff.mp found
        simp only [found, Except.error.injEq] at failed
        exact failed ▸ .noType described splits undeclared
    | some owner =>
        obtain ⟨declaration, listed, named, describes⟩ := contents.declaration_of_find? found
        have methods := describes.methodByName?_rel methodName
        simp only [found] at failed
        generalize table.methodByName? owner methodName = id? at methods failed
        generalize first : declaration.method? methodName = method? at methods
        cases methods with
        | none =>
            simp only [Except.error.injEq] at failed
            exact failed ▸ .noMain described splits listed named (by simp [first])
        | @some method id describes =>
            by_cases ordinary : (table.method id).kind = .ordinary
            · simp [ordinary] at failed
            · simp only [ordinary, if_false, Except.error.injEq] at failed
              rw [describes.kind] at ordinary
              exact failed ▸ .noMain described splits listed named (by simp [first, ordinary])

/-- Whatever is reported of a compilation is a fault of it.
By cases on its description: the main of a program may be at fault in several ways, and of a script
or a submission only the class may be missing.
-/
theorem Contents.fault_of_findCompilation {error : BuildError}
    (failed : findCompilation scope table manifest.compilation = .error error)
    : manifest.CompilationFault error := by
  cases described : manifest.compilation with
  | regular main =>
      rw [described] at failed
      cases main with
      | none => cases failed
      | some path =>
          cases ended : findMain scope table path with
          | ok id => simp [findCompilation, ended] at failed
          | error other =>
              simp only [findCompilation, ended, Except.error.injEq] at failed
              exact failed ▸ contents.fault_of_findMain described ended
  | script className =>
      rw [described] at failed
      cases found : scope.find? className with
      | some id => simp [findCompilation, declaredType, found] at failed
      | none =>
          have undeclared := contents.find?_eq_none_iff.mp found
          simp only [findCompilation, declaredType, found, Except.error.injEq] at failed
          exact failed ▸ .noScript described undeclared
  | submission className =>
      rw [described] at failed
      cases found : scope.find? className with
      | some id => simp [findCompilation, declaredType, found] at failed
      | none =>
          have undeclared := contents.find?_eq_none_iff.mp found
          simp only [findCompilation, declaredType, found, Except.error.injEq] at failed
          exact failed ▸ .noSubmission described undeclared

end

end Manifest

end EntryPoints
