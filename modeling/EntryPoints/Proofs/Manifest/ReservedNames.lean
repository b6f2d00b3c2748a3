import EntryPoints.Proofs.Manifest.Compilation
import EntryPoints.Proofs.Synthesis.Outcome

/-! The name of an entry point beside the names that the user gives the members of its class.
Nothing keeps a manifest from declaring a member under a reserved name, so the entry point is alone
under its name exactly if no declared member has it.
-/

namespace EntryPoints

open TypeTable

------------------------------------------------------------------------------------------
-- Declared names

/-- The name under which a member is declared. -/
def MemberDecl.memberName? : MemberDecl → Option String
  | .method declaration => declaration.memberName?
  | .field declaration => some declaration.name

/-- The name of the declared type that an entry point is to be added to. -/
def CompilationDecl.host? : CompilationDecl → Option String
  | .regular main => (main.bind Manifest.splitAtLastDot?).map Prod.fst
  | .script className => some className
  | .submission className => some className

/-- The reserved name for the entry point of a compilation. -/
def CompilationDecl.entryPointName : CompilationDecl → String
  | .regular _ => SyntheticName.main.spelling
  | .script _ => SyntheticName.main.spelling
  | .submission _ => SyntheticName.factory.spelling

/-- The members of the class that is to hold the entry point leave its name alone. -/
def Manifest.LeavesEntryPointName (manifest : Manifest) : Prop :=
  ∀ declaration ∈ manifest.types,
    manifest.compilation.host? = some declaration.name
    → ∀ member ∈ declaration.members,
        member.memberName? ≠ some manifest.compilation.entryPointName

instance (manifest : Manifest) : Decidable manifest.LeavesEntryPointName :=
  inferInstanceAs
    (Decidable
      (∀ declaration ∈ manifest.types,
        manifest.compilation.host? = some declaration.name
        → ∀ member ∈ declaration.members,
            member.memberName? ≠ some manifest.compilation.entryPointName))

/-- Every entry point has a reserved name, whichever compilation it is for. -/
theorem CompilationDecl.entryPointName_reserved (compilation : CompilationDecl)
    : isReservedMemberName compilation.entryPointName := by
  cases compilation <;> simp only [entryPointName] <;> decide

/-- No entry point is named as initializers are, the one reserved name that manifests may use. -/
theorem CompilationDecl.entryPointName_ne_scriptInitializer (compilation : CompilationDecl)
    : compilation.entryPointName ≠ WellKnownMember.scriptInitializer.spelling := by
  cases compilation <;> simp only [entryPointName] <;> decide

/-- A manifest that uses no reserved name, apart from the one of initializers, leaves the entry
point's name alone.
-/
theorem Manifest.leavesEntryPointName_of_unreserved {manifest : Manifest}
    (unreserved
      : ∀ declaration ∈ manifest.types, ∀ member ∈ declaration.members,
          ∀ name ∈ member.memberName?,
            name = WellKnownMember.scriptInitializer.spelling
            ∨ isReservedMemberName name = false)
    : manifest.LeavesEntryPointName := by
  intro declaration declared _ member listed named
  rcases unreserved declaration declared member listed _ named with same | usable
  · exact manifest.compilation.entryPointName_ne_scriptInitializer same
  · simp [manifest.compilation.entryPointName_reserved] at usable

------------------------------------------------------------------------------------------
-- The members of the class

/-- A member has the name that it is declared with, which every declaration of a member has that
describes one.
-/
theorem MemberDecl.Describes.memberName? {scope : Scope} {table : TypeTable} {owner : TypeId}
    {declaration : MemberDecl} {member : Member}
    (describes : declaration.Describes scope table owner member)
    : declaration.memberName? = some (table.memberName member) := by
  cases describes with
  | method _ describes => exact describes.name
  | field _ => rfl

/-- The members of a type have the declared names, in order; by induction over the members. -/
theorem memberNames_of_described {scope : Scope} {table : TypeTable} {owner : TypeId}
    {declarations : List MemberDecl} {members : List Member}
    (described : List.Forall₂ (MemberDecl.Describes scope table owner) declarations members)
    : declarations.map MemberDecl.memberName?
      = members.map (fun member => some (table.memberName member)) := by
  induction described with
  | nil => rfl
  | cons describes _ ih => simp [describes.memberName?, ih]

/-- The compilation's entry point goes under its reserved name into the class that the manifest
names as its host.
By cases on the compilation. The main of a program is declared by the class in front of the dot of
its path, and a script or a submission names its class itself.
-/
theorem Manifest.Contents.host_describes {manifest : Manifest} {scope : Scope}
    {table : TypeTable} (contents : manifest.Contents scope table) {kind : CompilationKind}
    {candidate : Option MethodId}
    (found : findCompilation scope table manifest.compilation = .ok (kind, candidate))
    {config : SynthesisConfig} {output : EntryPointOutput}
    (produces : Produces table config kind candidate output)
    : output.entryPoint.name = manifest.compilation.entryPointName
      ∧ ∃ declaration ∈ manifest.types,
          manifest.compilation.host? = some declaration.name
          ∧ declaration.Describes scope table output.entryPoint.containingType := by
  have described := findCompilation_eq_ok_iff.mp found
  cases description : manifest.compilation with
  | regular path =>
      cases path with
      | none =>
          rw [description] at described
          obtain ⟨rfl, rfl⟩ := described
          cases produces
      | some path =>
          rw [description] at described
          obtain ⟨rfl, main, rfl, main_found⟩ := described
          obtain ⟨typeName, _, owner, split, declared, named, _⟩ :=
            findMain_eq_ok_iff.mp main_found
          obtain ⟨declaration, listed, rfl, describes⟩ := contents.declaration_of_find? declared
          obtain ⟨_, _, method⟩ :=
            describes.of_method_mem (mem_members_of_methodByName? named)
          cases produces with
          | forwarder =>
              refine ⟨rfl, declaration, listed, by simp [CompilationDecl.host?, split], ?_⟩
              rw [EntryPoint.forwarding, method.containingType]
              exact describes
  | script className =>
      rw [description] at described
      obtain ⟨rfl, type, rfl, declared⟩ := described
      obtain ⟨declaration, listed, rfl, describes⟩ := contents.declaration_of_find? declared
      cases produces with
      | script => exact ⟨rfl, declaration, listed, rfl, describes⟩
  | submission className =>
      rw [description] at described
      obtain ⟨rfl, type, rfl, declared⟩ := described
      obtain ⟨declaration, listed, rfl, describes⟩ := contents.declaration_of_find? declared
      cases produces with
      | submission => exact ⟨rfl, declaration, listed, rfl, describes⟩

/-- An entry point shares its name with no member of its class exactly if the manifest leaves that
name alone, whatever the configuration.
-/
theorem Manifest.entryPoint_name_unshared_iff {manifest : Manifest} {loaded : LoadedCompilation}
    (built : manifest.build = .ok loaded) {config : SynthesisConfig} {bag : DiagnosticBag}
    {output : EntryPointOutput}
    (synthesized
      : (loaded.table.synthesize loaded.kind loaded.candidate config bag).1 = .ok (some output))
    : (∀ member ∈ (loaded.table.symbol output.entryPoint.containingType).members,
        loaded.table.memberName member ≠ output.entryPoint.name)
      ↔ manifest.LeavesEntryPointName := by
  obtain ⟨scope, completes, _, found⟩ := build_eq_ok_iff.mp built
  have contents := completes.contents
  obtain ⟨named, declaration, listed, hosts, describes⟩ :=
    contents.host_describes found (synthesize_eq_some_iff_produces.mp synthesized)
  -- Only one declaration has the name of the class, so the others do not matter.
  have only {other : TypeDecl} (declared : other ∈ manifest.types)
      (hosts' : manifest.compilation.host? = some other.name)
      : other = declaration := by
    refine List.inj_on_of_nodup_map contents.distinct declared listed ?_
    exact Option.some.inj (hosts'.symm.trans hosts)
  have names
      : some output.entryPoint.name ∈ declaration.members.map MemberDecl.memberName?
        ↔ some output.entryPoint.name
          ∈ (loaded.table.symbol output.entryPoint.containingType).members.map
              (fun member => some (loaded.table.memberName member)) := by
    rw [memberNames_of_described describes.members]
  simp only [List.mem_map, Option.some.injEq, named] at names
  rw [named]
  constructor
  · intro unshared other declared hosts' member inside same
    obtain rfl := only declared hosts'
    obtain ⟨shared, inside', same'⟩ := names.mp ⟨member, inside, same⟩
    exact unshared shared inside' same'
  · intro leaves member inside same
    obtain ⟨declared, inside', same'⟩ := names.mpr ⟨member, inside, same⟩
    exact leaves declaration listed hosts declared inside' same'

/-- A script whose class declares a field of that name. -/
def scriptWithField (name : String) : Manifest where
  platformTasks := true
  types :=
    [
      {
        name := "Script",
        kind := .scriptClass,
        members :=
          [
            .field { name, type := "int" },
            .method { kind := .constructor },
            .method { kind := .initializer, returns := some "Task" }
          ]
      }
    ]
  compilation := .script "Script"

/-- What that script is loaded as. -/
def loadedScript (field : String) : LoadedCompilation where
  table :=
    .performAll .empty
      [
        .definePlatformTasks,
        .defineType "Script" .scriptClass none,
        .defineField ⟨13⟩ field SpecialType.int32.id,
        .defineMethod ⟨13⟩ (.constructor SpecialType.void.id),
        .defineMethod ⟨13⟩ (.initializer ⟨12⟩)
      ]
  kind := .script ⟨13⟩
  candidate := none

/-- Beside a field with a name of the user's own, the entry point is alone under its name.
Witness: a field `count` in a script class, with a constructor and an initializer.
-/
theorem scriptWithField_count_unshared
    : (scriptWithField "count").build = .ok (loadedScript "count")
      ∧ ∃ output,
          ((loadedScript "count").table.synthesize (.script ⟨13⟩) none {} .empty).1
            = .ok (some output)
          ∧ ∀ member ∈
              ((loadedScript "count").table.symbol output.entryPoint.containingType).members,
              (loadedScript "count").table.memberName member ≠ output.entryPoint.name := by
  have built : (scriptWithField "count").build = .ok (loadedScript "count") := by decide +kernel
  obtain ⟨output, synthesized⟩
      : ∃ output,
          ((loadedScript "count").table.synthesize (.script ⟨13⟩) none {} .empty).1
            = .ok (some output) :=
    ⟨_, rfl⟩
  refine ⟨built, output, synthesized, ?_⟩
  exact (Manifest.entryPoint_name_unshared_iff built synthesized).mpr (by decide)

/-- A field may have the reserved name `<Main>`, and the script gets its entry point under that name
all the same.
-/
theorem scriptWithField_main_shared
    : (scriptWithField "<Main>").build = .ok (loadedScript "<Main>")
      ∧ ∃ output,
          ((loadedScript "<Main>").table.synthesize (.script ⟨13⟩) none {} .empty).1
            = .ok (some output)
          ∧ ∃ member ∈
              ((loadedScript "<Main>").table.symbol output.entryPoint.containingType).members,
              (loadedScript "<Main>").table.memberName member = output.entryPoint.name := by
  refine ⟨by decide +kernel, _, rfl, .field "<Main>" SpecialType.int32.id, ?_, rfl⟩
  exact List.mem_cons_self

end EntryPoints
