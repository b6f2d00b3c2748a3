import EntryPoints.Proofs.Manifest.Contents
import EntryPoints.Proofs.TypeTable.WellFormed

/-! Builds are faithful. The table of a manifest has the declared types in the order of their
declaration, each as it is declared, and nothing else with members but the platform's futures.
-/

namespace EntryPoints

open TypeTable

namespace Manifest

/-- The type that the declaration at a position becomes. Declared types follow on those that the
table starts with. -/
def typeAt (manifest : Manifest) (position : Nat) : TypeId :=
  ⟨manifest.startingTable.typeCount + position⟩

/-- The table has what the manifest declares and loses, repeats, reorders or alters nothing of it.
-/
structure Faithful (manifest : Manifest) (scope : Scope) (table : TypeTable) : Prop where
  platformTasks : scope.platformTasks = manifest.platformTasks
  names
    : ∀ {name type},
        scope.find? name = some type
        ↔ ∃ position declaration,
            manifest.types[position]? = some declaration
            ∧ declaration.name = name
            ∧ type = manifest.typeAt position
  /-- What the declarations below mean by a spelling is the type that it is resolved to. -/
  spellings
    : ∀ {spelling type},
        Spells scope table spelling type
        ↔ scope.resolve spelling.toList table = (.ok type, table)
  types
    : ∀ {position : Nat} {declaration : TypeDecl},
        manifest.types[position]? = some declaration
        → declaration.Describes scope table (manifest.typeAt position)
  methods : table.MethodsListed
  others
    : ∀ {type},
        (table.symbol type).members ≠ []
        → table.Generated type
          ∨ ∃ position < manifest.types.length, type = manifest.typeAt position

/-- Declared types are found at their positions: a name stands for a type exactly if the declaration
at some position has that name, and the type is the one of the position.
What is found was declared, so one direction goes through the declaration's position; the other one
is what declaring the types leaves behind.
-/
theorem Completes.find?_eq_some_iff {manifest : Manifest} {scope : Scope} {table : TypeTable}
    (completes : manifest.Completes scope table) {name : String} {type : TypeId}
    : scope.find? name = some type
      ↔ ∃ position declaration,
          manifest.types[position]? = some declaration
          ∧ declaration.name = name
          ∧ type = manifest.typeAt position := by
  have contents := completes.contents
  obtain ⟨bare, done, _⟩ := completes
  obtain ⟨placed, _⟩ := find?_of_declareTypes done
  constructor
  · intro found
    obtain ⟨declaration, listed, named, _⟩ := contents.declaration_of_find? found
    obtain ⟨position, there⟩ := List.mem_iff_getElem?.mp listed
    have found' := placed there
    rw [named, found] at found'
    exact ⟨position, declaration, there, named, Option.some.inj found'⟩
  · rintro ⟨position, declaration, there, rfl, rfl⟩
    exact placed there

/-- Building is faithful: whatever is built has what the manifest declares, in order and as it is
declared.
-/
theorem build_faithful {manifest : Manifest} {loaded : LoadedCompilation}
    (built : manifest.build = .ok loaded)
    : ∃ scope, manifest.Faithful scope loaded.table := by
  obtain ⟨scope, completes, _, _⟩ := build_eq_ok_iff.mp built
  have contents := completes.contents
  have furnished := contents.furnished
  refine ⟨scope, {
    platformTasks := contents.platformTasks
    names := completes.find?_eq_some_iff
    spellings := furnished.spells_iff
    types := ?_
    methods := furnished.reached.isWellFormed.methodsListed
    others := ?_
  }⟩
  · intro position declaration there
    obtain ⟨type, found, describes⟩ := contents.describes declaration (List.mem_of_getElem? there)
    have placed := completes.find?_eq_some_iff.mpr ⟨position, declaration, there, rfl, rfl⟩
    obtain rfl := Option.some.inj (found.symm.trans placed)
    exact describes
  · intro type members
    rcases furnished.declared_generated_or_bare type with ⟨name, found⟩ | generated | ⟨bare, _⟩
    · obtain ⟨position, _, there, _, rfl⟩ := completes.find?_eq_some_iff.mp found
      exact .inr ⟨position, (List.getElem?_eq_some_iff.mp there).1, rfl⟩
    · exact .inl generated
    · exact absurd bare members

end Manifest

/-- A library that mentions types before they are declared, and gives all that can be given of a
member or nothing of it.
-/
def libraryOfForwardMentions : Manifest where
  platformTasks := true
  types :=
    [
      {
        name := "Job",
        base := some "Task< Result[] >",
        bogus := true,
        members :=
          [
            .method { kind := .constructor, name := some "ignored" },
            .method
              {
                name := some "Run",
                returns := some "Task<int>",
                parameters := [{ type := "Result[]" }, { name := some "depth", type := "int" }],
                isStatic := true,
                isAsync := true,
                accessibility := some .internalAccess,
                location := some (3, 14)
              },
            .field { name := "last", type := "Result" }
          ]
      },
      { name := "Result", kind := .structType, members := [.method { kind := .initializer }] }
    ]
  compilation := .regular none

/-- The library is built and faithful, and its second type comes at the second place.
Witness: two classes that mention each other before they are declared.
-/
theorem libraryOfForwardMentions_faithful
    : ∃ loaded scope,
        libraryOfForwardMentions.build = .ok loaded
        ∧ libraryOfForwardMentions.Faithful scope loaded.table
        ∧ scope.find? "Result" = some ⟨14⟩ := by
  have loads : libraryOfForwardMentions.build.map (fun _ => ()) = .ok () := by decide +kernel
  obtain ⟨loaded, built, _⟩ := exists_of_map_eq_ok loads
  obtain ⟨scope, faithful⟩ := Manifest.build_faithful built
  have second := faithful.names.mpr ⟨1, _, rfl, rfl, rfl⟩
  exact ⟨loaded, scope, built, faithful, second⟩

end EntryPoints
