import EntryPoints.Proofs.Manifest.FirstFault
import EntryPoints.Proofs.Manifest.SameDeclarations

/-! Manifests that build without the platform's futures do not mention any. With the futures they
are read in the same way, and the types of both tables are matched that an expression without
futures denotes.
-/

namespace EntryPoints

open TypeTable

------------------------------------------------------------------------------------------
-- Expressions without futures

namespace TypeExpression

/-- The expression mentions no future of the platform and no awaiter of one. -/
def futureless : TypeExpression → Bool
  | .error | .special _ | .declared _ => true
  | .array element => element.futureless
  | .task | .taskAwaiter | .taskOf _ | .taskAwaiterOf _ => false

/-- Names differ only with the futures in them, by induction on the expression. -/
theorem name_eq_of_futureless {expression : TypeExpression} (futureless : expression.futureless)
    (platformTasks platformTasks' : Bool)
    : expression.name platformTasks = expression.name platformTasks' := by
  induction expression with
  | error | special _ | declared _ => rfl
  | array element ih => exact congrArg arrayName (ih futureless)
  | task | taskAwaiter | taskOf _ _ | taskAwaiterOf _ _ => cases futureless

/-- What is read where there are no futures mentions none, and is read in the same way where there
are; by induction on the reading.
-/
theorem read_withFutures {known : KnownNames} (off : known.platformTasks = false)
    (spelling : List Char)
    : ∀ {expression : TypeExpression},
        read known spelling = .ok expression
        → expression.futureless
          ∧ read { known with platformTasks := true } spelling = .ok expression := by
  fun_induction read known spelling
  case case1 spelling _ element isArray ih =>
    intro expression reading
    obtain ⟨inner, reads, rfl⟩ := exists_of_map_eq_ok reading
    obtain ⟨futureless, reads'⟩ := ih reads
    exact ⟨futureless, by rw [read_of_element isArray, reads', Except.map]⟩
  case case2 spelling _ _ noArray special keyword =>
    intro expression reading
    obtain rfl := Except.ok.inj reading
    exact ⟨rfl, read_of_keyword noArray keyword⟩
  case case3 spelling _ _ noArray noKeyword declared =>
    intro expression reading
    obtain rfl := Except.ok.inj reading
    exact ⟨rfl, read_of_declared noArray noKeyword declared⟩
  case case4 platformTasks _ | case6 platformTasks => cases off.symm.trans platformTasks
  case case5 | case7 | case8 =>
    intro expression reading
    cases reading

end TypeExpression

namespace Manifest

/-- The manifest with the platform's futures. -/
def withFutures (manifest : Manifest) : Manifest :=
  { manifest with platformTasks := true }

/-- Switching the futures on leaves the declarations as they are. -/
theorem sameDeclarations_withFutures (manifest : Manifest)
    : manifest.SameDeclarations manifest.withFutures :=
  ⟨.rfl, rfl⟩

/-- A type without a problem has none where there are futures besides.
By its demands: names are demanded as before, and what could be read without futures is read in the
same way with them.
-/
theorem problem?_withFutures {known : KnownNames} (off : known.platformTasks = false)
    {declaration : TypeDecl} (fine : declaration.problem? known = none)
    : declaration.problem? { known with platformTasks := true } = none := by
  rw [TypeDecl.problem?_eq, List.findSome?_eq_none_iff] at fine ⊢
  intro demand listed
  have met := fine demand listed
  cases demand with
  | name owner given? => cases given? <;> exact met
  | type spelling =>
      rw [Demand.fault?, spellingProblem?] at met ⊢
      cases reading : TypeExpression.read known spelling.toList with
      | error error => simp [reading] at met
      | ok expression => rw [(TypeExpression.read_withFutures off _ reading).2]

/-- A manifest that passes the first phases of a build without futures passes them with futures: its
names are still distinct, and no declaration gets a problem.
-/
theorem exists_completes_withFutures {manifest : Manifest} (off : manifest.platformTasks = false)
    (completes : ∃ scope table, manifest.Completes scope table)
    : ∃ scope table, manifest.withFutures.Completes scope table := by
  obtain ⟨distinct, fine⟩ := manifest.exists_completes_iff.mp completes
  refine manifest.withFutures.exists_completes_iff.mpr ⟨distinct, ?_⟩
  intro declaration listed
  exact problem?_withFutures off (fine declaration listed)

end Manifest

------------------------------------------------------------------------------------------
-- Matching

section
variable (scope : Scope) (table : TypeTable) (scope' : Scope) (table' : TypeTable)

/-- Types that one expression without futures denotes, each in its table. -/
def MatchesFutureless (left right : TypeId) : Prop :=
  ∃ expression : TypeExpression,
    expression.futureless
    ∧ Denotes scope table expression left
    ∧ Denotes scope' table' expression right

end

section
variable {scope scope' : Scope} {table table' : TypeTable}

/-- Types that match are named alike, since the name of an expression without futures does not
depend on them.
-/
theorem MatchesFutureless.displayName_eq (furnished : Furnished scope table)
    (furnished' : Furnished scope' table') {left right : TypeId}
    (same : MatchesFutureless scope table scope' table' left right)
    : table.displayName left = table'.displayName right := by
  obtain ⟨expression, futureless, denotes, denotes'⟩ := same
  rw [furnished.displayName_eq denotes, furnished'.displayName_eq denotes',
    expression.name_eq_of_futureless futureless]

/-- The platform's future type is matched by none.
An expression with futures denotes it, and a type is denoted by one expression only.
-/
theorem MatchesFutureless.ne_wellKnownTask (furnished' : Furnished scope' table')
    {left right : TypeId} (same : MatchesFutureless scope table scope' table' left right)
    : right ≠ table'.wellKnownTask := by
  obtain ⟨expression, futureless, _, denotes⟩ := same
  rintro rfl
  obtain rfl := furnished'.expression_unique denotes .task
  cases futureless

end

namespace Manifest

section
variable {manifest : Manifest} (off : manifest.platformTasks = false) {scope scope' : Scope}
  {table table' : TypeTable} (contents : manifest.Contents scope table)
  (contents' : manifest.withFutures.Contents scope' table')
include off contents contents'

/-- What one spelling stands for without futures and with them matches: the spelling was read
without futures, so its expression mentions none.
-/
theorem spells_matchesFutureless {spelling : String} {left right : TypeId}
    (spells : Spells scope table spelling left) (spells' : Spells scope' table' spelling right)
    : MatchesFutureless scope table scope' table' left right := by
  obtain ⟨expression, reading, denotes⟩ := spells
  obtain ⟨expression', reading', denotes'⟩ := spells'
  rw [contents.known] at reading
  rw [contents'.known] at reading'
  obtain ⟨futureless, reading''⟩ := TypeExpression.read_withFutures off _ reading
  obtain rfl := Except.ok.inj (reading''.symm.trans reading')
  exact ⟨expression, futureless, denotes, denotes'⟩

/-- What one expression without futures denotes in both tables is alike.
By cases on the expression, where the future types are excluded; arrays and declared types are alike
because what they mention matches.
-/
theorem typesAlike_of_futureless {left right : TypeId}
    (same : MatchesFutureless scope table scope' table' left right)
    : TypesAlike (MatchesFutureless scope table scope' table') table table' left right := by
  have furnished := contents.furnished
  have furnished' := contents'.furnished
  have matched := same
  obtain ⟨expression, futureless, denotes, denotes'⟩ := same
  cases expression with
  | error =>
      cases denotes
      cases denotes'
      exact furnished.error_alike furnished'
  | special special =>
      cases denotes
      cases denotes'
      exact furnished.special_alike furnished' special
  | declared name =>
      cases denotes with
      | declared found =>
          cases denotes' with
          | declared found' =>
              obtain ⟨declaration, describes, describes'⟩ :=
                manifest.sameDeclarations_withFutures.described contents contents' found found'
              exact describes.alike (spells_matchesFutureless off contents contents') describes'
                matched
  | array inner =>
      cases denotes with
      | array element made =>
          cases denotes' with
          | array element' made' =>
              have elements : MatchesFutureless scope table scope' table' _ _ :=
                ⟨inner, futureless, element, element'⟩
              exact furnished.array_alike furnished' made made' elements
                (elements.displayName_eq furnished furnished')
  | task | taskAwaiter | taskOf _ | taskAwaiterOf _ => cases futureless

/-- The tables without futures and with them correspond, apart from the futures.
The matching is one-to-one, since a type is denoted by one expression and an expression denotes one
type in each table.
-/
theorem contentsMatch_withFutures
    : ContentsMatch (MatchesFutureless scope table scope' table') manifest manifest.withFutures
        scope table scope' table' where
  same := manifest.sameDeclarations_withFutures
  contents := contents
  contents' := contents'
  corresponds := {
    functional := by
      rintro left right right' ⟨expression, _, denotes, same⟩ ⟨other, _, denotes', same'⟩
      obtain rfl := contents.furnished.expression_unique denotes denotes'
      exact same.unique same'
    injective := by
      rintro left left' right ⟨expression, _, same, denotes⟩ ⟨other, _, same', denotes'⟩
      obtain rfl := contents'.furnished.expression_unique denotes denotes'
      exact same.unique same'
    alike := typesAlike_of_futureless off contents contents'
    error := ⟨.error, rfl, .error, .error⟩
    special special := ⟨.special special, rfl, .special special, .special special⟩
    array _ listed :=
      contents.furnished.specialArrays_rel contents'.furnished
        (fun {special _ _} made made' =>
          ⟨.array (.special special), rfl, .array (.special special) made,
            .array (.special special) made'⟩)
        listed
  }
  declared {name _ _} found found' := ⟨.declared name, rfl, .declared found, .declared found'⟩

end

end Manifest

end EntryPoints
