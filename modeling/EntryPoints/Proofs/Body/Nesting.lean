import EntryPoints.Synthesis.Output
import Mathlib.Algebra.Ring.Nat
import Mathlib.Data.List.Infix

/-! A balanced program of steps nests what it writes. How far in a line stands is counted from the
steps before it and before the braces around it, without the writer and its level. A step leads the
writer from the count at its place to that at the next, and so does a program, by induction.
-/

namespace EntryPoints

namespace BodyWriter

------------------------------------------------------------------------------------------
-- Balanced programs

/-- Whether a step is an indent. -/
def Step.isIndent : Step → Bool
  | .indent => true
  | _ => false

/-- Whether a step is a dedent. -/
def Step.isDedent : Step → Bool
  | .dedent => true
  | _ => false

/-- How many indents there are among some steps, those in braces apart. -/
def indents (steps : List Step) : Nat :=
  steps.countP Step.isIndent

/-- How many dedents there are among some steps, those in braces apart. -/
def dedents (steps : List Step) : Nat :=
  steps.countP Step.isDedent

/-- No prefix of the steps has more dedents than indents. -/
def Covered (steps : List Step) : Prop :=
  ∀ before, before <+: steps → dedents before ≤ indents before

/-- All indents are undone, and nothing else is. Steps in braces are a program of their own: what
counts are the indents and dedents of the program itself.
-/
structure Balanced (program : List Step) : Prop where
  covered : Covered program
  closed : dedents program = indents program

/-- The program is balanced, and so are the programs in its braces, to any depth. -/
inductive WellNested : List Step → Prop where
  | intro {program : List Step} (balanced : Balanced program)
      (inner : ∀ contents, .braced contents ∈ program → WellNested contents)
    : WellNested program

/-- A program that nests is balanced itself, apart from what is in its braces. -/
theorem WellNested.balanced {program : List Step} : WellNested program → Balanced program
  | .intro balanced _ => balanced

instance (steps : List Step) : Decidable (Covered steps) :=
  decidable_of_iff (∀ before ∈ steps.inits, dedents before ≤ indents before)
    (by simp only [List.mem_inits, Covered])

instance (program : List Step) : Decidable (Balanced program) :=
  decidable_of_iff (Covered program ∧ dedents program = indents program)
    ⟨fun h => ⟨h.1, h.2⟩, fun h => ⟨h.covered, h.closed⟩⟩

/-- The dedents of a program's first steps are covered if those of the whole program are. -/
theorem Covered.of_append {steps more : List Step} (covered : Covered (steps ++ more))
    : Covered steps :=
  fun _ start => covered _ (start.trans (List.prefix_append ..))

/-- Indents are counted alike in two programs and in the two of them in a row. -/
@[simp]
theorem indents_append (first second : List Step)
    : indents (first ++ second) = indents first + indents second :=
  List.countP_append

/-- So are dedents. -/
@[simp]
theorem dedents_append (first second : List Step)
    : dedents (first ++ second) = dedents first + dedents second :=
  List.countP_append

------------------------------------------------------------------------------------------
-- Where a step stands, and how deep

/-- Where a step stands: the steps before it in its program, and the steps before the braces around
it in each of the programs around, from the inside out.
-/
structure Place where
  before : List Step := []
  around : List (List Step) := []

namespace Place

/-- The place behind some more steps of the same program. -/
def after (place : Place) (steps : List Step) : Place :=
  { place with before := place.before ++ steps }

/-- The first place in the braces that stand here. -/
def inside (place : Place) : Place :=
  ⟨[], place.before :: place.around⟩

/-- The indents that are open among the steps before a place and before the braces around it. Where
these are covered, dedents take off no more than there is.
-/
def openIndents (place : Place) : Nat :=
  ((place.before :: place.around).map (fun steps => indents steps - dedents steps)).sum

/-- The braces that are open around a place. -/
def openBraces (place : Place) : Nat :=
  place.around.length

/-- All levels that are open at a place, by indents or by braces. -/
def depth (place : Place) : Nat :=
  place.openIndents + place.openBraces

@[simp]
theorem before_after (place : Place) (steps : List Step)
    : (place.after steps).before = place.before ++ steps :=
  rfl

@[simp]
theorem around_after (place : Place) (steps : List Step)
    : (place.after steps).around = place.around :=
  rfl

@[simp]
theorem after_nil (place : Place) : place.after [] = place := by
  simp [after]

@[simp]
theorem after_after (place : Place) (first second : List Step)
    : (place.after first).after second = place.after (first ++ second) := by
  simp [after]

/-- In braces one level more is open, since they start without any indents of their own. -/
@[simp]
theorem depth_inside (place : Place) : place.inside.depth = place.depth + 1 := by
  simp only [depth, openIndents, openBraces, inside, indents, dedents, List.countP_nil,
    List.map_cons, List.sum_cons, List.length_cons]
  omega

/-- From place to place in a program only the indents of the program itself change.
What is open around it is the depth at its first place.
-/
theorem depth_eq (place : Place)
    : place.depth = indents place.before - dedents place.before + depth ⟨[], place.around⟩ := by
  simp only [depth, openIndents, openBraces, indents, dedents, List.countP_nil, List.map_cons,
    List.sum_cons]
  omega

/-- A step that neither indents nor dedents leaves the depth as it is. -/
theorem depth_after_of_neither (place : Place) {step : Step} (noIndent : step.isIndent = false)
    (noDedent : step.isDedent = false)
    : (place.after [step]).depth = place.depth := by
  have indent : indents [step] = 0 := by simp [indents, noIndent]
  have dedent : dedents [step] = 0 := by simp [dedents, noDedent]
  rw [depth_eq, depth_eq place, before_after, around_after, indents_append, dedents_append]
  omega

/-- Behind an indent it is one level deeper, where all dedents before were covered. -/
theorem depth_after_indent {place : Place} (covered : Covered place.before)
    : (place.after [.indent]).depth = place.depth + 1 := by
  -- Behind more dedents than indents the difference would stay at zero.
  have enough := covered _ List.prefix_rfl
  have indent : indents [.indent] = 1 := rfl
  have dedent : dedents [.indent] = 0 := rfl
  rw [depth_eq, depth_eq place, before_after, around_after, indents_append, dedents_append]
  omega

/-- Behind a dedent it is one level less deep, where this dedent is covered too. -/
theorem depth_after_dedent {place : Place} (covered : Covered (place.before ++ [.dedent]))
    : (place.after [.dedent]).depth = place.depth - 1 := by
  -- There is an indent of the program itself to take back, none of those around it.
  have enough := covered _ List.prefix_rfl
  have indent : indents [.dedent] = 0 := rfl
  have dedent : dedents [.dedent] = 1 := rfl
  rw [indents_append, dedents_append] at enough
  rw [depth_eq, depth_eq place, before_after, around_after, indents_append, dedents_append]
  omega

/-- All that is around a place is open at it, so an inner place is at least as deep as what both
have around them.
-/
theorem depth_le_of_around_suffix {place inner : Place} (around : place.around <:+ inner.around)
    : depth ⟨[], place.around⟩ ≤ inner.depth := by
  obtain ⟨nearer, split⟩ := around
  obtain ⟨before, around⟩ := inner
  subst split
  simp only [depth, openIndents, openBraces, indents, dedents, List.countP_nil, List.map_cons,
    List.map_append, List.sum_cons, List.sum_append, List.length_append]
  omega

/-- A balanced program ends as deep as it begins: it takes all its indents back. -/
theorem depth_of_balanced {program : List Step} (balanced : Balanced program)
    (around : List (List Step))
    : depth ⟨program, around⟩ = depth ⟨[], around⟩ := by
  rw [depth_eq, balanced.closed, Nat.sub_self, Nat.zero_add]

end Place

/-- The step stands at that place, in any number of braces, among steps that stand from `start` on.
-/
inductive StandsAt (start : Place) (steps : List Step) : Place → Step → Prop where
  | here {before after : List Step} {step : Step} (split : steps = before ++ step :: after)
    : StandsAt start steps (start.after before) step
  | inside {place : Place} {contents before after : List Step} {step : Step}
      (outer : StandsAt start steps place (.braced contents))
      (split : contents = before ++ step :: after)
    : StandsAt start steps (place.inside.after before) step

section
variable {start place : Place} {steps : List Step} {step : Step}

/-- What stands at or in the first step stands among all of them.
By induction on the way to it, which only has more steps behind the first one.
-/
theorem StandsAt.of_first {first : Step} (stands : StandsAt start [first] place step)
    : StandsAt start (first :: steps) place step := by
  induction stands with
  | @here before after step split =>
      have longer : first :: steps = before ++ step :: (after ++ steps) := by
        simpa using congrArg (· ++ steps) split
      exact .here longer
  | inside _ split ih => exact .inside ih split

/-- What stands behind the first step stands among all of them, by induction on the way to it. -/
theorem StandsAt.of_rest {first : Step} (stands : StandsAt (start.after [first]) steps place step)
    : StandsAt start (first :: steps) place step := by
  induction stands with
  | @here before after step split =>
      rw [Place.after_after]
      exact .here (congrArg (first :: ·) split)
  | inside _ split ih => exact .inside ih split

/-- A single step stands where it starts. -/
theorem StandsAt.self (start : Place) (step : Step) : StandsAt start [step] start step := by
  have here : StandsAt start [step] (start.after []) step := .here rfl
  simpa using here

/-- What stands in braces stands among the steps around the braces.
By induction on the way from the braces to it, to which the one to the braces is put in front.
-/
theorem StandsAt.out_of_braces {inner : Place} {contents : List Step}
    (stands : StandsAt inner.inside contents place step)
    (outer : StandsAt start steps inner (.braced contents))
    : StandsAt start steps place step := by
  induction stands with
  | here split => exact .inside outer split
  | inside _ split ih => exact .inside ih split

/-- What is around the steps is around all that stands among them, by induction on the way to it:
each pair of braces puts one more program in front of what is around.
-/
theorem StandsAt.around_suffix (stands : StandsAt start steps place step)
    : start.around <:+ place.around := by
  induction stands with
  | here => exact List.suffix_rfl
  | inside _ _ ih => exact ih.trans (List.suffix_cons ..)

end

------------------------------------------------------------------------------------------
-- What is written where

/-- A line of a program at its place. -/
structure WrittenLine where
  place : Place
  line : String

/-- Four spaces for each indent and each brace that is open at its place, then the line itself. -/
def WrittenLine.text (written : WrittenLine) : String :=
  String.ofList (List.replicate (4 * written.place.depth) ' ') ++ written.line ++ "\n"

/-- The texts of some lines, one after another. -/
def textOfWritten (lines : List WrittenLine) : String :=
  String.join (lines.map WrittenLine.text)

/-- The lines that a step writes itself, besides those in its braces. -/
def Step.ownLines : Step → List String
  | .line own => [own]
  | .indent => []
  | .dedent => []
  | .braced _ => ["\x7b", "\x7d"]

mutual
/-- The lines that a step writes in its place, in order. -/
def Step.written (place : Place) : Step → List WrittenLine
  | .line own => [⟨place, own⟩]
  | .indent => []
  | .dedent => []
  | .braced contents =>
      ⟨place, "\x7b"⟩ :: writtenFrom place.inside contents ++ [⟨place, "\x7d"⟩]

/-- The lines that the steps from a place on write, in order. -/
def writtenFrom (place : Place) : List Step → List WrittenLine
  | [] => []
  | step :: rest => step.written place ++ writtenFrom (place.after [step]) rest
end

section
variable {start place : Place} {steps : List Step} {step : Step}

/-- What two programs in a row write is what the first one writes, and then the second one from
where the first one ends; by induction on the first one.
-/
theorem writtenFrom_append (place : Place) (first second : List Step)
    : writtenFrom place (first ++ second)
      = writtenFrom place first ++ writtenFrom (place.after first) second := by
  induction first generalizing place with
  | nil => simp [writtenFrom]
  | cons step rest ih => simp [writtenFrom, ih]

/-- What a step writes stands between what the steps before and behind it write. -/
theorem written_isInfix_writtenFrom (before after : List Step)
    : step.written (place.after before) <:+: writtenFrom place (before ++ step :: after) := by
  rw [writtenFrom_append, writtenFrom]
  exact ⟨_, _, List.append_assoc ..⟩

/-- What a step writes is one stretch of all that is written.
By induction on the braces around the step: it is a stretch of what is in the innermost ones, and
that is one of what these braces write themselves.
-/
theorem StandsAt.written_isInfix (stands : StandsAt start steps place step)
    : step.written place <:+: writtenFrom start steps := by
  induction stands with
  | here split => exact split ▸ written_isInfix_writtenFrom ..
  | @inside place contents before after step _ split ih =>
      have inBraces : writtenFrom place.inside contents <:+: (Step.braced contents).written place :=
        ⟨[_], [_], rfl⟩
      exact ((split ▸ written_isInfix_writtenFrom ..).trans inBraces).trans ih

mutual
/-- Whatever a step writes is the step's own or that of a step in its braces.
By cases on the step, together with the next lemma for what is in its braces.
-/
theorem Step.stands_of_mem_written (step : Step) {start : Place} {written : WrittenLine}
    (member : written ∈ step.written start)
    : ∃ writer, StandsAt start [step] written.place writer ∧ written.line ∈ writer.ownLines := by
  have own := StandsAt.self start step
  cases step with
  | line =>
      obtain rfl := List.mem_singleton.mp member
      exact ⟨_, own, List.mem_singleton_self _⟩
  | indent => cases member
  | dedent => cases member
  | braced contents =>
      simp only [Step.written, List.cons_append, List.mem_cons, List.mem_append,
        List.not_mem_nil, or_false] at member
      rcases member with rfl | inBraces | rfl
      · exact ⟨_, own, List.mem_cons_self⟩
      · obtain ⟨writer, stands, writes⟩ := stands_of_mem_writtenFrom contents inBraces
        exact ⟨writer, stands.out_of_braces own, writes⟩
      · exact ⟨_, own, List.mem_cons_of_mem _ List.mem_cons_self⟩

/-- Whatever some steps write is a step's own line.
By recursion on the steps: the first one or one of the others writes it.
-/
theorem stands_of_mem_writtenFrom (steps : List Step) {start : Place} {written : WrittenLine}
    (member : written ∈ writtenFrom start steps)
    : ∃ writer, StandsAt start steps written.place writer ∧ written.line ∈ writer.ownLines := by
  cases steps with
  | nil => cases member
  | cons step rest =>
      rw [writtenFrom, List.mem_append] at member
      rcases member with first | later
      · obtain ⟨writer, stands, writes⟩ := step.stands_of_mem_written first
        exact ⟨writer, stands.of_first, writes⟩
      · obtain ⟨writer, stands, writes⟩ := stands_of_mem_writtenFrom rest later
        exact ⟨writer, stands.of_rest, writes⟩
end

/-- A step writes its own lines where it stands: its text, or the two braces. -/
theorem mem_written_of_mem_ownLines {line : String} (own : line ∈ step.ownLines)
    : ⟨place, line⟩ ∈ step.written place := by
  cases step with
  | line => simpa [Step.ownLines, Step.written] using own
  | indent => cases own
  | dedent => cases own
  | braced contents =>
      rcases List.mem_pair.mp own with rfl | rfl <;> simp [Step.written]

/-- The lines that are written are the own lines of all the steps that stand there.
The one direction follows the writing down into the braces, and the other one finds the stretch that
a step writes.
-/
theorem mem_writtenFrom_iff {written : WrittenLine}
    : written ∈ writtenFrom start steps
      ↔ ∃ writer, StandsAt start steps written.place writer ∧ written.line ∈ writer.ownLines := by
  constructor
  · exact stands_of_mem_writtenFrom steps
  · rintro ⟨writer, stands, own⟩
    exact stands.written_isInfix.subset (mem_written_of_mem_ownLines own)

/-- All that is written in braces is deeper than the braces, which are around it. -/
theorem depth_lt_of_mem_writtenFrom_inside {written : WrittenLine}
    (member : written ∈ writtenFrom place.inside steps)
    : place.depth < written.place.depth := by
  obtain ⟨_, stands, _⟩ := stands_of_mem_writtenFrom steps member
  calc place.depth
    _ < place.inside.depth := by simp
    _ ≤ written.place.depth := Place.depth_le_of_around_suffix stands.around_suffix

end

------------------------------------------------------------------------------------------
-- The writer keeps to the depth

/-- Lines that are written one after another have their texts one after another. -/
@[simp]
theorem textOfWritten_append (first second : List WrittenLine)
    : textOfWritten (first ++ second) = textOfWritten first ++ textOfWritten second := by
  simp [textOfWritten]

/-- Indenting by a level is writing four spaces, by induction on the level. -/
theorem indented_eq (level : Nat) (line : String)
    : indented level line = String.ofList (List.replicate (4 * level) ' ') ++ line ++ "\n" := by
  have spaces
      : String.join (List.replicate level indentation)
        = String.ofList (List.replicate (4 * level) ' ') := by
    induction level with
    | zero => rfl
    | succ level ih =>
        rw [List.replicate_succ, String.join_cons, ih, Nat.mul_succ, Nat.add_comm,
          ← List.replicate_append_replicate, String.ofList_append]
        rfl
  rw [indented, spaces]

/-- A writer that gets to a place as it should. -/
def Place.writer (place : Place) (text : String) : BodyWriter :=
  ⟨text, place.depth⟩

/-- A writer that gets to the place and lets the steps drive it writes their lines, and is then as
it should be behind them.
-/
def KeepsDepth (place : Place) (steps : List Step) : Prop :=
  ∀ text,
    (place.writer text).performAll steps
    = (place.after steps).writer (text ++ textOfWritten (writtenFrom place steps))

section
variable {place : Place}

/-- The writer is driven by two programs in a row one after the other, by induction on the first
one.
-/
theorem performAll_append (writer : BodyWriter) (first second : List Step)
    : writer.performAll (first ++ second) = (writer.performAll first).performAll second := by
  induction first generalizing writer with
  | nil => rfl
  | cons step rest ih => exact ih (writer.perform step)

/-- Where both of two programs keep to the depth, so do the two in a row: the second one starts
where the first one leaves the writer.
-/
theorem KeepsDepth.append {first second : List Step} (keeps : KeepsDepth place first)
    (keeps' : KeepsDepth (place.after first) second)
    : KeepsDepth place (first ++ second) := by
  intro text
  rw [performAll_append, keeps, keeps', Place.after_after, writtenFrom_append,
    textOfWritten_append, String.append_assoc]

/-- Without steps nothing is written, and the writer stays where it is. -/
theorem keepsDepth_nil : KeepsDepth place [] := by
  intro text
  simp [performAll, writtenFrom, textOfWritten]

/-- A line is written as far in as the writer is, which stays there. -/
theorem keepsDepth_line (own : String) : KeepsDepth place [.line own] := by
  intro text
  have same : (place.after [.line own]).depth = place.depth :=
    place.depth_after_of_neither rfl rfl
  simp [performAll, perform, Place.writer, line, writtenFrom, Step.written, textOfWritten,
    WrittenLine.text, indented_eq, same]

/-- An indent writes nothing and takes the writer one level in. -/
theorem keepsDepth_indent (covered : Covered place.before) : KeepsDepth place [.indent] := by
  intro text
  simp [performAll, perform, Place.writer, indent, writtenFrom, Step.written, textOfWritten,
    Place.depth_after_indent covered]

/-- A dedent that is covered writes nothing and takes the writer one level out. -/
theorem keepsDepth_dedent (covered : Covered (place.before ++ [.dedent]))
    : KeepsDepth place [.dedent] := by
  intro text
  simp [performAll, perform, Place.writer, dedent, writtenFrom, Step.written, textOfWritten,
    Place.depth_after_dedent covered]

/-- Braces keep to the depth if what is in them does and is balanced: it starts one level deeper
than the braces and ends there, so the closing brace comes to stand as far in as the opening one.
-/
theorem keepsDepth_braced {contents : List Step} (balanced : Balanced contents)
    (keeps : KeepsDepth place.inside contents)
    : KeepsDepth place [.braced contents] := by
  intro text
  have same : (place.after [.braced contents]).depth = place.depth :=
    place.depth_after_of_neither rfl rfl
  have back : (place.inside.after contents).depth = place.depth + 1 := by
    rw [← Place.depth_inside]
    exact Place.depth_of_balanced balanced _
  have opening
      : ((place.writer text).line "\x7b").indent
        = place.inside.writer (text ++ WrittenLine.text ⟨place, "\x7b"⟩) := by
    simp [Place.writer, line, indent, indented_eq, WrittenLine.text]
  have closing (inner : String)
      : ((place.inside.after contents).writer inner).dedent.line "\x7d"
        = (place.after [.braced contents]).writer
            (inner ++ WrittenLine.text ⟨place, "\x7d"⟩) := by
    simp [Place.writer, line, dedent, indented_eq, WrittenLine.text, back, same]
  calc (place.writer text).performAll [.braced contents]
    _ = ((((place.writer text).line "\x7b").indent.performAll contents).dedent).line "\x7d" := rfl
    _ = (place.after [.braced contents]).writer
          (text ++ WrittenLine.text ⟨place, "\x7b"⟩
            ++ textOfWritten (writtenFrom place.inside contents)
            ++ WrittenLine.text ⟨place, "\x7d"⟩) := by
      rw [opening, keeps, closing]
    _ = (place.after [.braced contents]).writer
          (text ++ textOfWritten (writtenFrom place [.braced contents])) := by
      simp [writtenFrom, Step.written, textOfWritten, String.append_assoc]

/-- A step keeps to the depth where dedents are covered and what is in braces keeps to it; by cases
on the step.
-/
theorem keepsDepth_step {step : Step} (covered : Covered (place.before ++ [step]))
    (inner
      : ∀ contents, .braced contents = step → Balanced contents ∧ KeepsDepth place.inside contents)
    : KeepsDepth place [step] := by
  cases step with
  | line own => exact keepsDepth_line own
  | indent => exact keepsDepth_indent covered.of_append
  | dedent => exact keepsDepth_dedent covered
  | braced contents =>
      obtain ⟨balanced, keeps⟩ := inner contents rfl
      exact keepsDepth_braced balanced keeps

/-- What a step keeps to, all the steps keep to.
By induction on the steps that are left: the dedents of each first part of the program are covered,
as those of the whole program are.
-/
theorem keepsDepth_of_covered {steps : List Step} (covered : Covered (place.before ++ steps))
    (inner
      : ∀ contents,
          .braced contents ∈ steps
          → Balanced contents ∧ ∀ place : Place, KeepsDepth place.inside contents)
    : KeepsDepth place steps := by
  induction steps generalizing place with
  | nil => exact keepsDepth_nil
  | cons step rest ih =>
      have later : Covered ((place.before ++ [step]) ++ rest) := by simpa using covered
      have first : KeepsDepth place [step] := by
        refine keepsDepth_step later.of_append ?_
        rintro contents rfl
        obtain ⟨balanced, keeps⟩ := inner contents List.mem_cons_self
        exact ⟨balanced, keeps place⟩
      exact first.append (ih later fun contents braced => inner contents (.tail _ braced))

/-- A program keeps to the depth wherever its first place is.
By induction on the programs in its braces, of which each is balanced and keeps to the depth within
whatever is around.
-/
theorem WellNested.keepsDepth {program : List Step} (nested : WellNested program)
    (around : List (List Step))
    : KeepsDepth ⟨[], around⟩ program := by
  induction nested generalizing around with
  | @intro program balanced inner ih =>
      refine keepsDepth_of_covered balanced.covered ?_
      intro contents braced
      exact ⟨(inner contents braced).balanced, fun place => ih contents braced _⟩

end

------------------------------------------------------------------------------------------
-- Nesting

/-- What a program of steps makes of a fresh writer. The text is made up of the lines and braces of
the program, each as far in as the indents and braces open around it say. The braces of a step are
equally far in and all between them is further in, and the writer ends at the level at which it
started.
-/
structure Nests (program : List Step) : Prop where
  text : (performAll {} program).text = textOfWritten (writtenFrom {} program)
  lines
    : ∀ written,
        written ∈ writtenFrom {} program
        ↔ ∃ step, StandsAt {} program written.place step ∧ written.line ∈ step.ownLines
  braces
    : ∀ {place contents},
        StandsAt {} program place (.braced contents)
        → (∃ before after,
            writtenFrom {} program
              = before
                ++ (⟨place, "\x7b"⟩ :: writtenFrom place.inside contents ++ [⟨place, "\x7d"⟩])
                ++ after)
          ∧ ∀ written ∈ writtenFrom place.inside contents, place.depth < written.place.depth
  level : (performAll {} program).level = level {}

/-- A fresh writer that a nesting program drives writes the lines of the program, and is at its end
then.
-/
theorem WellNested.performAll_fresh {program : List Step} (nested : WellNested program)
    : performAll {} program
      = Place.writer ⟨program, []⟩ (textOfWritten (writtenFrom {} program)) := by
  have run := nested.keepsDepth [] ""
  rwa [String.empty_append] at run

/-- A program nests when it and all the programs in its braces are balanced.
The text and the level are those that the writer keeps to, and the lines and braces are found by the
places where the steps stand.
-/
theorem WellNested.nests {program : List Step} (nested : WellNested program) : Nests program where
  text := congrArg BodyWriter.text nested.performAll_fresh
  lines _ := mem_writtenFrom_iff
  braces {place contents} stands := by
    obtain ⟨before, after, split⟩ := stands.written_isInfix
    exact ⟨⟨before, after, split.symm⟩, fun _ => depth_lt_of_mem_writtenFrom_inside⟩
  level := by
    calc (performAll {} program).level
      _ = Place.depth ⟨program, []⟩ := congrArg BodyWriter.level nested.performAll_fresh
      _ = Place.depth {} := Place.depth_of_balanced nested.balanced []
      _ = level {} := rfl

/-- Indented braces around a line, another indent and empty braces. -/
def switchWithBlock : List Step :=
  [
    .line "switch",
    .indent,
    .braced [.line "case 0:", .indent, .line "return;", .braced [], .dedent],
    .dedent
  ]

/-- Each indent and each brace around a line puts it four spaces further in. -/
theorem switchWithBlock_nests
    : WellNested switchWithBlock
      ∧ Nests switchWithBlock
      ∧ (performAll {} switchWithBlock).text
        = "switch\n    \x7b\n        case 0:\n            return;\n            \x7b\n"
          ++ "            \x7d\n    \x7d\n" := by
  have nested : WellNested switchWithBlock := by
    refine .intro (by decide) (fun contents braces => ?_)
    obtain rfl : contents = [.line "case 0:", .indent, .line "return;", .braced [], .dedent] := by
      simpa [switchWithBlock] using braces
    refine .intro (by decide) (fun contents braces => ?_)
    obtain rfl : contents = [] := by simpa using braces
    exact .intro (by decide) (by simp)
  exact ⟨nested, nested.nests, by decide⟩

------------------------------------------------------------------------------------------
-- What is printed for an entry point

/-- A program without indents and dedents of its own is balanced. -/
theorem balanced_of_neither {program : List Step} (noIndents : indents program = 0)
    (noDedents : dedents program = 0)
    : Balanced program where
  covered before start := by
    have fewer : dedents before ≤ dedents program := start.sublist.countP_le
    omega
  closed := noDedents.trans noIndents.symm

/-- Writing lines is a program of steps, one for each line; by induction on them. -/
theorem lines_eq_performAll (writer : BodyWriter) (lines : List String)
    : writer.lines lines = writer.performAll (lines.map .line) := by
  induction lines generalizing writer with
  | nil => rfl
  | cons first rest ih => exact ih (writer.line first)

/-- Lines nest, as they have neither braces nor indents. -/
theorem wellNested_lines (lines : List String) : WellNested (lines.map .line) := by
  refine .intro (balanced_of_neither ?_ ?_) ?_
  · simp [indents, Step.isIndent]
  · simp [dedents, Step.isDedent]
  · simp

end BodyWriter

namespace EntryPointOutput

/-- The steps that print an output: its signature, then the lines of its body in braces. -/
def steps (table : TypeTable) (output : EntryPointOutput) : List BodyWriter.Step :=
  [
    .line (output.entryPoint.view.signature table),
    .braced ((output.body.node.lines table).map .line)
  ]

/-- What prints an entry point nests: it has no indents of its own, and only lines in its braces. -/
theorem wellNested_steps (table : TypeTable) (output : EntryPointOutput)
    : BodyWriter.WellNested (output.steps table) := by
  refine .intro (BodyWriter.balanced_of_neither rfl rfl) ?_
  intro contents braces
  obtain rfl : contents = (output.body.node.lines table).map .line := by
    simpa [steps] using braces
  exact BodyWriter.wellNested_lines _

/-- An entry point is printed by a program of steps, which makes all that holds of these programs
hold of it.
-/
theorem render_eq_performAll (table : TypeTable) (output : EntryPointOutput)
    : output.render table = (BodyWriter.performAll {} (output.steps table)).text := by
  simp only [render, Block.write, steps, BodyWriter.performAll, BodyWriter.perform,
    BodyWriter.lines_eq_performAll]

end EntryPointOutput

end EntryPoints
