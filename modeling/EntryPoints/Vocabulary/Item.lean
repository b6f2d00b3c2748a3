/-! The metadata that every entry of the compiler's vocabulary carries. -/

namespace EntryPoints.Vocabulary

/-- How settled an item is. -/
inductive Stability where
  | stable
  | draft
  | deprecated
  deriving DecidableEq, Repr, Inhabited

/-- An item of the vocabulary: its identity, its spellings and what it stands for. -/
structure Item (Id : Type) where
  id : Id
  canonical : String
  aliases : List String := []
  description : String
  stability : Stability := .stable
  deriving DecidableEq, Repr

/-- An item answers to its canonical spelling and to its aliases, and to nothing else. -/
def Item.accepts {Id : Type} (item : Item Id) (name : String) : Bool :=
  item.canonical == name || item.aliases.contains name

end EntryPoints.Vocabulary
