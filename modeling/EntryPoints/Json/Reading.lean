import EntryPoints.Json.Value

/-! What can be read of a text that may stop being JSON somewhere. -/

namespace EntryPoints.Json

/-- The two ways in which a text fails to be JSON. -/
inductive Fault where
  | endOfText
  | malformed
  deriving DecidableEq, Repr, Inhabited

/-- What stands where a value should. -/
inductive Flaw where
  /-- Nothing: the text ends. -/
  | nothing
  /-- A string that is broken off or malformed. -/
  | string (fault : Fault)
  /-- A number or a word that is broken off or malformed. -/
  | scalar (fault : Fault)
  /-- A character that begins no value. -/
  | unexpected
  /-- An array or object within too many others. -/
  | tooDeep
  /-- No colon before the value. -/
  | colon (fault : Fault)
  deriving DecidableEq, Repr, Inhabited

def Flaw.fault : Flaw → Fault
  | nothing => .endOfText
  | string fault => fault
  | scalar fault => fault
  | unexpected => .malformed
  | tooDeep => .malformed
  | colon fault => fault

/-- What stands where the key of a field should. -/
inductive KeyFlaw where
  /-- Nothing: the text ends. -/
  | nothing
  | string (fault : Fault)
  /-- Something that is no string. -/
  | other
  deriving DecidableEq, Repr, Inhabited

def KeyFlaw.fault : KeyFlaw → Fault
  | nothing => .endOfText
  | string fault => fault
  | other => .malformed

/-- How an array or object comes to its end. -/
inductive Ending where
  | closed
  /-- The text ends after a part. -/
  | unclosed
  /-- Neither a comma nor the closing bracket follows a part. -/
  | unseparated
  /-- A key should follow and does not. -/
  | noKey (flaw : KeyFlaw)
  /-- The last part is not whole itself. -/
  | within
  deriving DecidableEq, Repr, Inhabited

/-- The fault of an ending, if the parts before it have none. -/
def Ending.fault? : Ending → Option Fault
  | closed => none
  | unclosed => some .endOfText
  | unseparated => some .malformed
  | noKey flaw => some flaw.fault
  | within => some .malformed

/-- A value, or the beginning of one. -/
inductive Reading where
  | scalar (scalar : Scalar)
  | array (items : List Reading) (ending : Ending)
  | object (fields : List (String × Reading)) (ending : Ending)
  | flaw (flaw : Flaw)
  deriving Repr, Inhabited

/-- The fault at the end of a container becomes its fault. -/
def Ending.check (ending : Ending) : Except Fault Unit :=
  match ending.fault? with
  | none => .ok ()
  | some fault => .error fault

mutual
/-- The whole value, or the first fault in the order of reading. -/
def Reading.value : Reading → Except Fault Value
  | .scalar content => .ok (.scalar content)
  | .array items ending =>
      match Reading.values items with
      | .error fault => .error fault
      | .ok values =>
          match ending.check with
          | .error fault => .error fault
          | .ok () => .ok (.array values)
  | .object fields ending =>
      match Reading.fieldValues fields with
      | .error fault => .error fault
      | .ok values =>
          match ending.check with
          | .error fault => .error fault
          | .ok () => .ok (.object values)
  | .flaw found => .error found.fault

def Reading.values : List Reading → Except Fault (List Value)
  | [] => .ok []
  | reading :: rest =>
      match Reading.value reading with
      | .error fault => .error fault
      | .ok value =>
          match Reading.values rest with
          | .error fault => .error fault
          | .ok values => .ok (value :: values)

def Reading.fieldValues : List (String × Reading) → Except Fault (List (String × Value))
  | [] => .ok []
  | (key, reading) :: rest =>
      match Reading.value reading with
      | .error fault => .error fault
      | .ok value =>
          match Reading.fieldValues rest with
          | .error fault => .error fault
          | .ok values => .ok ((key, value) :: values)
end

mutual
/-- A whole value, read without a fault. -/
def Reading.ofValue : Value → Reading
  | .scalar content => .scalar content
  | .array items => .array (Reading.ofValues items) .closed
  | .object fields => .object (Reading.ofFields fields) .closed

def Reading.ofValues : List Value → List Reading
  | [] => []
  | value :: rest => Reading.ofValue value :: Reading.ofValues rest

def Reading.ofFields : List (String × Value) → List (String × Reading)
  | [] => []
  | (key, value) :: rest => (key, Reading.ofValue value) :: Reading.ofFields rest
end

end EntryPoints.Json
