/-!
# Json.Basic

JSON values. Numbers come in two kinds: integers, which a reader gives for a literal without a
fraction or exponent and which are written in full, and doubles, written with their shortest
digits. Objects keep their fields in order, so a value written out lists its fields as they were
built or read.
-/

namespace BrowserSessions

/-- A JSON value. -/
inductive Json where
  | null
  | bool (b : Bool)
  | int (n : Int)
  | float (x : Float)
  | str (s : String)
  | arr (items : List Json)
  | obj (fields : List (String × Json))
  deriving Inhabited

namespace Json

/-- The value of a field of an object; the last of equal keys wins, as when an object is read
    into a map. -/
def get? (j : Json) (key : String) : Option Json :=
  match j with
  | .obj fields => (fields.reverse.find? (·.1 == key)).map (·.2)
  | _ => none

/-- Whether an object has a field. -/
def has (j : Json) (key : String) : Bool := (j.get? key).isSome

/-- A string field, or `""`. -/
def getStr (j : Json) (key : String) : String :=
  match j.get? key with
  | some (.str s) => s
  | _ => ""

/-- A boolean field, or `false`. -/
def getBool (j : Json) (key : String) : Bool :=
  match j.get? key with
  | some (.bool b) => b
  | _ => false

/-- An integer field, or `0`; a double with an integral value counts. -/
def getInt (j : Json) (key : String) : Int :=
  match j.get? key with
  | some (.int n) => n
  | some (.float x) => if x == x.floor && x.abs < 9.2e18 then
      (if x < 0 then -((-x).toUInt64.toNat : Int) else (x.toUInt64.toNat : Int)) else 0
  | _ => 0

/-- A list field, or `[]`. -/
def getArr (j : Json) (key : String) : List Json :=
  match j.get? key with
  | some (.arr xs) => xs
  | _ => []

/-- The fields of an object, or none. -/
def fields (j : Json) : List (String × Json) :=
  match j with
  | .obj fs => fs
  | _ => []

/-- Sets a field of an object, replacing an existing one in place or adding it at the end. -/
def set (j : Json) (key : String) (v : Json) : Json :=
  match j with
  | .obj fs =>
    if fs.any (·.1 == key) then .obj (fs.map fun (k, w) => if k == key then (k, v) else (k, w))
    else .obj (fs ++ [(key, v)])
  | _ => .obj [(key, v)]

/-- Removes a field of an object. -/
def erase (j : Json) (key : String) : Json :=
  match j with
  | .obj fs => .obj (fs.filter (·.1 != key))
  | other => other

/-- A list of strings. -/
def strs (xs : List String) : Json := .arr (xs.map .str)

/-- An optional value, `null` when absent. -/
def opt (f : α → Json) : Option α → Json
  | some a => f a
  | none => .null

/-- A field's value is smaller than the object's field list. -/
theorem sizeOf_snd_lt_of_mem {fs : List (String × Json)} {kv : String × Json} (h : kv ∈ fs) :
    sizeOf kv.2 < 1 + sizeOf fs := by
  have h1 := List.sizeOf_lt_of_mem h
  cases kv
  simp only [Prod.mk.sizeOf_spec] at h1 ⊢
  omega

/-- An item's value is smaller than the array's item list. -/
theorem sizeOf_lt_of_mem_items {xs : List Json} {x : Json} (h : x ∈ xs) :
    sizeOf x < 1 + sizeOf xs := by
  have h1 := List.sizeOf_lt_of_mem h
  omega

/-- Keeps only the last field of each key, as a map filled from the fields in order does. -/
def lastFieldWins (fs : List (String × Json)) : List (String × Json) :=
  fs.reverse.foldl (fun acc kv => if acc.any (·.1 == kv.1) then acc else kv :: acc) []

/-- The value as a reader into untyped values gives it: every number a double, and of the fields
    of an object with one key only the last. -/
def loosen : Json → Json
  | .int n => .float (Float.ofInt n)
  | .arr xs => .arr (xs.map loosen)
  | .obj fs => .obj (lastFieldWins (fs.attach.map fun ⟨kv, _⟩ => (kv.1, loosen kv.2)))
  | j => j
decreasing_by
  all_goals simp_wf
  all_goals first
    | exact sizeOf_snd_lt_of_mem ‹_›
    | exact sizeOf_lt_of_mem_items ‹_›

/-- Whether every number in a value is finite. -/
def allFinite : Json → Bool
  | .float x => !x.isInf
  | .arr xs => xs.attach.all fun ⟨x, _⟩ => allFinite x
  | .obj fs => fs.attach.all fun ⟨kv, _⟩ => allFinite kv.2
  | _ => true
decreasing_by
  all_goals simp_wf
  all_goals first
    | exact sizeOf_snd_lt_of_mem ‹_›
    | exact sizeOf_lt_of_mem_items ‹_›

end Json

end BrowserSessions
