/-!
# JSON values

The value type of the data format in which host metadata arrives and stub models are dumped.

Integers and floating point numbers are different values: `1` and `1.0` are read as `integer 1` and
`float 1.0` and keep their own texts. An object is the list of its members in the order in which
they stand in the text, so a text with two equal keys has a value too. `Json.settled` is the view in
which keys are unique: the last member of a key gives the value, the first one the place.
-/

namespace TypedHub

/-- A number, as an integer wherever its text is one that fits 64 bits. -/
inductive Json.Number where
  | integer (value : Int)
  | float (value : Float)
  deriving DecidableEq

/-- A JSON value. -/
inductive Json where
  | null
  | bool (value : Bool)
  | number (value : Json.Number)
  | string (value : String)
  | array (items : List Json)
  | object (members : List (String × Json))

namespace Json

instance : Inhabited Json := ⟨null⟩

/-! ## Members -/

/-- Gives `key` the value `value`: at the place of the member that has the key, else at the end. -/
def putMember (members : List (String × α)) (key : String) (value : α) : List (String × α) :=
  match members with
  | [] => [(key, value)]
  | (k, v) :: rest =>
    if k = key then (k, value) :: rest else (k, v) :: putMember rest key value

/-- The members with unique keys: the last member of a key gives the value, the first one the
place. -/
def settleMembers (members : List (String × α)) : List (String × α) :=
  members.foldl (fun settled member => putMember settled member.1 member.2) []

theorem keys_putMember (members : List (String × α)) (key : String) (value : α) :
    (putMember members key value).map Prod.fst =
      if key ∈ members.map Prod.fst then members.map Prod.fst
      else members.map Prod.fst ++ [key] := by
  induction members with
  | nil => simp [putMember]
  | cons member rest ih =>
    obtain ⟨k, v⟩ := member
    by_cases h : k = key
    · simp [putMember, h]
    · have h' : ¬key = k := fun e => h e.symm
      simp only [putMember, h, if_false, List.map_cons, ih, List.mem_cons, h', false_or]
      split <;> simp

/-- The value of the first member with the key. -/
def member? (value : Json) (key : String) : Option Json :=
  match value with
  | object members => members.lookup key
  | _ => none

mutual

/-- The value with the keys of every object made unique. -/
def settled : Json → Json
  | array items => array (settledItems items)
  | object members => object (settleMembers (settledValues members))
  | null => null
  | bool b => bool b
  | number n => number n
  | string s => string s

def settledItems : List Json → List Json
  | [] => []
  | item :: rest => item.settled :: settledItems rest

def settledValues : List (String × Json) → List (String × Json)
  | [] => []
  | (key, value) :: rest => (key, value.settled) :: settledValues rest

end

end Json

end TypedHub
