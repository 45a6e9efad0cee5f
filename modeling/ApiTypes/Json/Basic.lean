/-!
# JSON values

Values of the data format that documents are written in.

* `Number` — whole numbers are exact, all others are doubles.
* `Json` — a value; objects keep their members in order.
* `Json.memberIf`, `Json.orNull`, `Json.objectOf`, `Json.arrayOf` — values made from other values.
* `Members` — the operations on named values in a fixed order: look up, put, insert in key order.
* `Members.nodup_put` — values that are put by name never share one.
-/

namespace ApiTypes

/-! ## Named values -/

namespace Members

variable {α β : Type}

/-- The value of the first member of a name. -/
def get? (members : List (String × α)) (name : String) : Option α :=
  (members.find? (·.1 == name)).map (·.2)

/-- Whether a member of a name is there. -/
def has (members : List (String × α)) (name : String) : Bool :=
  members.any (·.1 == name)

/-- Gives a name a value: in its place when the name is there, and else at the end. -/
def put : (members : List (String × α)) → (name : String) → (value : α) → List (String × α)
  | [], name, value => [(name, value)]
  | (n, v) :: rest, name, value =>
    if n = name then (name, value) :: rest else (n, v) :: put rest name value

/-- Gives a name a value among members in increasing order of their names. -/
def insert : (members : List (String × α)) → (name : String) → (value : α) → List (String × α)
  | [], name, value => [(name, value)]
  | (n, v) :: rest, name, value =>
    if n = name then (name, value) :: rest
    else if name < n then (name, value) :: (n, v) :: rest
    else (n, v) :: insert rest name value

/-- The names, in order. -/
def names (members : List (String × α)) : List String :=
  members.map (·.1)

theorem mem_names_put {members : List (String × α)} {name other : String} {value : α} :
    other ∈ names (put members name value) ↔ other = name ∨ other ∈ names members := by
  induction members with
  | nil => simp [put, names]
  | cons entry rest ih =>
    rw [put]
    by_cases h : entry.1 = name
    · simp [h, names]
    · rw [if_neg h]
      simpa [names, or_left_comm] using or_congr_right (a := other = entry.1) ih

/-- Giving a name a value never makes a name stand twice. -/
theorem nodup_put {members : List (String × α)} {name : String} {value : α}
    (h : (names members).Nodup) : (names (put members name value)).Nodup := by
  induction members with
  | nil => exact List.nodup_cons.2 ⟨List.not_mem_nil, List.nodup_nil⟩
  | cons entry rest ih =>
    obtain ⟨hfresh, hrest⟩ := List.nodup_cons.1 h
    rw [put]
    by_cases he : entry.1 = name
    · rw [if_pos he]
      exact List.nodup_cons.2 ⟨he ▸ hfresh, hrest⟩
    · rw [if_neg he]
      refine List.nodup_cons.2 ⟨fun hmem => ?_, ih hrest⟩
      rcases mem_names_put.1 hmem with heq | hmem
      · exact he heq
      · exact hfresh hmem

end Members

/-! ## Values -/

/-- A number: whole ones are exact, all others are doubles. -/
inductive Number where
  | int (value : Int)
  | float (value : Float)

/-- A JSON value. -/
inductive Json where
  | null
  | bool (value : Bool)
  | number (value : Number)
  | string (text : String)
  | array (items : List Json)
  | object (members : List (String × Json))

instance : Inhabited Json := ⟨.null⟩

namespace Json

/-! ### Values made from other values -/

/-- A whole number as a value. -/
def ofNat (n : Nat) : Json :=
  .number (.int n)

/-- A member that is there only when its value is. -/
def memberIf {α : Type} (name : String) (toJson : α → Json) : Option α → List (String × Json)
  | some value => [(name, toJson value)]
  | none => []

/-- A value that is written as `null` when it is not there. -/
def orNull {α : Type} (toJson : α → Json) : Option α → Json
  | some value => toJson value
  | none => .null

/-- Named values as a JSON object, in order. -/
def objectOf {α : Type} (toJson : α → Json) (values : List (String × α)) : Json :=
  .object (values.map fun (name, value) => (name, toJson value))

/-- Values as a JSON array, in order. -/
def arrayOf {α : Type} (toJson : α → Json) (values : List α) : Json :=
  .array (values.map toJson)

/-! ### Looking into values -/

/-- The text of a string value. -/
def asString? : Json → Option String
  | .string text => some text
  | _ => none

/-- The items of an array value. -/
def asArray? : Json → Option (List Json)
  | .array items => some items
  | _ => none

/-- The member of a name, in an object value. -/
def member? (name : String) : Json → Option Json
  | .object members => Members.get? members name
  | _ => none

/-- Whether a value is the truth value true. -/
def isTrue : Json → Bool
  | .bool value => value
  | _ => false

end Json

end ApiTypes
