import Mathlib.Data.List.Basic

/-! # JSON values and JavaScript object literals

Request bodies and backup files are JSON. An object is the list of its own
properties with the later definition in front, so reading takes the first
match. A property whose value is `undefined` is not in the list.
-/

namespace MyAccountController

/-- A value `JSON.parse` can return. A number is `mantissa * 10 ^ exponent`. -/
inductive Json where
  | null
  | bool (value : Bool)
  | num (mantissa exponent : Int)
  | str (value : String)
  | arr (items : List Json)
  | obj (properties : List (String × Json))
  deriving Inhabited

/-- The own properties of an object. -/
abbrev JsObject := List (String × Json)

namespace Json

/-- Whether the value counts as true in a condition. -/
def truthy : Json → Bool
  | null => false
  | bool value => value
  | num mantissa _ => mantissa ≠ 0
  | str value => value ≠ ""
  | arr _ => true
  | obj _ => true

end Json

namespace JsObject

/-- `object[name]`, where `none` is `undefined`. -/
def get (object : JsObject) (name : String) : Option Json := object.lookup name

/-- The names of the properties. -/
def names (object : JsObject) : List String := object.map Prod.fst

/-- `const { [name]: _, ...rest } = object`. -/
def without (object : JsObject) (name : String) : JsObject :=
  object.filter fun property => property.1 ≠ name

/-- `{ ...base, ...patch }`. -/
def spread (base patch : JsObject) : JsObject := patch ++ base

@[simp] theorem get_nil (name : String) : get [] name = none := rfl

theorem get_cons (name : String) (property : String × Json) (rest : JsObject) :
    get (property :: rest) name =
      if name = property.1 then some property.2 else get rest name := by
  unfold get
  rcases property with ⟨name', value⟩
  rw [List.lookup_cons]
  by_cases heq : name = name'
  · simp [heq]
  · have hbeq : (name == name') = false := by simpa using heq
    simp [heq, hbeq]

@[simp] theorem get_cons_self (name : String) (value : Json) (rest : JsObject) :
    get ((name, value) :: rest) name = some value := by
  simp [get_cons]

theorem get_cons_of_ne {name name' : String} (hne : name ≠ name') (value : Json)
    (rest : JsObject) : get ((name', value) :: rest) name = get rest name := by
  simp [get_cons, hne]

theorem get_spread (base patch : JsObject) (name : String) :
    get (spread base patch) name = (get patch name).or (get base name) := by
  unfold spread
  induction patch with
  | nil => rfl
  | cons property rest ih =>
      rw [List.cons_append, get_cons, get_cons, ih]
      split <;> simp

theorem get_without_self (object : JsObject) (name : String) :
    get (without object name) name = none := by
  induction object with
  | nil => rfl
  | cons property rest ih =>
      unfold without at ih ⊢
      by_cases heq : property.1 = name
      · simpa [heq] using ih
      · rw [List.filter_cons_of_pos (by simpa using heq), get_cons, ih]
        simp [Ne.symm heq]

theorem get_without_of_ne (object : JsObject) {name other : String} (hne : other ≠ name) :
    get (without object name) other = get object other := by
  induction object with
  | nil => rfl
  | cons property rest ih =>
      unfold without at ih ⊢
      by_cases heq : property.1 = name
      · rw [List.filter_cons_of_neg (by simpa using heq), ih, get_cons, heq, if_neg hne]
      · rw [List.filter_cons_of_pos (by simpa using heq), get_cons, get_cons, ih]

/-- A property that is not among the names reads as `undefined`. -/
theorem get_eq_none_of_not_mem {object : JsObject} {name : String}
    (hnot : name ∉ object.names) : get object name = none := by
  induction object with
  | nil => rfl
  | cons property rest ih =>
      simp only [names, List.map_cons, List.mem_cons, not_or] at hnot
      rw [get_cons, if_neg hnot.1]
      exact ih hnot.2

end JsObject

instance : (value : Json) → Decidable (value = .null)
  | .null => isTrue rfl
  | .bool _ | .num _ _ | .str _ | .arr _ | .obj _ => isFalse (by simp)

end MyAccountController
