import Mathlib.Data.List.Basic

namespace Revenant
namespace Library

/-!
# Dynamically typed values

The client reads a message as a value whose type it checks while it reads.  A
dictionary keeps its fields in order and is read by key, with a default for an
absent one.  The accessors below return nothing for a value of another type,
where the reader would refuse the message.
-/

inductive Variant where
  | nil
  | bool (value : Bool)
  | integer (value : Int)
  | text (value : String)
  | array (items : List Variant)
  | dictionary (fields : List (String × Variant))

namespace Variant

/-- What holds of the simple values, and of a container when it holds of
everything in it, holds of every value. -/
@[elab_as_elim]
theorem induction {motive : Variant → Prop} (nil : motive .nil) (bool : ∀ value, motive (.bool value))
    (integer : ∀ value, motive (.integer value)) (text : ∀ value, motive (.text value))
    (array : ∀ items, (∀ item ∈ items, motive item) → motive (.array items))
    (dictionary : ∀ fields, (∀ field ∈ fields, motive field.2) → motive (.dictionary fields))
    (value : Variant) : motive value := by
  refine @Variant.rec motive (fun items => ∀ item ∈ items, motive item)
    (fun fields => ∀ field ∈ fields, motive field.2) (fun field => motive field.2)
    nil bool integer text array dictionary ?_ ?_ ?_ ?_ ?_ value
  · exact fun item member => absurd member List.not_mem_nil
  · intro first rest here others item member
    rcases List.mem_cons.mp member with rfl | later
    · exact here
    · exact others item later
  · exact fun field member => absurd member List.not_mem_nil
  · intro first rest here others field member
    rcases List.mem_cons.mp member with rfl | later
    · exact here
    · exact others field later
  · exact fun _ _ here => here

def getOr (value : Variant) (key : String) (absent : Variant) : Variant :=
  match value with
  | dictionary fields => (fields.lookup key).getD absent
  | _ => absent

def get (value : Variant) (key : String) : Variant := value.getOr key .nil

def isNil : Variant → Bool
  | nil => true
  | _ => false

def bool? : Variant → Option Bool
  | bool value => some value
  | _ => none

def integer? : Variant → Option Int
  | integer value => some value
  | _ => none

def text? : Variant → Option String
  | text value => some value
  | _ => none

def array? : Variant → Option (List Variant)
  | array items => some items
  | _ => none

/-- The value is the expected number, or null where none is expected. -/
def isNumber : Variant → Option Int → Bool
  | nil, none => true
  | integer value, some expected => value == expected
  | _, _ => false

/-- The text form of a key's value; only a text has itself as its form. -/
def str : Variant → String
  | nil => "<null>"
  | bool value => toString value
  | integer value => toString value
  | text value => value
  | array _ => "[...]"
  | dictionary _ => "{...}"

def isDictionary : Variant → Bool
  | dictionary _ => true
  | _ => false

/-- The dictionary with the key's value replaced, or put at its end. -/
def setField (key : String) (value : Variant) :
    List (String × Variant) → List (String × Variant)
  | [] => [(key, value)]
  | (other, old) :: rest =>
      if key = other then (key, value) :: rest else (other, old) :: setField key value rest

def set (dict : Variant) (key : String) (value : Variant) : Variant :=
  match dict with
  | dictionary fields => dictionary (setField key value fields)
  | other => other

/-- An optional number, sent as null when there is none. -/
def ofOption : Option Nat → Variant
  | none => nil
  | some value => integer value

/-- A field that is left out when it has no value. -/
def optional (key : String) (value : Option Variant) : List (String × Variant) :=
  match value with
  | none => []
  | some present => [(key, present)]

/-! ## Equality

Two values are equal when they have one type and one content.  A serializer
lists the fields of a structure in one order, so two dictionaries it made are
compared field by field.
-/

mutual

def same : Variant → Variant → Bool
  | nil, nil => true
  | bool left, bool right => left == right
  | integer left, integer right => left == right
  | text left, text right => left == right
  | array left, array right => sameItems left right
  | dictionary left, dictionary right => sameFields left right
  | _, _ => false

def sameItems : List Variant → List Variant → Bool
  | [], [] => true
  | left :: lefts, right :: rights => left.same right && sameItems lefts rights
  | _, _ => false

def sameFields : List (String × Variant) → List (String × Variant) → Bool
  | [], [] => true
  | left :: lefts, right :: rights => sameField left right && sameFields lefts rights
  | _, _ => false

def sameField : String × Variant → String × Variant → Bool
  | (key, left), (other, right) => key == other && left.same right

end

mutual

theorem same_iff : ∀ left right : Variant, left.same right = true ↔ left = right
  | nil, right => by cases right <;> simp [same]
  | bool left, right => by cases right <;> simp [same]
  | integer left, right => by cases right <;> simp [same]
  | text left, right => by cases right <;> simp [same]
  | array left, right => by cases right <;> simp [same, sameItems_iff left]
  | dictionary left, right => by cases right <;> simp [same, sameFields_iff left]

theorem sameItems_iff : ∀ left right : List Variant, sameItems left right = true ↔ left = right
  | [], right => by cases right <;> simp [sameItems]
  | left :: lefts, right => by
      cases right <;> simp [sameItems, same_iff left, sameItems_iff lefts]

theorem sameFields_iff : ∀ left right : List (String × Variant),
    sameFields left right = true ↔ left = right
  | [], right => by cases right <;> simp [sameFields]
  | left :: lefts, right => by
      cases right <;> simp [sameFields, sameField_iff left, sameFields_iff lefts]

theorem sameField_iff : ∀ left right : String × Variant, sameField left right = true ↔ left = right
  | (key, left), (other, right) => by simp [sameField, same_iff left]

end

instance : DecidableEq Variant := fun left right => decidable_of_iff _ (same_iff left right)

theorem lookup_setField (key : String) (value : Variant) (fields : List (String × Variant)) :
    (setField key value fields).lookup key = some value := by
  induction fields with
  | nil => simp [setField]
  | cons field rest inductionHypothesis =>
      obtain ⟨other, old⟩ := field
      by_cases same : key = other
      · simp [setField, same]
      · have unequal : (key == other) = false := beq_eq_false_iff_ne.mpr same
        simp only [setField, if_neg same, List.lookup_cons, unequal, inductionHypothesis]

/-- A dictionary reads back what was set. -/
theorem get_set {dict : Variant} (isDict : dict.isDictionary = true) (key : String)
    (value : Variant) : (dict.set key value).get key = value := by
  cases dict with
  | dictionary fields => simp only [set, get, getOr, lookup_setField, Option.getD_some]
  | nil | bool | integer | text | array => cases isDict

theorem isDictionary_set {dict : Variant} (key : String) (value : Variant) :
    (dict.set key value).isDictionary = dict.isDictionary := by
  cases dict <;> rfl

end Variant

end Library
end Revenant
