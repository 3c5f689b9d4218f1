import SessionReplay.Json.Basic

/-!
# Equality of values

Whether two values are the same can be computed, by going through both at once.

* `Json.same`, `Json.same_iff`, and the instance of `DecidableEq` that they make.
-/

namespace SessionReplay.Json

mutual

def same : Json → Json → Bool
  | .null, .null => true
  | .bool b, .bool b' => b == b'
  | .number n, .number n' => n == n'
  | .string s, .string s' => s == s'
  | .array items, .array items' => sameItems items items'
  | .object members, .object members' => sameMembers members members'
  | _, _ => false

def sameItems : List Json → List Json → Bool
  | [], [] => true
  | v :: rest, v' :: rest' => same v v' && sameItems rest rest'
  | _, _ => false

def sameMembers : List (String × Json) → List (String × Json) → Bool
  | [], [] => true
  | (k, v) :: rest, (k', v') :: rest' => k == k' && same v v' && sameMembers rest rest'
  | _, _ => false

end

mutual

theorem same_iff (v v' : Json) : same v v' = true ↔ v = v' := by
  cases v with
  | null | bool | number | string => cases v' <;> simp [same]
  | array items =>
    cases v' with
    | array items' => simpa [same] using sameItems_iff items items'
    | _ => simp [same]
  | object members =>
    cases v' with
    | object members' => simpa [same] using sameMembers_iff members members'
    | _ => simp [same]

theorem sameItems_iff (items items' : List Json) :
    sameItems items items' = true ↔ items = items' := by
  cases items with
  | nil => cases items' <;> simp [sameItems]
  | cons v rest =>
    cases items' with
    | nil => simp [sameItems]
    | cons v' rest' => simp [sameItems, same_iff v v', sameItems_iff rest rest']

theorem sameMembers_iff (members members' : List (String × Json)) :
    sameMembers members members' = true ↔ members = members' := by
  cases members with
  | nil => cases members' <;> simp [sameMembers]
  | cons member rest =>
    obtain ⟨k, v⟩ := member
    cases members' with
    | nil => simp [sameMembers]
    | cons member' rest' =>
      obtain ⟨k', v'⟩ := member'
      simp [sameMembers, same_iff v v', sameMembers_iff rest rest']

end

instance : DecidableEq Json := fun v v' => decidable_of_iff (same v v' = true) (same_iff v v')

end SessionReplay.Json
