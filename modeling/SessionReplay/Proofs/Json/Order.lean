import SessionReplay.Json.Node
import Mathlib.Data.String.Basic

/-!
# Values with their members in order

The members of an object that was read stand in the order of their names, each name once. A value
of this kind is what a document made of it reads as.

* `Json.Ordered`: the members of all objects in a value are in order.
* `Json.member?_insert`: what stands under a name when a member is set.
* `bind_eq_ok`, `map_eq_ok`, `mapError_eq_ok`: what it takes that a reading succeeds.
* `Node.ordered_of_toJson`: what is read is in order.
* `Json.isShownBy`: a document that is a value, with all its parts in their order.
* `Node.toJson_of_shown`, `Node.toJson_ofJson`: what is in order is read as it is.
-/

namespace SessionReplay.Json

mutual

/-- The members of all objects stand in the order of their names, each name once. -/
def Ordered : Json → Prop
  | .array items => ItemsOrdered items
  | .object members => MembersOrdered members
  | .null | .bool _ | .number _ | .string _ => True

def ItemsOrdered : List Json → Prop
  | [] => True
  | v :: rest => Ordered v ∧ ItemsOrdered rest

def MembersOrdered : List (String × Json) → Prop
  | [] => True
  | (k, v) :: rest => (∀ e ∈ rest, k < e.1) ∧ Ordered v ∧ MembersOrdered rest

end

/-! ## Setting a member -/

section Insert

variable {k : String} {v : Json} {members : List (String × Json)}

theorem eq_or_mem_of_mem_insert {e : String × Json} (h : e ∈ insert k v members) :
    e.1 = k ∨ e ∈ members := by
  induction members with
  | nil =>
    obtain rfl := List.mem_singleton.1 h
    exact .inl rfl
  | cons first rest ih =>
    rw [insert] at h
    split at h
    · rcases List.mem_cons.1 h with rfl | hMem
      · exact .inl rfl
      · exact .inr hMem
    · split at h
      · rcases List.mem_cons.1 h with rfl | hMem
        · exact .inl rfl
        · exact .inr (List.mem_cons_of_mem _ hMem)
      · rcases List.mem_cons.1 h with rfl | hMem
        · exact .inr List.mem_cons_self
        · exact (ih hMem).imp_right (List.mem_cons_of_mem _)

theorem membersOrdered_insert (hMembers : MembersOrdered members) (hValue : v.Ordered) :
    MembersOrdered (insert k v members) := by
  induction members with
  | nil => exact ⟨by simp, hValue, trivial⟩
  | cons first rest ih =>
    obtain ⟨hFirst, hOwn, hRest⟩ := hMembers
    rw [insert]
    split
    · next hBefore =>
      refine ⟨fun e hMem => ?_, hValue, hFirst, hOwn, hRest⟩
      rcases List.mem_cons.1 hMem with rfl | hMem
      · exact hBefore
      · exact hBefore.trans (hFirst e hMem)
    · next hNotBefore =>
      split
      · next hSame => exact ⟨hSame ▸ hFirst, hValue, hRest⟩
      · next hOther =>
        refine ⟨fun e hMem => ?_, hOwn, ih hRest⟩
        rcases eq_or_mem_of_mem_insert hMem with hName | hMem
        · rw [hName]
          exact lt_of_le_of_ne (not_lt.1 hNotBefore) (Ne.symm hOther)
        · exact hFirst e hMem

/-- A member whose name is behind all others is put at the end. -/
theorem insert_last (h : ∀ e ∈ members, e.1 < k) : insert k v members = members ++ [(k, v)] := by
  induction members with
  | nil => rfl
  | cons first rest ih =>
    have hFirst := h first List.mem_cons_self
    rw [insert, if_neg hFirst.asymm, if_neg hFirst.ne',
      ih fun e hMem => h e (List.mem_cons_of_mem _ hMem)]
    rfl

/-- What comes behind a member comes behind all that it was put behind. -/
theorem before_snoc {rest : List (String × Json)} (hFirst : ∀ e ∈ rest, k < e.1)
    (hBefore : ∀ e ∈ (k, v) :: rest, ∀ e' ∈ members, e'.1 < e.1) :
    ∀ e ∈ rest, ∀ e' ∈ members ++ [(k, v)], e'.1 < e.1 := by
  intro e hMem e' hMem'
  rcases List.mem_append.1 hMem' with hMem' | hMem'
  · exact hBefore e (List.mem_cons_of_mem _ hMem) e' hMem'
  · obtain rfl := List.mem_singleton.1 hMem'
    exact hFirst e hMem

theorem member?_insert_self : member? k (insert k v members) = some v := by
  induction members with
  | nil => simp [insert, member?]
  | cons first rest ih =>
    rw [insert]
    split
    · simp [member?]
    · split
      · simp [member?]
      · next hOther => simpa [member?, Ne.symm hOther] using ih

theorem member?_insert_of_ne {other : String} (h : other ≠ k) :
    member? other (insert k v members) = member? other members := by
  induction members with
  | nil => simp [insert, member?, h.symm]
  | cons first rest ih =>
    rw [insert]
    split
    · simp [member?, h.symm]
    · split
      · next hSame => simp [member?, ← hSame, h.symm]
      · by_cases hFirst : first.1 = other
        · simp [member?, hFirst]
        · simpa [member?, hFirst] using ih

end Insert

/-- What stands under a name is found under it. -/
theorem member?_of_mem {members : List (String × Json)} (h : MembersOrdered members)
    {e : String × Json} (hMem : e ∈ members) : member? e.1 members = some e.2 := by
  induction members with
  | nil => simp at hMem
  | cons first rest ih =>
    obtain ⟨hFirst, -, hRest⟩ := h
    rcases List.mem_cons.1 hMem with rfl | hMem
    · simp [member?]
    · have hOther := (hFirst e hMem).ne
      simpa [member?, hOther] using ih hRest hMem

/-! ## Readings that succeed -/

section Success

variable {ε ε' α β : Type}

theorem bind_eq_ok {x : Except ε α} {f : α → Except ε β} {b : β} :
    x >>= f = .ok b ↔ ∃ a, x = .ok a ∧ f a = .ok b := by
  cases x <;> simp [bind, Except.bind]

theorem map_eq_ok {x : Except ε α} {f : α → β} {b : β} :
    f <$> x = .ok b ↔ ∃ a, x = .ok a ∧ f a = b := by
  cases x <;> simp [Functor.map, Except.map]

theorem mapError_eq_ok {x : Except ε α} {f : ε → ε'} {a : α} :
    x.mapError f = .ok a ↔ x = .ok a := by
  cases x <;> simp [Except.mapError]

end Success

/-! ## What is read -/

namespace Node

section Parts

variable {start : Option Place} {depth : Nat} {tail : Tail}

theorem toJson_array {first : Close} {items : List (Node × Close)} {w : Json} :
    (Node.array start depth first items tail).toJson = .ok w ↔
      enter start depth = .ok () ∧ ∃ ws, itemsToJson tail 0 items = .ok ws ∧ .array ws = w := by
  simp [toJson, bind_eq_ok, map_eq_ok, Unique.exists_iff]

theorem toJson_object {lead : Option Fault} {members : List (Member Node)} {w : Json} :
    (Node.object start depth lead members tail).toJson = .ok w ↔
      enter start depth = .ok () ∧
        ∃ ws, membersToJson tail [] members = .ok ws ∧ .object ws = w := by
  simp [toJson, bind_eq_ok, map_eq_ok, Unique.exists_iff]

theorem itemsToJson_nil {index : Nat} {ws : List Json} :
    itemsToJson tail index [] = .ok ws ↔ (∃ stop, tail = .closed stop) ∧ ws = [] := by
  cases tail <;> simp [itemsToJson, eq_comm]

theorem itemsToJson_cons {index : Nat} {node : Node} {close : Close}
    {rest : List (Node × Close)} {ws : List Json} :
    itemsToJson tail index ((node, close) :: rest) = .ok ws ↔
      ∃ v, node.toJson = .ok v ∧ ∃ vs, itemsToJson tail (index + 1) rest = .ok vs ∧
        v :: vs = ws := by
  simp [itemsToJson, bind_eq_ok, mapError_eq_ok]

theorem membersToJson_nil {done ws : List (String × Json)} :
    membersToJson tail done [] = .ok ws ↔ (∃ stop, tail = .closed stop) ∧ ws = done := by
  cases tail <;> simp [membersToJson, eq_comm]

theorem membersToJson_cons {done ws : List (String × Json)} {member : Member Node}
    {rest : List (Member Node)} :
    membersToJson tail done (member :: rest) = .ok ws ↔
      ∃ k node v, member.name = .ok k ∧ member.value = .ok node ∧ node.toJson = .ok v ∧
        membersToJson tail (insert k v done) rest = .ok ws := by
  obtain ⟨name, stop, close, value, next⟩ := member
  cases value with
  | error fault => simp [membersToJson, bind_eq_ok, mapError_eq_ok]
  | ok node => simp [membersToJson, bind_eq_ok, mapError_eq_ok]

end Parts

mutual

/-- What is read is in order. -/
theorem ordered_of_toJson {node : Node} {w : Json} (h : node.toJson = .ok w) : w.Ordered := by
  cases node with
  | missing | broken =>
    rw [toJson] at h
    contradiction
  | null | bool =>
    rw [toJson] at h
    obtain rfl := Except.ok.inj h
    trivial
  | number value | string value =>
    cases value with
    | error fault => simp [toJson, Except.map] at h
    | ok value =>
      rw [toJson] at h
      obtain rfl := Except.ok.inj h
      trivial
  | array start depth first items tail =>
    obtain ⟨-, ws, hItems, rfl⟩ := toJson_array.1 h
    exact itemsOrdered_of_toJson hItems
  | object start depth lead members tail =>
    obtain ⟨-, ws, hMembers, rfl⟩ := toJson_object.1 h
    exact membersOrdered_of_toJson hMembers trivial

theorem itemsOrdered_of_toJson {tail : Tail} {index : Nat} {items : List (Node × Close)}
    {ws : List Json} (h : itemsToJson tail index items = .ok ws) : ItemsOrdered ws := by
  cases items with
  | nil =>
    obtain ⟨-, rfl⟩ := itemsToJson_nil.1 h
    trivial
  | cons item rest =>
    obtain ⟨node, close⟩ := item
    obtain ⟨v, hNode, vs, hRest, rfl⟩ := itemsToJson_cons.1 h
    exact ⟨ordered_of_toJson hNode, itemsOrdered_of_toJson hRest⟩

theorem membersOrdered_of_toJson {tail : Tail} {done ws : List (String × Json)}
    {members : List (Member Node)} (h : membersToJson tail done members = .ok ws)
    (hDone : MembersOrdered done) : MembersOrdered ws := by
  cases members with
  | nil =>
    obtain ⟨-, rfl⟩ := membersToJson_nil.1 h
    exact hDone
  | cons member rest =>
    obtain ⟨name, stop, close, value, next⟩ := member
    obtain ⟨k, node, v, -, hValue, hNode, hRest⟩ := membersToJson_cons.1 h
    cases value with
    | error fault => contradiction
    | ok own =>
      obtain rfl := Except.ok.inj hValue
      exact membersOrdered_of_toJson hRest (membersOrdered_insert hDone (ordered_of_toJson hNode))

end

end Node

/-! ## Documents that show a value -/

mutual

/-- Whether a document is the value, with all items and members in their order and nothing wrong in
between. -/
def isShownBy : Json → Node → Bool
  | .null, .null _ _ => true
  | .bool b, .bool b' _ _ => b == b'
  | .number n, .number (.ok n') _ _ => n == n'
  | .string s, .string (.ok s') _ _ => s == s'
  | .array items, .array _ depth _ nodes (.closed _) =>
    decide (depth < maxDepth) && areShownBy items nodes
  | .object members, .object _ depth _ nodes (.closed _) =>
    decide (depth < maxDepth) && membersShownBy members nodes
  | _, _ => false

def areShownBy : List Json → List (Node × Close) → Bool
  | [], [] => true
  | v :: rest, (node, _) :: nodes => isShownBy v node && areShownBy rest nodes
  | _, _ => false

def membersShownBy : List (String × Json) → List (Member Node) → Bool
  | [], [] => true
  | (k, v) :: rest, ⟨.ok k', _, _, .ok node, _⟩ :: nodes =>
    k == k' && isShownBy v node && membersShownBy rest nodes
  | _, _ => false

end

section Shown

variable {node : Node}

theorem eq_null_of_shown (h : Json.null.isShownBy node = true) :
    ∃ start stop, node = .null start stop := by
  cases node with
  | null start stop => exact ⟨start, stop, rfl⟩
  | _ => simp [isShownBy] at h

theorem eq_bool_of_shown {b : Bool} (h : (Json.bool b).isShownBy node = true) :
    ∃ start stop, node = .bool b start stop := by
  cases node with
  | bool b' start stop =>
    obtain rfl : b = b' := by simpa [isShownBy] using h
    exact ⟨start, stop, rfl⟩
  | _ => simp [isShownBy] at h

theorem eq_number_of_shown {n : Number} (h : (Json.number n).isShownBy node = true) :
    ∃ start stop, node = .number (.ok n) start stop := by
  cases node with
  | number value start stop =>
    cases value with
    | error fault => simp [isShownBy] at h
    | ok n' =>
      obtain rfl : n = n' := by simpa [isShownBy] using h
      exact ⟨start, stop, rfl⟩
  | _ => simp [isShownBy] at h

theorem eq_string_of_shown {s : String} (h : (Json.string s).isShownBy node = true) :
    ∃ start stop, node = .string (.ok s) start stop := by
  cases node with
  | string value start stop =>
    cases value with
    | error fault => simp [isShownBy] at h
    | ok s' =>
      obtain rfl : s = s' := by simpa [isShownBy] using h
      exact ⟨start, stop, rfl⟩
  | _ => simp [isShownBy] at h

theorem eq_array_of_shown {items : List Json} (h : (Json.array items).isShownBy node = true) :
    ∃ start depth first nodes stop, node = .array start depth first nodes (.closed stop) ∧
      enter start depth = .ok () ∧ areShownBy items nodes = true := by
  cases node with
  | array start depth first nodes tail =>
    cases tail with
    | broken read skipped => simp [isShownBy] at h
    | closed stop =>
      simp only [isShownBy, Bool.and_eq_true, decide_eq_true_eq] at h
      exact ⟨start, depth, first, nodes, stop, rfl, if_pos h.1, h.2⟩
  | _ => simp [isShownBy] at h

theorem eq_object_of_shown {members : List (String × Json)}
    (h : (Json.object members).isShownBy node = true) :
    ∃ start depth lead nodes stop, node = .object start depth lead nodes (.closed stop) ∧
      enter start depth = .ok () ∧ membersShownBy members nodes = true := by
  cases node with
  | object start depth lead nodes tail =>
    cases tail with
    | broken read skipped => simp [isShownBy] at h
    | closed stop =>
      simp only [isShownBy, Bool.and_eq_true, decide_eq_true_eq] at h
      exact ⟨start, depth, lead, nodes, stop, rfl, if_pos h.1, h.2⟩
  | _ => simp [isShownBy] at h

theorem areShownBy_cons {v : Json} {rest : List Json} {nodes : List (Node × Close)}
    (h : areShownBy (v :: rest) nodes = true) :
    ∃ node close others, nodes = (node, close) :: others ∧ v.isShownBy node = true ∧
      areShownBy rest others = true := by
  cases nodes with
  | nil => simp [areShownBy] at h
  | cons item others =>
    obtain ⟨node, close⟩ := item
    simp only [areShownBy, Bool.and_eq_true] at h
    exact ⟨node, close, others, rfl, h.1, h.2⟩

theorem membersShownBy_cons {k : String} {v : Json} {rest : List (String × Json)}
    {nodes : List (Member Node)} (h : membersShownBy ((k, v) :: rest) nodes = true) :
    ∃ stop close node next others,
      nodes = ⟨.ok k, stop, close, .ok node, next⟩ :: others ∧ v.isShownBy node = true ∧
        membersShownBy rest others = true := by
  cases nodes with
  | nil => simp [membersShownBy] at h
  | cons member others =>
    obtain ⟨name, stop, close, value, next⟩ := member
    cases name with
    | error fault => simp [membersShownBy] at h
    | ok k' =>
      cases value with
      | error fault => simp [membersShownBy] at h
      | ok node =>
        simp only [membersShownBy, Bool.and_eq_true, beq_iff_eq] at h
        obtain ⟨⟨rfl, hNode⟩, hRest⟩ := h
        exact ⟨stop, close, node, next, others, rfl, hNode, hRest⟩

theorem eq_nil_of_shown {nodes : List (Node × Close)} (h : areShownBy [] nodes = true) :
    nodes = [] := by
  cases nodes with
  | nil => rfl
  | cons item others => simp [areShownBy] at h

theorem members_eq_nil_of_shown {nodes : List (Member Node)}
    (h : membersShownBy [] nodes = true) : nodes = [] := by
  cases nodes with
  | nil => rfl
  | cons member others => simp [membersShownBy] at h

end Shown

namespace Node

mutual

/-- A value that was made shows itself. -/
theorem isShownBy_ofJson (w : Json) : w.isShownBy (ofJson w) = true := by
  cases w with
  | null => rw [ofJson, isShownBy]
  | bool | number | string => rw [ofJson, isShownBy, beq_self_eq_true]
  | array items =>
    rw [ofJson, isShownBy, areShownBy_itemsOfJson items.length 1 items]
    rfl
  | object members =>
    rw [ofJson, isShownBy, membersShownBy_membersOfJson members]
    rfl

theorem areShownBy_itemsOfJson (count index : Nat) (items : List Json) :
    areShownBy items (itemsOfJson count index items) = true := by
  cases items with
  | nil => rw [itemsOfJson, areShownBy]
  | cons v rest =>
    rw [itemsOfJson, areShownBy, isShownBy_ofJson v, areShownBy_itemsOfJson count (index + 1) rest]
    rfl

theorem membersShownBy_membersOfJson (members : List (String × Json)) :
    membersShownBy members (membersOfJson members) = true := by
  cases members with
  | nil => rw [membersOfJson, membersShownBy]
  | cons member rest =>
    obtain ⟨k, v⟩ := member
    rw [membersOfJson, membersShownBy, isShownBy_ofJson v, membersShownBy_membersOfJson rest,
      beq_self_eq_true]
    rfl

end

mutual

/-- A document that shows a value in order is read as this value. -/
theorem toJson_of_shown {w : Json} {node : Node} (hShown : w.isShownBy node = true)
    (h : w.Ordered) : node.toJson = .ok w := by
  cases w with
  | null =>
    obtain ⟨start, stop, rfl⟩ := eq_null_of_shown hShown
    rw [toJson]
  | bool b =>
    obtain ⟨start, stop, rfl⟩ := eq_bool_of_shown hShown
    rw [toJson]
  | number n =>
    obtain ⟨start, stop, rfl⟩ := eq_number_of_shown hShown
    rw [toJson]
    rfl
  | string s =>
    obtain ⟨start, stop, rfl⟩ := eq_string_of_shown hShown
    rw [toJson]
    rfl
  | array items =>
    obtain ⟨start, depth, first, nodes, stop, rfl, hEnter, hItems⟩ := eq_array_of_shown hShown
    exact toJson_array.2 ⟨hEnter, items, itemsToJson_of_shown hItems h, rfl⟩
  | object members =>
    obtain ⟨start, depth, lead, nodes, stop, rfl, hEnter, hMembers⟩ := eq_object_of_shown hShown
    have hRead : membersToJson (.closed stop) [] nodes = .ok ([] ++ members) :=
      membersToJson_of_shown hMembers h (by simp)
    exact toJson_object.2 ⟨hEnter, members, hRead, rfl⟩

theorem itemsToJson_of_shown {stop : Option Place} {index : Nat} {items : List Json}
    {nodes : List (Node × Close)} (hShown : areShownBy items nodes = true)
    (h : ItemsOrdered items) : itemsToJson (.closed stop) index nodes = .ok items := by
  cases items with
  | nil =>
    obtain rfl := eq_nil_of_shown hShown
    rw [itemsToJson]
  | cons v rest =>
    obtain ⟨node, close, others, rfl, hNode, hRest⟩ := areShownBy_cons hShown
    exact itemsToJson_cons.2
      ⟨v, toJson_of_shown hNode h.1, rest, itemsToJson_of_shown hRest h.2, rfl⟩

theorem membersToJson_of_shown {stop : Option Place} {done members : List (String × Json)}
    {nodes : List (Member Node)} (hShown : membersShownBy members nodes = true)
    (h : MembersOrdered members) (hDone : ∀ e ∈ members, ∀ e' ∈ done, e'.1 < e.1) :
    membersToJson (.closed stop) done nodes = .ok (done ++ members) := by
  cases members with
  | nil =>
    obtain rfl := members_eq_nil_of_shown hShown
    simp [membersToJson]
  | cons member rest =>
    obtain ⟨k, v⟩ := member
    obtain ⟨own, close, node, next, others, rfl, hNode, hRest⟩ := membersShownBy_cons hShown
    obtain ⟨hFirst, hValue, hOrdered⟩ := h
    have hMembers : membersToJson (.closed stop) (done ++ [(k, v)]) others =
        .ok (done ++ [(k, v)] ++ rest) :=
      membersToJson_of_shown hRest hOrdered (before_snoc hFirst hDone)
    have hLast : insert k v done = done ++ [(k, v)] := insert_last (hDone (k, v) List.mem_cons_self)
    refine membersToJson_cons.2 ⟨k, node, v, rfl, rfl, toJson_of_shown hNode hValue, ?_⟩
    rw [hLast, hMembers, List.append_assoc, List.singleton_append]

end

/-- What is in order is read as it is. -/
theorem toJson_ofJson {w : Json} (h : w.Ordered) : (ofJson w).toJson = .ok w :=
  toJson_of_shown (isShownBy_ofJson w) h

end Node
end SessionReplay.Json
