import SessionReplay.Proofs.Json.Closing
import SessionReplay.Proofs.Json.Writing

/-!
# Documents that bear a value

A document bears a value if every reader may look at any part of it without finding a fault that
the value does not have: it is read as the value, its arrays can be closed behind their last items
and nowhere before, and no object in it names a member twice.

* `Node.Ends`: an array that is closed can be closed behind its last item.
* `Document.ends`: so it is with every array in a text.
* `Node.isDistinct`: whether no object has two members of one name.
* `Node.Bears`: the document bears the value, part by part.
* `Document.bears`: so does every text without repeated names, if it is read as a value at all.
* `Node.bears_ofJson`: a value that was made bears itself.
-/

namespace SessionReplay.Json

namespace Node

/-- The attempt to close an array behind the last of its items; `first` where it has none. -/
def lastClose (first : Close) : List (Node × Close) → Close
  | [] => first
  | (_, close) :: rest => lastClose close rest

mutual

/-- An array that is closed can be closed behind its last item. -/
def Ends : Node → Prop
  | .array _ _ first items tail =>
    (∀ stop, tail = .closed stop → (lastClose first items).fault = none) ∧ ItemsEnd items
  | .object _ _ _ members _ => MembersEnd members
  | .missing .. | .broken .. | .null .. | .bool .. | .number .. | .string .. => True

def ItemsEnd : List (Node × Close) → Prop
  | [] => True
  | (node, _) :: rest => Ends node ∧ ItemsEnd rest

def MembersEnd : List (Member Node) → Prop
  | [] => True
  | ⟨_, _, _, .error _, _⟩ :: rest => MembersEnd rest
  | ⟨_, _, _, .ok node, _⟩ :: rest => Ends node ∧ MembersEnd rest

end

end Node

open Node

/-! ## Ends of arrays in a text -/

theorem closeList_of_bracket {c : Cursor} {rest : List Char} (h : c.skipSpace.rest = ']' :: rest) :
    c.closeList.fault = none := by
  simp [Cursor.closeList, h]

theorem ends_readNamed (c : Cursor) (more : List Char) {node : Option Place → Node}
    (h : ∀ stop, (node stop).Ends) : (readNamed c more node).value.Ends := by
  unfold readNamed
  split
  · exact h _
  · trivial

theorem ends_readNumeral (c first : Cursor) (negative : Bool) :
    (readNumeral c first negative).value.Ends := by
  unfold readNumeral
  dsimp only
  split
  · trivial
  · split <;> trivial

/-- The items up to the end of an array: where that is its bracket, the array can be closed behind
the last of them. -/
structure ItemsComplete (first : Close) (part : List (Node × Close) × Tail) : Prop where
  items : ItemsEnd part.1
  last : ∀ stop, part.2 = .closed stop → (lastClose first part.1).fault = none

theorem itemsComplete_broken (first : Close) (read skipped : Fault) :
    ItemsComplete first ([], .broken read skipped) := ⟨trivial, by simp⟩

/-- What is read with a count of steps ends where it is closed. Where an item is read there is a
last one, so it does not count what stands before it. -/
structure ReadEnds (fuel : Nat) : Prop where
  node : ∀ depth c, (readNode fuel depth c).value.Ends
  items : ∀ depth first c, ItemsComplete c.closeList (readItems fuel depth first c).value
  item : ∀ depth c close, ItemsComplete close (readItem fuel depth c).value
  members : ∀ depth first c, MembersEnd (readMembers fuel depth first c).value.1
  member : ∀ depth c, MembersEnd (readMember fuel depth c).value.1

theorem readEnds_zero : ReadEnds 0 where
  node _ _ := by rw [readNode]; trivial
  items _ _ _ := by rw [readItems]; exact itemsComplete_broken _ _ _
  item _ _ _ := by rw [readItem]; exact itemsComplete_broken _ _ _
  members _ _ _ := by rw [readMembers]; trivial
  member _ _ := by rw [readMember]; trivial

namespace ReadEnds

variable {fuel : Nat}

theorem readNode_succ (h : ReadEnds fuel) (depth : Nat) (c : Cursor) :
    (readNode (fuel + 1) depth c).value.Ends := by
  rw [readNode]
  dsimp only
  split
  · trivial
  · exact ends_readNamed _ _ fun _ => trivial
  · exact ends_readNamed _ _ fun _ => trivial
  · exact ends_readNamed _ _ fun _ => trivial
  · split <;> trivial
  · exact ⟨(h.items _ _ _).last, (h.items _ _ _).items⟩
  · exact h.members _ _ _
  · exact ends_readNumeral _ _ _
  · split
    · exact ends_readNumeral _ _ _
    · trivial

theorem readItems_succ (h : ReadEnds fuel) (depth : Nat) (first : Bool) (c : Cursor) :
    ItemsComplete c.closeList (readItems (fuel + 1) depth first c).value := by
  have hRead := itemsRead fuel depth first c
  generalize readItems (fuel + 1) depth first c = part at hRead ⊢
  cases hRead with
  | closed hBracket after => exact ⟨trivial, fun _ _ => closeList_of_bracket hBracket⟩
  | item here => exact h.item _ _ _
  | broken here read skipped => exact itemsComplete_broken _ _ _

theorem readItem_succ (h : ReadEnds fuel) (depth : Nat) (c : Cursor) (close : Close) :
    ItemsComplete close (readItem (fuel + 1) depth c).value := by
  rw [readItem]
  dsimp only
  split
  -- a text that breaks off inside an item leaves an attempt behind it that nobody makes
  · exact ⟨⟨h.node _ _, trivial⟩, fun _ _ => rfl⟩
  · next after _ =>
    obtain ⟨hItems, hLast⟩ := h.items depth false after
    exact ⟨⟨h.node _ _, hItems⟩, hLast⟩

theorem readMembers_succ (h : ReadEnds fuel) (depth : Nat) (first : Bool) (c : Cursor) :
    MembersEnd (readMembers (fuel + 1) depth first c).value.1 := by
  have hRead := membersRead fuel depth first c
  generalize readMembers (fuel + 1) depth first c = part at hRead ⊢
  cases hRead with
  | closed | broken => trivial
  | member here => exact h.member _ _

theorem readMember_succ (h : ReadEnds fuel) (depth : Nat) (c : Cursor) :
    MembersEnd (readMember (fuel + 1) depth c).value.1 := by
  have hRead := memberRead fuel depth c
  generalize readMember (fuel + 1) depth c = part at hRead ⊢
  cases hRead with
  | unnamed | bare => trivial
  | last => exact ⟨h.node _ _, trivial⟩
  | more => exact ⟨h.node _ _, h.members _ _ _⟩

end ReadEnds

theorem readEnds (fuel : Nat) : ReadEnds fuel := by
  induction fuel with
  | zero => exact readEnds_zero
  | succ fuel ih =>
    exact ⟨ih.readNode_succ, ih.readItems_succ, ih.readItem_succ, ih.readMembers_succ,
      ih.readMember_succ⟩

/-! ## Repeated names -/

namespace Node

/-- The names of members, as far as they can be read. -/
def memberNames (members : List (Member Node)) : List String :=
  members.filterMap fun member => member.name.toOption

mutual

/-- Whether no object of the document has two members of one name. -/
def isDistinct : Node → Bool
  | .array _ _ _ items _ => itemsDistinct items
  | .object _ _ _ members _ => (memberNames members).Nodup && membersDistinct members
  | .missing .. | .broken .. | .null .. | .bool .. | .number .. | .string .. => true

def itemsDistinct : List (Node × Close) → Bool
  | [] => true
  | (node, _) :: rest => isDistinct node && itemsDistinct rest

def membersDistinct : List (Member Node) → Bool
  | [] => true
  | ⟨_, _, _, .error _, _⟩ :: rest => membersDistinct rest
  | ⟨_, _, _, .ok node, _⟩ :: rest => isDistinct node && membersDistinct rest

end

end Node

/-! ## Members in the order of a document -/

/-- The members that are left when some are set one after the other. -/
def insertAll (done : List (String × Json)) (members : List (String × Json)) :
    List (String × Json) :=
  members.foldl (fun done e => insert e.1 e.2 done) done

theorem insert_perm {k : String} {v : Json} {members : List (String × Json)}
    (h : k ∉ members.map (·.1)) : (insert k v members).Perm ((k, v) :: members) := by
  induction members with
  | nil => exact .refl _
  | cons first rest ih =>
    rw [List.map_cons, List.mem_cons, not_or] at h
    rw [insert]
    split
    · exact .refl _
    · rw [if_neg h.1]
      exact ((ih h.2).cons first).trans (.swap ..)

/-- Members of different names are all kept. -/
theorem insertAll_perm {done members : List (String × Json)}
    (h : ((done ++ members).map (·.1)).Nodup) :
    (insertAll done members).Perm (done ++ members) := by
  induction members generalizing done with
  | nil => simp [insertAll]
  | cons e rest ih =>
    obtain ⟨k, v⟩ := e
    have hNew : k ∉ done.map (·.1) := by
      intro hMem
      rw [List.map_append, List.nodup_append] at h
      exact h.2.2 k hMem k (by simp) rfl
    have hFirst : (insert k v done ++ rest).Perm (done ++ (k, v) :: rest) :=
      ((insert_perm hNew).append_right rest).trans List.perm_middle.symm
    exact (ih ((hFirst.map _).nodup_iff.2 h)).trans hFirst

/-- What stands under a name does not depend on the order. -/
theorem member?_insertAll {members : List (String × Json)} (h : (members.map (·.1)).Nodup)
    (name : String) : member? name (insertAll [] members) = member? name members := by
  have hPerm : (insertAll [] members).Perm ([] ++ members) := insertAll_perm h
  exact (member?_perm hPerm.symm h name).symm

/-- Members that are in order are left as they are. -/
theorem insertAll_of_ordered {done members : List (String × Json)} (h : MembersOrdered members)
    (hDone : ∀ e ∈ members, ∀ e' ∈ done, e'.1 < e.1) :
    insertAll done members = done ++ members := by
  induction members generalizing done with
  | nil => simp [insertAll]
  | cons e rest ih =>
    obtain ⟨k, v⟩ := e
    obtain ⟨hFirst, -, hRest⟩ := h
    have hLast : insert k v done = done ++ [(k, v)] := insert_last (hDone (k, v) List.mem_cons_self)
    have hOthers := ih hRest (before_snoc hFirst hDone)
    rw [List.append_assoc, List.singleton_append, ← hLast] at hOthers
    exact hOthers

theorem nodup_of_ordered {members : List (String × Json)} (h : MembersOrdered members) :
    (members.map (·.1)).Nodup := by
  induction members with
  | nil => exact .nil
  | cons e rest ih =>
    obtain ⟨hFirst, -, hRest⟩ := h
    refine List.nodup_cons.2 ⟨fun hMem => ?_, ih hRest⟩
    obtain ⟨e', hMem', hName⟩ := List.mem_map.1 hMem
    exact (hFirst e' hMem').ne hName.symm

/-! ## Documents and values -/

namespace Node

mutual

/-- The document bears the value. -/
inductive Bears : Node → Json → Prop
  | null {start stop : Option Place} : Bears (.null start stop) .null
  | bool {b : Bool} {start stop : Option Place} : Bears (.bool b start stop) (.bool b)
  | number {n : Number} {start stop : Option Place} : Bears (.number (.ok n) start stop) (.number n)
  | string {s : String} {start stop : Option Place} : Bears (.string (.ok s) start stop) (.string s)
  | array {start stop : Option Place} {depth : Nat} {first : Close} {items : List (Node × Close)}
    {ws : List Json} (hEnter : enter start depth = .ok ()) (hItems : ItemsBear first items ws) :
    Bears (.array start depth first items (.closed stop)) (.array ws)
  | object {start stop : Option Place} {depth : Nat} {lead : Option Fault}
    {members : List (Member Node)} {found ws : List (String × Json)}
    (hEnter : enter start depth = .ok ()) (hMembers : MembersBear members found)
    (hNodup : (found.map (·.1)).Nodup) (hValue : insertAll [] found = ws) :
    Bears (.object start depth lead members (.closed stop)) (.object ws)

/-- The items bear the values, and closing the array fails before each of them and succeeds behind
the last one. -/
inductive ItemsBear : Close → List (Node × Close) → List Json → Prop
  | nil {first : Close} (hLast : first.fault = none) : ItemsBear first [] []
  | cons {first close : Close} {node : Node} {v : Json} {rest : List (Node × Close)}
    {vs : List Json} (hMore : first.fault ≠ none) (hNode : Bears node v)
    (hRest : ItemsBear close rest vs) : ItemsBear first ((node, close) :: rest) (v :: vs)

/-- The members bear the values under their names, in the order of the document. -/
inductive MembersBear : List (Member Node) → List (String × Json) → Prop
  | nil : MembersBear [] []
  | cons {k : String} {stop next : Option Place} {close : Close} {node : Node} {v : Json}
    {rest : List (Member Node)} {found : List (String × Json)} (hNode : Bears node v)
    (hRest : MembersBear rest found) :
    MembersBear (⟨.ok k, stop, close, .ok node, next⟩ :: rest) ((k, v) :: found)

end

theorem memberNames_of_bear {members : List (Member Node)} {found : List (String × Json)}
    (h : MembersBear members found) : memberNames members = found.map (·.1) := by
  induction members generalizing found with
  | nil => cases h; rfl
  | cons member rest ih =>
    cases h with
    | cons hNode hRest => simpa [memberNames, Except.toOption] using ih hRest

mutual

/-- **A document bears its value** if it ends where it is closed and repeats no names. -/
theorem bears_of_toJson {node : Node} {w : Json} (hCloses : node.Closes) (hEnds : node.Ends)
    (hDistinct : node.isDistinct = true) (hValue : node.toJson = .ok w) : node.Bears w := by
  cases node with
  | missing | broken =>
    rw [toJson] at hValue
    contradiction
  | null | bool =>
    rw [toJson] at hValue
    obtain rfl := Except.ok.inj hValue
    constructor
  | number value | string value =>
    cases value with
    | error fault => simp [toJson, Except.map] at hValue
    | ok value =>
      rw [toJson] at hValue
      obtain rfl := Except.ok.inj hValue
      constructor
  | array start depth first items tail =>
    obtain ⟨hEnter, ws, hItems, rfl⟩ := toJson_array.1 hValue
    rw [isDistinct] at hDistinct
    obtain ⟨hTail, hBear⟩ := itemsBear_of_toJson hCloses.1 hCloses.2 hEnds.2 hDistinct hItems
    obtain ⟨stop, rfl⟩ := hTail
    exact .array hEnter (hBear (hEnds.1 stop rfl))
  | object start depth lead members tail =>
    obtain ⟨hEnter, ws, hMembers, rfl⟩ := toJson_object.1 hValue
    rw [isDistinct, Bool.and_eq_true, decide_eq_true_eq] at hDistinct
    obtain ⟨⟨stop, rfl⟩, found, hBear, hFound⟩ :=
      membersBear_of_toJson hCloses hEnds hDistinct.2 hMembers
    exact .object hEnter hBear (memberNames_of_bear hBear ▸ hDistinct.1) hFound

theorem itemsBear_of_toJson {tail : Tail} {index : Nat} {first : Close}
    {items : List (Node × Close)} {ws : List Json} (hFirst : first.fault = none → items = [])
    (hCloses : ItemsClose items) (hEnds : ItemsEnd items) (hDistinct : itemsDistinct items = true)
    (hValue : itemsToJson tail index items = .ok ws) :
    (∃ stop, tail = .closed stop) ∧
      ((lastClose first items).fault = none → ItemsBear first items ws) := by
  cases items with
  | nil =>
    obtain ⟨hTail, rfl⟩ := itemsToJson_nil.1 hValue
    exact ⟨hTail, .nil⟩
  | cons item rest =>
    obtain ⟨node, close⟩ := item
    obtain ⟨v, hNode, vs, hRest, rfl⟩ := itemsToJson_cons.1 hValue
    obtain ⟨hOwn, hClose, hOthers⟩ := hCloses
    rw [itemsDistinct, Bool.and_eq_true] at hDistinct
    obtain ⟨hTail, hBear⟩ := itemsBear_of_toJson hClose hOthers hEnds.2 hDistinct.2 hRest
    refine ⟨hTail, fun hLast => ?_⟩
    exact .cons (fun hNone => by simpa using hFirst hNone)
      (bears_of_toJson hOwn hEnds.1 hDistinct.1 hNode) (hBear hLast)

theorem membersBear_of_toJson {tail : Tail} {done ws : List (String × Json)}
    {members : List (Member Node)} (hCloses : MembersClose members) (hEnds : MembersEnd members)
    (hDistinct : membersDistinct members = true)
    (hValue : membersToJson tail done members = .ok ws) :
    (∃ stop, tail = .closed stop) ∧
      ∃ found, MembersBear members found ∧ insertAll done found = ws := by
  cases members with
  | nil =>
    obtain ⟨hTail, rfl⟩ := membersToJson_nil.1 hValue
    exact ⟨hTail, [], .nil, rfl⟩
  | cons member rest =>
    obtain ⟨name, stop, close, value, next⟩ := member
    obtain ⟨k, node, v, hName, hOwn, hNode, hRest⟩ := membersToJson_cons.1 hValue
    cases value with
    | error fault => contradiction
    | ok own =>
      obtain rfl := Except.ok.inj hOwn
      dsimp only at hName
      subst hName
      rw [membersDistinct, Bool.and_eq_true] at hDistinct
      obtain ⟨hTail, found, hBear, hFound⟩ :=
        membersBear_of_toJson hCloses.2 hEnds.2 hDistinct.2 hRest
      exact ⟨hTail, (k, v) :: found,
        .cons (bears_of_toJson hCloses.1 hEnds.1 hDistinct.1 hNode) hBear, hFound⟩

end

theorem closeMade_of_length (count : Nat) : (closeMade count count).fault = none := by
  simp [closeMade]

theorem closeMade_of_lt {count index : Nat} (h : index < count) :
    (closeMade count index).fault ≠ none := by
  simp [closeMade, h]

mutual

/-- A value that was made bears itself, if its members are in order. -/
theorem bears_ofJson {w : Json} (h : w.Ordered) : (ofJson w).Bears w := by
  cases w with
  | null | bool | number | string =>
    rw [ofJson]
    constructor
  | array items =>
    rw [ofJson]
    exact .array rfl (itemsBear_itemsOfJson (Nat.zero_add _) h)
  | object members =>
    rw [ofJson]
    exact .object rfl (membersBear_membersOfJson h) (nodup_of_ordered h)
      (insertAll_of_ordered h (by simp))

theorem itemsBear_itemsOfJson {count index : Nat} {items : List Json}
    (hCount : index + items.length = count) (h : ItemsOrdered items) :
    ItemsBear (closeMade count index) (itemsOfJson count (index + 1) items) items := by
  cases items with
  | nil =>
    obtain rfl : index = count := by simpa using hCount
    rw [itemsOfJson]
    exact .nil (closeMade_of_length index)
  | cons v rest =>
    rw [List.length_cons] at hCount
    rw [itemsOfJson]
    exact .cons (closeMade_of_lt (by omega)) (bears_ofJson h.1)
      (itemsBear_itemsOfJson (by omega) h.2)

theorem membersBear_membersOfJson {members : List (String × Json)} (h : MembersOrdered members) :
    MembersBear (membersOfJson members) members := by
  cases members with
  | nil =>
    rw [membersOfJson]
    exact .nil
  | cons member rest =>
    obtain ⟨k, v⟩ := member
    rw [membersOfJson]
    exact .cons (bears_ofJson h.2.1) (membersBear_membersOfJson h.2.2)

end

mutual

/-- The document is read as the value that it bears. -/
theorem toJson_of_bears {node : Node} {w : Json} (h : node.Bears w) : node.toJson = .ok w := by
  cases node with
  | missing | broken => cases h
  | null | bool =>
    cases h
    rw [toJson]
  | number | string =>
    cases h
    rw [toJson]
    rfl
  | array start depth first items tail =>
    cases h with
    | array hEnter hItems =>
      exact toJson_array.2 ⟨hEnter, _, itemsToJson_of_bear hItems, rfl⟩
  | object start depth lead members tail =>
    cases h with
    | object hEnter hMembers hNodup hValue =>
      exact toJson_object.2 ⟨hEnter, _, membersToJson_of_bear hMembers, by rw [hValue]⟩

theorem itemsToJson_of_bear {first : Close} {items : List (Node × Close)} {ws : List Json}
    {stop : Option Place} {index : Nat} (h : ItemsBear first items ws) :
    itemsToJson (.closed stop) index items = .ok ws := by
  cases items with
  | nil =>
    cases h
    rw [itemsToJson]
  | cons item rest =>
    obtain ⟨node, close⟩ := item
    cases h with
    | cons hMore hNode hRest =>
      exact itemsToJson_cons.2 ⟨_, toJson_of_bears hNode, _, itemsToJson_of_bear hRest, rfl⟩

theorem membersToJson_of_bear {members : List (Member Node)} {found done : List (String × Json)}
    {stop : Option Place} (h : MembersBear members found) :
    membersToJson (.closed stop) done members = .ok (insertAll done found) := by
  cases members with
  | nil =>
    cases h
    rw [membersToJson]
    rfl
  | cons member rest =>
    obtain ⟨name, own, close, value, next⟩ := member
    cases value with
    | error fault => cases h
    | ok node =>
      cases h with
      | cons hNode hRest =>
        exact membersToJson_cons.2
          ⟨_, _, _, rfl, rfl, toJson_of_bears hNode, membersToJson_of_bear hRest⟩

end

mutual

/-- Nothing is wrong with it where nobody reads it, either. -/
theorem skip_of_bears {node : Node} {w : Json} (h : node.Bears w) : node.skip = .ok () := by
  cases node with
  | missing | broken => cases h
  | null | bool | number | string => rw [skip]
  | array start depth first items tail =>
    cases h with
    | array hEnter hItems =>
      rw [skip, skipItems_of_bear hItems]
      rfl
  | object start depth lead members tail =>
    cases h with
    | object hEnter hMembers hNodup hValue =>
      rw [skip, skipMembers_of_bear hMembers]
      rfl

theorem skipItems_of_bear {first : Close} {items : List (Node × Close)} {ws : List Json}
    (h : ItemsBear first items ws) : skipItems items = .ok () := by
  cases items with
  | nil => rw [skipItems]
  | cons item rest =>
    obtain ⟨node, close⟩ := item
    cases h with
    | cons hMore hNode hRest =>
      rw [skipItems, skip_of_bears hNode]
      exact skipItems_of_bear hRest

theorem skipMembers_of_bear {members : List (Member Node)} {found : List (String × Json)}
    (h : MembersBear members found) : skipMembers members = .ok () := by
  cases members with
  | nil => rw [skipMembers]
  | cons member rest =>
    obtain ⟨name, stop, close, value, next⟩ := member
    cases value with
    | error fault => cases h
    | ok node =>
      cases h with
      | cons hNode hRest =>
        rw [skipMembers, skip_of_bears hNode]
        exact skipMembers_of_bear hRest

end

end Node

end Json

/-- **Arrays of a text that are closed can be closed behind their last items.** -/
theorem Document.ends (text : String) : (Document.ofText text).root.Ends :=
  (Json.readEnds _).node _ _

/-- A text that is read as a value and repeats no names bears the value. -/
theorem Document.bears {text : String} {w : Json} (hValue : Json.parse text = .ok w)
    (hDistinct : (Document.ofText text).root.isDistinct = true) :
    (Document.ofText text).root.Bears w ∧ (Document.ofText text).trailing = none := by
  obtain ⟨v, hRoot, hTrailing⟩ := Json.bind_eq_ok.1 hValue
  split at hTrailing
  · contradiction
  · next hNone =>
    obtain rfl := Except.ok.inj hTrailing
    exact ⟨Json.Node.bears_of_toJson (Document.closes text) (Document.ends text) hDistinct hRoot,
      hNone⟩

end SessionReplay
