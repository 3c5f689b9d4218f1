import SessionReplay.Proofs.Json.Reading

/-!
# Where arrays can be closed

A document notes at each point of an array whether it could be closed there. Where a text was read,
it can be closed only behind its last item.

* `Node.Closes`: so it is with every array in a document.
* `Document.closes`: so it is with every document that was read.
-/

namespace SessionReplay.Json

namespace Node

mutual

/-- No array can be closed before an item. -/
def Closes : Node → Prop
  | .array _ _ first items _ => (first.fault = none → items = []) ∧ ItemsClose items
  | .object _ _ _ members _ => MembersClose members
  | .missing .. | .broken .. | .null .. | .bool .. | .number .. | .string .. => True

def ItemsClose : List (Node × Close) → Prop
  | [] => True
  | (node, close) :: rest =>
    Closes node ∧ (close.fault = none → rest = []) ∧ ItemsClose rest

def MembersClose : List (Member Node) → Prop
  | [] => True
  | ⟨_, _, _, .error _, _⟩ :: rest => MembersClose rest
  | ⟨_, _, _, .ok node, _⟩ :: rest => Closes node ∧ MembersClose rest

end

end Node

open Node

theorem bracket_of_closeList {c : Cursor} (h : c.closeList.fault = none) :
    ∃ rest, c.skipSpace.rest = ']' :: rest := by
  unfold Cursor.closeList at h
  dsimp only at h
  split at h
  · contradiction
  · next rest hRest => exact ⟨rest, hRest⟩
  · split at h <;> contradiction
  · contradiction

/-- Where an array can be closed there are no more items. -/
theorem items_of_closeList {c : Cursor} (h : c.closeList.fault = none) (fuel depth : Nat)
    (first : Bool) : (readItems fuel depth first c).value.1 = [] := by
  obtain ⟨rest, hRest⟩ := bracket_of_closeList h
  cases fuel with
  | zero => rw [readItems]; rfl
  | succ fuel =>
    rw [readItems]
    simp only [hRest]

theorem closes_readNamed (c : Cursor) (more : List Char) {node : Option Place → Node}
    (h : ∀ stop, (node stop).Closes) : (readNamed c more node).value.Closes := by
  unfold readNamed
  split
  · exact h _
  · trivial

theorem closes_readNumeral (c first : Cursor) (negative : Bool) :
    (readNumeral c first negative).value.Closes := by
  unfold readNumeral
  dsimp only
  split
  · trivial
  · split <;> trivial

/-- What is read with a count of steps can be closed only behind its last item. -/
structure ReadCloses (fuel : Nat) : Prop where
  node : ∀ depth c, (readNode fuel depth c).value.Closes
  items : ∀ depth first c, ItemsClose (readItems fuel depth first c).value.1
  item : ∀ depth c, ItemsClose (readItem fuel depth c).value.1
  members : ∀ depth first c, MembersClose (readMembers fuel depth first c).value.1
  member : ∀ depth c, MembersClose (readMember fuel depth c).value.1

theorem readCloses_zero : ReadCloses 0 where
  node _ _ := by rw [readNode]; trivial
  items _ _ _ := by rw [readItems]; trivial
  item _ _ := by rw [readItem]; trivial
  members _ _ _ := by rw [readMembers]; trivial
  member _ _ := by rw [readMember]; trivial

namespace ReadCloses

variable {fuel : Nat}

theorem readNode_succ (h : ReadCloses fuel) (depth : Nat) (c : Cursor) :
    (readNode (fuel + 1) depth c).value.Closes := by
  rw [readNode]
  dsimp only
  split
  · trivial
  · exact closes_readNamed _ _ fun _ => trivial
  · exact closes_readNamed _ _ fun _ => trivial
  · exact closes_readNamed _ _ fun _ => trivial
  · split <;> trivial
  · exact ⟨fun hClose => items_of_closeList hClose _ _ _, h.items _ _ _⟩
  · exact h.members _ _ _
  · exact closes_readNumeral _ _ _
  · split
    · exact closes_readNumeral _ _ _
    · trivial

theorem readItems_succ (h : ReadCloses fuel) (depth : Nat) (first : Bool) (c : Cursor) :
    ItemsClose (readItems (fuel + 1) depth first c).value.1 := by
  have hRead := itemsRead fuel depth first c
  generalize readItems (fuel + 1) depth first c = part at hRead ⊢
  cases hRead with
  | closed | broken => trivial
  | item here => exact h.item _ _

theorem readItem_succ (h : ReadCloses fuel) (depth : Nat) (c : Cursor) :
    ItemsClose (readItem (fuel + 1) depth c).value.1 := by
  rw [readItem]
  dsimp only
  split
  · exact ⟨h.node _ _, fun _ => rfl, trivial⟩
  · next after _ =>
    exact ⟨h.node _ _, fun hClose => items_of_closeList hClose _ _ _, h.items _ _ _⟩

theorem readMembers_succ (h : ReadCloses fuel) (depth : Nat) (first : Bool) (c : Cursor) :
    MembersClose (readMembers (fuel + 1) depth first c).value.1 := by
  have hRead := membersRead fuel depth first c
  generalize readMembers (fuel + 1) depth first c = part at hRead ⊢
  cases hRead with
  | closed | broken => trivial
  | member here => exact h.member _ _

theorem readMember_succ (h : ReadCloses fuel) (depth : Nat) (c : Cursor) :
    MembersClose (readMember (fuel + 1) depth c).value.1 := by
  have hRead := memberRead fuel depth c
  generalize readMember (fuel + 1) depth c = part at hRead ⊢
  cases hRead with
  | unnamed | bare => trivial
  | last => exact ⟨h.node _ _, trivial⟩
  | more => exact ⟨h.node _ _, h.members _ _ _⟩

end ReadCloses

theorem readCloses (fuel : Nat) : ReadCloses fuel := by
  induction fuel with
  | zero => exact readCloses_zero
  | succ fuel ih =>
    exact ⟨ih.readNode_succ, ih.readItems_succ, ih.readItem_succ, ih.readMembers_succ,
      ih.readMember_succ⟩

end Json

/-- **Arrays of a text can be closed only behind their last items.** -/
theorem Document.closes (text : String) : (Document.ofText text).root.Closes :=
  (Json.readCloses _).node _ _

end SessionReplay
