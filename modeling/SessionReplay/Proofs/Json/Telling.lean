import SessionReplay.Proofs.Json.OneLine
import SessionReplay.Proofs.Json.Order
import SessionReplay.Recording.Basic

/-!
# Readers tell of faults on one line

What is wrong with a recording or a step is told on one line, whatever stands in it.

* `Node.Telling`: a reader whose faults stand on one line where those of the document do.
* `Fields.Telling`, `Fields.telling_decode`: readers of records, put together from their fields.
* `Recording.isLine_of_ofText`: the reader of recordings.
* `Step.isLine_of_decodeValue`: the reader of steps.
-/

namespace SessionReplay

namespace Json

open Text

namespace Node

/-- The faults of a reader stand on one line. -/
def Telling {α : Type} (read : Node → Except Fault α) : Prop :=
  ∀ node, node.OneLine → Tells (read node)

theorem tells_enter (start : Option Place) (depth : Nat) : Tells (enter start depth) := by
  unfold enter
  split
  · exact tells_ok _
  · exact tells_grammar _ _

theorem tells_kindFault {α : Type} {node : Node} (h : node.OneLine) {wanted : String}
    (hWanted : IsLine wanted) : Tells (.error (node.kindFault wanted) : Except Fault α) :=
  tells_error (oneLine_kindFault h hWanted)

/-! ## Skipped values -/

mutual

theorem telling_skip {node : Node} (h : node.OneLine) : Tells node.skip := by
  cases node with
  | missing => exact tells_grammar _ _
  | broken => exact tells_error h.2
  | null | bool | number | string => exact tells_ok _
  | array =>
    rw [skip]
    exact (telling_skipItems h.2.1).bind fun _ _ => tells_skipTail h.2.2
  | object =>
    rw [skip]
    exact (telling_skipMembers h.2.1).bind fun _ _ => tells_skipTail h.2.2

theorem telling_skipItems {items : List (Node × Close)} (h : ItemsOneLine items) :
    Tells (skipItems items) := by
  cases items with
  | nil => exact tells_ok _
  | cons item rest =>
    obtain ⟨node, close⟩ := item
    rw [skipItems]
    exact (telling_skip h.1).bind fun _ _ => telling_skipItems h.2.2

theorem telling_skipMembers {members : List (Member Node)} (h : MembersOneLine members) :
    Tells (skipMembers members) := by
  cases members with
  | nil => exact tells_ok _
  | cons member rest =>
    obtain ⟨name, stop, close, value, next⟩ := member
    cases value with
    | error f => exact tells_error h.2.1
    | ok node =>
      rw [skipMembers]
      exact (telling_skip h.2.1).bind fun _ _ => telling_skipMembers h.2.2

theorem tells_skipTail {tail : Tail} (h : tail.OneLine) : Tells (skipTail tail) := by
  cases tail with
  | closed => exact tells_ok _
  | broken => exact tells_error h.2

end

/-! ## Free values -/

mutual

theorem tells_toJson {node : Node} (h : node.OneLine) : Tells node.toJson := by
  cases node with
  | missing => exact tells_grammar _ _
  | broken => exact tells_error h.1
  | null | bool => exact tells_ok _
  | number | string => exact Tells.map h _
  | array =>
    rw [toJson]
    exact (tells_enter _ _).bind fun _ _ => (tells_itemsToJson h.2.1 h.2.2 0).map _
  | object =>
    rw [toJson]
    exact (tells_enter _ _).bind fun _ _ => (tells_membersToJson h.2.1 h.2.2 []).map _

theorem tells_itemsToJson {tail : Tail} {items : List (Node × Close)} (h : ItemsOneLine items)
    (hTail : tail.OneLine) (index : Nat) : Tells (itemsToJson tail index items) := by
  cases items with
  | nil =>
    cases tail with
    | closed => exact tells_ok _
    | broken => exact tells_error hTail.1
  | cons item rest =>
    obtain ⟨node, close⟩ := item
    rw [itemsToJson]
    refine ((tells_toJson h.1).within _).bind fun _ _ => ?_
    exact (tells_itemsToJson h.2.2 hTail (index + 1)).bind fun _ _ => tells_ok _

theorem tells_membersToJson {tail : Tail} {members : List (Member Node)}
    (h : MembersOneLine members) (hTail : tail.OneLine) (done : List (String × Json)) :
    Tells (membersToJson tail done members) := by
  cases members with
  | nil =>
    cases tail with
    | closed => exact tells_ok _
    | broken => exact tells_error hTail.1
  | cons member rest =>
    obtain ⟨name, stop, close, value, next⟩ := member
    cases value with
    | error f =>
      rw [membersToJson]
      exact (Tells.within h.1 _).bind fun _ _ => tells_error h.2.1
    | ok node =>
      rw [membersToJson]
      refine (Tells.within h.1 _).bind fun _ _ => ?_
      refine ((tells_toJson h.2.1).within _).bind fun _ _ => ?_
      exact tells_membersToJson h.2.2 hTail _

end

/-! ## Values of a known kind -/

section Readers

variable {α β : Type} {read : Node → Except Fault α}

theorem telling_toJson : Telling toJson := fun _ => tells_toJson

theorem telling_map (h : Telling read) (f : α → β) : Telling fun node => f <$> read node :=
  fun node hNode => (h node hNode).map f

theorem telling_asString : Telling asString := by
  intro node h
  cases node with
  | string => exact h
  | _ => exact tells_kindFault h (by decide)

theorem telling_asDouble : Telling asDouble := by
  intro node h
  cases node with
  | number => exact Tells.map h _
  | _ => exact tells_kindFault h (by decide)

theorem telling_asInteger {wanted : String} (hWanted : IsLine wanted) (low high : Int) :
    Telling (asInteger wanted low high) := by
  intro node h
  cases node with
  | number value start stop =>
    refine Tells.bind h fun n _ => ?_
    split
    · exact tells_error (oneLine_invalidType _ hWanted _)
    · split
      · exact tells_ok _
      · exact tells_error (oneLine_invalidValue _ hWanted _)
  | _ => exact tells_kindFault h hWanted

theorem telling_asWord {wanted : String} (hWanted : IsLine wanted) : Telling (asWord wanted) :=
  telling_map (telling_asInteger hWanted _ _) _

theorem telling_asOption (h : Telling read) : Telling (asOption read) := by
  intro node hNode
  cases node with
  | null => exact tells_ok _
  | _ => exact (h _ hNode).map _

theorem tells_readEach (h : Telling read) {tail : Tail} {items : List (Node × Close)}
    (hItems : ItemsOneLine items) (hTail : tail.OneLine) (index : Nat) :
    Tells (readEach read tail index items) := by
  induction items generalizing index with
  | nil =>
    cases tail with
    | closed => exact tells_ok _
    | broken => exact tells_error hTail.1
  | cons item rest ih =>
    obtain ⟨node, close⟩ := item
    obtain ⟨hNode, -, hRest⟩ := hItems
    refine ((h node hNode).ofItem _ _).bind fun _ _ => ?_
    exact (ih hRest (index + 1)).bind fun _ _ => tells_ok _

theorem telling_asList (h : Telling read) : Telling (asList read) := by
  intro node hNode
  cases node with
  | array => exact (tells_enter _ _).bind fun _ _ => tells_readEach h hNode.2.1 hNode.2.2 0
  | _ => exact tells_kindFault hNode (by decide)

theorem telling_asListOrNull (h : Telling read) : Telling (asListOrNull read) :=
  telling_map (telling_asOption (telling_asList h)) _

theorem telling_asPixels : Telling asPixels := telling_map telling_toJson _

theorem telling_asLenientText : Telling asLenientText := telling_map telling_toJson _

theorem telling_asSelectorGroup : Telling asSelectorGroup := by
  intro node h
  refine (tells_toJson h).bind fun v _ => ?_
  split
  · exact tells_ok _
  · exact tells_error (List.forall_mem_singleton.2 (by decide))

end Readers

theorem oneLine_of_mem {items : List (Node × Close)} (h : ItemsOneLine items) {item : Node × Close}
    (hMem : item ∈ items) : item.1.OneLine ∧ item.2.OneLine := by
  induction items with
  | nil => contradiction
  | cons first rest ih =>
    rcases List.mem_cons.1 hMem with rfl | hMem
    · exact ⟨h.1, h.2.1⟩
    · exact ih h.2.2 hMem

end Node

/-! ## Records -/

/-- The values that a record is read from have their faults on one line. -/
def Slots.OneLine : Slots → Prop
  | .members nodes => ∀ e ∈ nodes, e.2.OneLine
  | .items record _ nodes tail => IsLine record ∧ Node.ItemsOneLine nodes ∧ tail.OneLine

namespace Fields

variable {α β : Type}

/-- The fields of a record whose reader tells of faults on one line. -/
structure Telling (fs : Fields α) : Prop where
  check : ∀ name check, fs.check name = some check → IsLine name ∧ Node.Telling check
  build : ∀ slots, slots.OneLine → Tells (fs.build slots)

theorem isLine_recordText {record : String} (h : IsLine record) : IsLine (recordText record) :=
  isLine_append.2 ⟨by decide, h⟩

theorem isLine_recordSize {record : String} (h : IsLine record) (count : Nat) :
    IsLine (recordSize record count) := by
  have hWith : IsLine " with " := by decide
  have hElement : IsLine " element" := by decide
  unfold recordSize
  refine isLine_append.2 ⟨isLine_append.2 ⟨isLine_recordText h, ?_⟩, ?_⟩
  · exact isLine_append.2 ⟨isLine_append.2 ⟨hWith, isLine_nat count⟩, hElement⟩
  · split <;> decide

theorem tells_fetch {name : String} (hName : IsLine name) {read : Node → Except Fault α}
    (h : Node.Telling read) (absence : Absence α) {slots : Slots} (hSlots : slots.OneLine) :
    Tells (slots.fetch name read absence) := by
  cases slots with
  | members nodes =>
    simp only [Slots.fetch]
    split
    · next key node hFind =>
      exact (h node (hSlots _ (List.mem_of_find?_eq_some hFind))).within _
    · split
      · exact tells_error (List.forall_mem_singleton.2 hName)
      · exact tells_ok _
      · exact tells_ok _
  | items record names nodes tail =>
    obtain ⟨hRecord, hItems, hTail⟩ := hSlots
    have hLength : (Fault.plain
        (.invalidLength (names.idxOf name) (recordSize record names.length))).OneLine :=
      List.forall_mem_singleton.2 (isLine_recordSize hRecord _)
    simp only [Slots.fetch]
    split
    · next node close hItem =>
      obtain ⟨hNode, -⟩ := Node.oneLine_of_mem hItems (List.mem_of_getElem? hItem)
      exact (h node hNode).ofItem _ _
    · split
      · exact tells_error hTail.1
      · split
        · exact tells_ok _
        · exact tells_error hLength
        · exact tells_error hLength

theorem telling_field {name : String} (hName : IsLine name) {read : Node → Except Fault α}
    (h : Node.Telling read) (absence : Absence α) : (field name read absence).Telling where
  check other check hCheck := by
    simp only [field, Option.ite_none_right_eq_some, Option.some.injEq] at hCheck
    obtain ⟨rfl, rfl⟩ := hCheck
    exact ⟨hName, Node.telling_map h _⟩
  build _ hSlots := tells_fetch hName h absence hSlots

theorem telling_optional {name : String} (hName : IsLine name) {read : Node → Except Fault α}
    (h : Node.Telling read) : (optional name read).Telling :=
  telling_field hName (Node.telling_asOption h) _

theorem telling_map {fs : Fields α} (h : fs.Telling) (f : α → β) : (f <$> fs).Telling where
  check := h.check
  build slots hSlots := (h.build slots hSlots).map f

theorem telling_seq {fs : Fields (α → β)} {gs : Fields α} (hFs : fs.Telling) (hGs : gs.Telling) :
    (fs <*> gs).Telling where
  check name check hCheck :=
    (check_of_seq hCheck).elim (hFs.check name check) (hGs.check name check)
  build slots hSlots :=
    (hFs.build slots hSlots).bind fun _ _ => (hGs.build slots hSlots).bind fun _ _ => tells_ok _

/-- Scanning tells of faults on one line, and so do the members that it leaves. -/
theorem telling_scan {fs : Fields α} (h : fs.Telling) {seen : List (String × Node)}
    (hSeen : (Slots.members seen).OneLine) {members : List (Member Node)}
    (hMembers : Node.MembersOneLine members) :
    Tells (fs.scan seen members) ∧
      ∀ nodes, fs.scan seen members = .ok nodes → (Slots.members nodes).OneLine := by
  induction members generalizing seen with
  | nil =>
    refine ⟨tells_ok _, ?_⟩
    rintro _ ⟨⟩ e hMem
    exact hSeen e (List.mem_reverse.1 hMem)
  | cons member rest ih =>
    obtain ⟨name, stop, close, value, next⟩ := member
    have hName : Tells name := by cases value <;> exact hMembers.1
    have hValue : Tells value := by
      cases value with
      | error f => exact tells_error hMembers.2.1
      | ok node => exact tells_ok node
    have hNode : ∀ node, value = .ok node → node.OneLine := by
      rintro node rfl
      exact hMembers.2.1
    have hRest : Node.MembersOneLine rest := by cases value <;> exact hMembers.2.2
    rw [scan]
    constructor
    · refine (hName.within _).bind fun k _ => ?_
      split
      · refine hValue.bind fun node hIs => ?_
        exact ((Node.telling_skip (hNode node hIs)).within _).bind fun _ _ => (ih hSeen hRest).1
      · next check hCheck =>
        obtain ⟨hKey, hTelling⟩ := h.check k check hCheck
        split
        · exact tells_error (List.forall_mem_singleton.2 hKey)
        · refine hValue.bind fun node hIs => ?_
          refine ((hTelling node (hNode node hIs)).within _).bind fun _ _ => ?_
          exact (ih (List.forall_mem_cons.2 ⟨hNode node hIs, hSeen⟩) hRest).1
    · intro nodes hScan
      obtain ⟨k, -, hScan⟩ := bind_eq_ok.1 hScan
      split at hScan
      · obtain ⟨node, -, hScan⟩ := bind_eq_ok.1 hScan
        obtain ⟨-, -, hScan⟩ := bind_eq_ok.1 hScan
        exact (ih hSeen hRest).2 nodes hScan
      · split at hScan
        · contradiction
        · obtain ⟨node, hIs, hScan⟩ := bind_eq_ok.1 hScan
          obtain ⟨-, -, hScan⟩ := bind_eq_ok.1 hScan
          exact (ih (List.forall_mem_cons.2 ⟨hNode node hIs, hSeen⟩) hRest).2 nodes hScan

theorem oneLine_closeAfter {first : Close} {items : List (Node × Close)} (hFirst : first.OneLine)
    (hItems : Node.ItemsOneLine items) (count : Nat) : (closeAfter count first items).OneLine := by
  unfold closeAfter
  split
  · next hLast =>
    exact (Node.oneLine_of_mem hItems (List.mem_of_mem_take (List.mem_of_getLast? hLast))).2
  · exact hFirst

/-- **A record tells of its faults on one line if its fields do.** -/
theorem telling_decode {record : String} (hRecord : IsLine record) {fs : Fields α}
    (h : fs.Telling) : Node.Telling (decode record fs) := by
  intro node hNode
  cases node with
  | object start depth lead members tail =>
    obtain ⟨-, hMembers, hTail⟩ := hNode
    have hNone : (Slots.members []).OneLine := nofun
    obtain ⟨hTells, hLeft⟩ := telling_scan h hNone hMembers
    refine (Node.tells_enter _ _).bind fun _ _ => hTells.bind fun nodes hScan => ?_
    cases tail with
    | broken => exact tells_error hTail.1
    | closed => exact (h.build _ (hLeft nodes hScan)).placedAt _
  | array start depth first items tail =>
    obtain ⟨hFirst, hItems, hTail⟩ := hNode
    have hClose := oneLine_closeAfter hFirst hItems fs.names.length
    refine (Node.tells_enter _ _).bind fun _ _ => ?_
    have hSlots : (Slots.items record fs.names items tail).OneLine := ⟨hRecord, hItems, hTail⟩
    refine ((h.build _ hSlots).placedAt _).bind fun _ _ => ?_
    split
    · next f hFault => exact tells_error (hClose f hFault)
    · exact tells_ok _
  | _ => exact Node.tells_kindFault hNode (isLine_recordText hRecord)

end Fields

/-! ## Values that were made -/

namespace Node

theorem oneLine_closeMade (count index : Nat) : (closeMade count index).OneLine := by
  intro f hFault
  simp only [closeMade, Option.ite_none_right_eq_some, Option.some.injEq] at hFault
  obtain ⟨-, rfl⟩ := hFault
  exact List.forall_mem_singleton.2 (by decide)

mutual

theorem oneLine_ofJson (v : Json) : (ofJson v).OneLine := by
  cases v with
  | null | bool => rw [ofJson]; trivial
  | number | string => rw [ofJson]; exact tells_ok _
  | array items =>
    rw [ofJson]
    exact ⟨oneLine_closeMade _ _, oneLine_itemsOfJson _ _ items, trivial⟩
  | object members =>
    rw [ofJson]
    exact ⟨nofun, oneLine_membersOfJson members, trivial⟩

theorem oneLine_itemsOfJson (count index : Nat) (items : List Json) :
    ItemsOneLine (itemsOfJson count index items) := by
  cases items with
  | nil => rw [itemsOfJson]; trivial
  | cons v rest =>
    rw [itemsOfJson]
    exact ⟨oneLine_ofJson v, oneLine_closeMade _ _, oneLine_itemsOfJson _ _ rest⟩

theorem oneLine_membersOfJson (members : List (String × Json)) :
    MembersOneLine (membersOfJson members) := by
  cases members with
  | nil => rw [membersOfJson]; trivial
  | cons member rest =>
    obtain ⟨k, v⟩ := member
    rw [membersOfJson]
    exact ⟨tells_ok k, oneLine_ofJson v, oneLine_membersOfJson rest⟩

end

end Node

theorem tells_decodeText {α : Type} {read : Node → Except Fault α} (h : Node.Telling read)
    (text : String) : Tells (decodeText read text) := by
  refine (h _ (Document.oneLine text)).bind fun _ _ => ?_
  split
  · next f hTrailing => exact tells_error (Document.oneLine_trailing hTrailing)
  · exact tells_ok _

theorem tells_decodeValue {α : Type} {read : Node → Except Fault α} (h : Node.Telling read)
    (v : Json) : Tells (decodeValue read v) :=
  h _ (Node.oneLine_ofJson v)

end Json

open Json Fields

/-! ## Recordings and steps -/

theorem Viewport.telling_decode : Node.Telling decode := by
  have hDimension : Node.Telling asDimension := Node.telling_map Node.telling_asPixels _
  exact Fields.telling_decode (by decide) (telling_seq
    (telling_map (telling_field (by decide) hDimension _) _)
    (telling_field (by decide) hDimension _))

theorem Recording.telling_decode : Node.Telling decode := by
  have hSteps := Node.telling_asListOrNull Node.telling_toJson
  exact Fields.telling_decode (by decide) (telling_seq (telling_seq
    (telling_map (telling_optional (by decide) Node.telling_asString) _)
    (telling_optional (by decide) Viewport.telling_decode))
    (telling_field (by decide) hSteps _))

theorem ScrollOffset.telling_decode : Node.Telling decode :=
  Fields.telling_decode (by decide) (telling_seq
    (telling_map (telling_field (by decide) Node.telling_asDouble _) _)
    (telling_field (by decide) Node.telling_asDouble _))

namespace Step

theorem telling_fields : fields.Telling := by
  have hUsize : Text.IsLine "usize" := by decide
  have hFrame := Node.telling_asListOrNull (Node.telling_asWord hUsize)
  have hGroups := Node.telling_asListOrNull Node.telling_asSelectorGroup
  have hString := Node.telling_asString
  have hLenient := Node.telling_asLenientText
  have hPixels := Node.telling_asPixels
  refine telling_seq ?_ (telling_field (by decide) hPixels _)
  refine telling_seq ?_ (telling_field (by decide) hPixels _)
  refine telling_seq ?_ (telling_optional (by decide) hString)
  refine telling_seq ?_ (telling_field (by decide) hFrame _)
  refine telling_seq ?_ (telling_optional (by decide) ScrollOffset.telling_decode)
  refine telling_seq ?_ (telling_field (by decide) hGroups _)
  refine telling_seq ?_ (telling_field (by decide) hLenient _)
  refine telling_seq ?_ (telling_field (by decide) hLenient _)
  refine telling_seq ?_ (telling_field (by decide) hLenient _)
  refine telling_seq ?_ (telling_optional (by decide) hString)
  exact telling_map (telling_field (by decide) (Node.telling_map hString _) _) _

theorem telling_decode : Node.Telling decode :=
  Fields.telling_decode (by decide) telling_fields

/-- **What is wrong with a step is told on one line.** -/
theorem isLine_of_decodeValue {v : Json} {f : Fault} (h : decodeValue decode v = .error f) :
    Text.IsLine f.message :=
  (tells_decodeValue telling_decode v f h).message

end Step

/-- **What is wrong with a recording is told on one line.** -/
theorem Recording.isLine_of_ofText {text : String} {f : Fault} (h : ofText text = .error f) :
    Text.IsLine f.message :=
  (tells_decodeText telling_decode text f h).message

end SessionReplay
