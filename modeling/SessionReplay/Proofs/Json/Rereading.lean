import SessionReplay.Proofs.Json.Closing
import SessionReplay.Proofs.Json.Order
import SessionReplay.Recording.Basic

/-!
# A text and its value are read alike

What a reader makes of a text it also makes of the value of that text. The other way round it is
not so: a field that comes twice in a text spoils it, but its value has one of the two only.

* `Node.Holds`: a document that closes its arrays, and its value.
* `Node.Steady`: a reader that makes of the value what it makes of the document.
* `Fields.Steady`, `Fields.steady_decode`: readers of records, put together from their fields.
* `Json.decodeValue_of_decodeText`: every steady reader, on a text and on its value.
* `Recording.decodeValue_of_ofText`: the reader of recordings.
-/

namespace SessionReplay.Json

namespace Node

/-- A document that can be read as a value. -/
structure Holds (node : Node) (w : Json) : Prop where
  closes : node.Closes
  value : node.toJson = .ok w

/-- What is made of a document is also made of its value. -/
def Steady {α : Type} (read : Node → Except Fault α) : Prop :=
  ∀ node w a, node.Holds w → read node = .ok a → read (ofJson w) = .ok a

/-! ## The shape of a document and of its value -/

section Shape

variable {start stop : Option Place} {depth : Nat} {tail : Tail} {w : Json}

theorem holds_string {value : Except Fault String} (h : (Node.string value start stop).Holds w) :
    ∃ s, value = .ok s ∧ w = .string s := by
  have hValue := h.value
  cases value with
  | error fault => simp [toJson, Except.map] at hValue
  | ok s => exact ⟨s, rfl, by simpa [toJson, Except.map, eq_comm] using hValue⟩

/-- An item of a document and the one of its value. -/
def HoldsItem (item made : Node × Close) : Prop :=
  ∃ w, item.1.Holds w ∧ made.1 = ofJson w

theorem holdsItem_of_toJson {items : List (Node × Close)} {ws : List Json} {index : Nat}
    (hCloses : ItemsClose items) (h : itemsToJson tail index items = .ok ws) (count place : Nat) :
    List.Forall₂ HoldsItem items (itemsOfJson count place ws) ∧
      items.length = ws.length ∧ ∃ stop, tail = .closed stop := by
  induction items generalizing ws index place with
  | nil =>
    obtain ⟨hTail, rfl⟩ := itemsToJson_nil.1 h
    exact ⟨.nil, rfl, hTail⟩
  | cons item rest ih =>
    obtain ⟨node, close⟩ := item
    obtain ⟨v, hNode, vs, hRest, rfl⟩ := itemsToJson_cons.1 h
    obtain ⟨hOwn, -, hOthers⟩ := hCloses
    obtain ⟨hItems, hLength, hTail⟩ := ih hOthers hRest (place + 1)
    exact ⟨.cons ⟨v, ⟨hOwn, hNode⟩, rfl⟩ hItems, by simp [hLength], hTail⟩

theorem holds_array {first : Close} {items : List (Node × Close)}
    (h : (Node.array start depth first items tail).Holds w) :
    ∃ ws, w = .array ws ∧ items.length = ws.length ∧ (∃ stop, tail = .closed stop) ∧
      List.Forall₂ HoldsItem items (itemsOfJson ws.length 1 ws) := by
  obtain ⟨-, ws, hItems, rfl⟩ := toJson_array.1 h.value
  obtain ⟨hHolds, hLength, hTail⟩ := holdsItem_of_toJson h.closes.2 hItems ws.length 1
  exact ⟨ws, rfl, hLength, hTail, hHolds⟩

end Shape

/-! ## Readers of values -/

variable {α β : Type} {read : Node → Except Fault α}

theorem steady_map (h : Steady read) (f : α → β) : Steady fun node => f <$> read node := by
  intro node w b hHolds hRead
  obtain ⟨a, hOwn, rfl⟩ := map_eq_ok.1 hRead
  exact map_eq_ok.2 ⟨a, h node w a hHolds hOwn, rfl⟩

theorem steady_toJson : Steady toJson := by
  intro node w v hHolds hRead
  obtain rfl := Except.ok.inj (hHolds.value.symm.trans hRead)
  exact toJson_ofJson (ordered_of_toJson hRead)

theorem steady_asPixels : Steady asPixels := steady_map steady_toJson _

theorem steady_asString : Steady asString := by
  intro node w s hHolds hRead
  cases node with
  | string value =>
    obtain ⟨s', rfl, rfl⟩ := holds_string hHolds
    rw [ofJson]
    exact hRead
  | _ => contradiction

/-- A document whose value is `null` is `null`. -/
theorem ofJson_ne_null {node : Node} {w : Json} (h : node.Holds w)
    (hNull : ∀ start stop, node ≠ .null start stop) : w ≠ .null := by
  rintro rfl
  have hValue := h.value
  cases node with
  | null => exact hNull _ _ rfl
  | missing | broken | bool => simp [toJson] at hValue
  | number value | string value => cases value <;> simp [toJson, Except.map] at hValue
  | array =>
    obtain ⟨-, ws, -, hArray⟩ := toJson_array.1 hValue
    contradiction
  | object =>
    obtain ⟨-, ws, -, hObject⟩ := toJson_object.1 hValue
    contradiction

theorem asOption_of_ne_null {node : Node} (h : ∀ start stop, node ≠ .null start stop) :
    asOption read node = some <$> read node := by
  cases node with
  | null start stop => exact absurd rfl (h start stop)
  | _ => rfl

theorem steady_asOption (h : Steady read) : Steady (asOption read) := by
  intro node w a hHolds hRead
  by_cases hNull : ∃ start stop, node = .null start stop
  · obtain ⟨start, stop, rfl⟩ := hNull
    obtain rfl := Except.ok.inj hHolds.value
    rw [ofJson]
    exact hRead
  · simp only [not_exists] at hNull
    have hOther := ofJson_ne_null hHolds hNull
    rw [asOption_of_ne_null hNull] at hRead
    rw [asOption_of_ne_null fun start stop hEq => hOther (by cases w <;> simp_all [ofJson])]
    exact steady_map h _ node w a hHolds hRead

theorem readEach_steady (h : Steady read) {items made : List (Node × Close)} {tail : Tail}
    {stop : Option Place} {index : Nat} {as : List α} (hItems : List.Forall₂ HoldsItem items made)
    (hRead : readEach read tail index items = .ok as) :
    readEach read (.closed stop) index made = .ok as := by
  induction hItems generalizing index as with
  | nil =>
    simp only [readEach] at hRead ⊢
    split at hRead
    · exact hRead
    · contradiction
  | @cons item item' rest rest' hItem _ ih =>
    obtain ⟨node, close⟩ := item
    obtain ⟨made, close'⟩ := item'
    obtain ⟨w, hHolds, rfl⟩ := hItem
    simp only [readEach, bind_eq_ok, mapError_eq_ok] at hRead ⊢
    obtain ⟨a, hOwn, as', hRest, hEq⟩ := hRead
    exact ⟨a, h node w a hHolds hOwn, as', ih hRest, hEq⟩

theorem steady_asList (h : Steady read) : Steady (asList read) := by
  intro node w as hHolds hRead
  cases node with
  | array start depth first items tail =>
    obtain ⟨ws, rfl, -, -, hItems⟩ := holds_array hHolds
    obtain ⟨-, -, hEach⟩ := bind_eq_ok.1 hRead
    rw [ofJson]
    exact readEach_steady h hItems hEach
  | _ => contradiction

theorem steady_asListOrNull (h : Steady read) : Steady (asListOrNull read) :=
  steady_map (steady_asOption (steady_asList h)) _

/-! ## Skipped values -/

mutual

/-- Nothing is wrong with a value that nobody reads. -/
theorem skip_ofJson (w : Json) : (ofJson w).skip = .ok () := by
  cases w with
  | null | bool | number | string => rw [ofJson, skip]
  | array items =>
    rw [ofJson, skip, skipItems_ofJson]
    rfl
  | object members =>
    rw [ofJson, skip, skipMembers_ofJson]
    rfl

theorem skipItems_ofJson (count index : Nat) (items : List Json) :
    skipItems (itemsOfJson count index items) = .ok () := by
  cases items with
  | nil => rw [itemsOfJson, skipItems]
  | cons v rest =>
    rw [itemsOfJson, skipItems, skip_ofJson v]
    exact skipItems_ofJson count (index + 1) rest

theorem skipMembers_ofJson (members : List (String × Json)) :
    skipMembers (membersOfJson members) = .ok () := by
  cases members with
  | nil => rw [membersOfJson, skipMembers]
  | cons member rest =>
    obtain ⟨k, v⟩ := member
    rw [membersOfJson, skipMembers, skip_ofJson v]
    exact skipMembers_ofJson rest

end

end Node

/-! ## Records -/

/-- The values of a record as a document has them, and as its value does. -/
inductive Slots.Holds : Slots → Slots → Prop
  | members {nodes made : List (String × Node)}
    (hNamed : ∀ name key node, nodes.find? (·.1 == name) = some (key, node) →
      ∃ w, node.Holds w ∧ made.find? (·.1 == name) = some (name, .ofJson w))
    (hMissing : ∀ name, nodes.find? (·.1 == name) = none → made.find? (·.1 == name) = none) :
    Slots.Holds (.members nodes) (.members made)
  | items {nodes made : List (Node × Close)} (record : String) (names : List String)
    (stop stop' : Option Place) (hItems : List.Forall₂ Node.HoldsItem nodes made) :
    Slots.Holds (.items record names nodes (.closed stop))
      (.items record names made (.closed stop'))

namespace Fields

variable {α β : Type}

theorem rel_getElem? {R : α → β → Prop} {l : List α} {l' : List β} (h : List.Forall₂ R l l')
    (i : Nat) : Option.Rel R l[i]? l'[i]? := by
  induction h generalizing i with
  | nil => exact .none
  | cons hFirst _ ih =>
    cases i with
    | zero => exact .some hFirst
    | succ i => exact ih i

/-- The fields of a record whose reader is steady. -/
structure Steady (fs : Fields α) : Prop where
  check : ∀ name check, fs.check name = some check → Node.Steady check
  build : ∀ slots made a, slots.Holds made → fs.build slots = .ok a → fs.build made = .ok a

theorem steady_fetch {name : String} {read : Node → Except Fault α} {absence : Absence α}
    (h : Node.Steady read) {slots made : Slots} {a : α} (hHolds : slots.Holds made)
    (hFetch : slots.fetch name read absence = .ok a) : made.fetch name read absence = .ok a := by
  cases hHolds with
  | @members nodes made hNamed hMissing =>
    simp only [Slots.fetch] at hFetch ⊢
    split at hFetch
    · next key node hFind =>
      obtain ⟨w, hNode, hMade⟩ := hNamed name key node hFind
      rw [hMade]
      exact mapError_eq_ok.2 (h node w a hNode (mapError_eq_ok.1 hFetch))
    · next hFind =>
      rw [hMissing name hFind]
      exact hFetch
  | @items nodes made record names stop stop' hItems =>
    have hAt := rel_getElem? hItems (names.idxOf name)
    simp only [Slots.fetch] at hFetch ⊢
    generalize nodes[names.idxOf name]? = item at hAt hFetch
    generalize made[names.idxOf name]? = item' at hAt ⊢
    cases hAt with
    | none => exact hFetch
    | @some item item' hItem =>
      obtain ⟨node, close⟩ := item
      obtain ⟨made, close'⟩ := item'
      obtain ⟨w, hNode, rfl⟩ := hItem
      exact mapError_eq_ok.2 (h node w a hNode (mapError_eq_ok.1 hFetch))

theorem steady_field {name : String} {read : Node → Except Fault α} {absence : Absence α}
    (h : Node.Steady read) : (field name read absence).Steady where
  check other check hCheck := by
    simp only [field, Option.ite_none_right_eq_some, Option.some.injEq] at hCheck
    obtain ⟨-, rfl⟩ := hCheck
    exact Node.steady_map h _
  build _ _ _ := steady_fetch h

theorem steady_map {fs : Fields α} (h : fs.Steady) (f : α → β) : (f <$> fs).Steady where
  check := h.check
  build slots made b hHolds hBuild := by
    obtain ⟨a, hOwn, hEq⟩ := map_eq_ok.1 hBuild
    exact map_eq_ok.2 ⟨a, h.build slots made a hHolds hOwn, hEq⟩

theorem steady_seq {fs : Fields (α → β)} {gs : Fields α} (hFs : fs.Steady) (hGs : gs.Steady) :
    (fs <*> gs).Steady where
  check name check hCheck :=
    (check_of_seq hCheck).elim (hFs.check name check) (hGs.check name check)
  build slots made b hHolds hBuild := by
    obtain ⟨f, hFirst, hRest⟩ := bind_eq_ok.1 hBuild
    obtain ⟨a, hSecond, hEq⟩ := bind_eq_ok.1 hRest
    exact bind_eq_ok.2 ⟨f, hFs.build slots made f hHolds hFirst,
      bind_eq_ok.2 ⟨a, hGs.build slots made a hHolds hSecond, hEq⟩⟩

/-! ## Members that are fields -/

/-- The members of a value that are fields. -/
def picked (fs : Fields α) (ws : List (String × Json)) : List (String × Node) :=
  (ws.filter fun e => (fs.check e.1).isSome).map fun e => (e.1, .ofJson e.2)

/-- What was scanned of a document: the fields among the members of its value. -/
structure Scanned (fs : Fields α) (seen : List (String × Node)) (ws : List (String × Json)) :
    Prop where
  sound : ∀ e ∈ seen, ∃ w check, fs.check e.1 = some check ∧ check e.2 = .ok () ∧
    e.2.Holds w ∧ member? e.1 ws = some w
  complete : ∀ name, (fs.check name).isSome → (member? name ws).isSome → ∃ e ∈ seen, e.1 = name

/-- A member that is no field. -/
theorem Scanned.skip {fs : Fields α} {seen : List (String × Node)} {ws : List (String × Json)}
    (h : Scanned fs seen ws) {k : String} (hNone : fs.check k = none) (v : Json) :
    Scanned fs seen (insert k v ws) where
  sound e hMem := by
    obtain ⟨w, check, hField, hPass, hHolds, hMember⟩ := h.sound e hMem
    have hOther : e.1 ≠ k := fun hEq => by simp [hEq, hNone] at hField
    exact ⟨w, check, hField, hPass, hHolds, by rw [member?_insert_of_ne hOther, hMember]⟩
  complete name hField hNamed := by
    have hOther : name ≠ k := fun hEq => by simp [hEq, hNone] at hField
    rw [member?_insert_of_ne hOther] at hNamed
    exact h.complete name hField hNamed

/-- A member that is a field, and is seen for the first time. -/
theorem Scanned.add {fs : Fields α} {seen : List (String × Node)} {ws : List (String × Json)}
    (h : Scanned fs seen ws) {k : String} {v : Json} {node : Node}
    {check : Node → Except Fault Unit} (hField : fs.check k = some check)
    (hNew : seen.any (·.1 == k) = false) (hPass : check node = .ok ()) (hHolds : node.Holds v) :
    Scanned fs ((k, node) :: seen) (insert k v ws) where
  sound e hMem := by
    rcases List.mem_cons.1 hMem with rfl | hMem
    · exact ⟨v, check, hField, hPass, hHolds, member?_insert_self⟩
    · obtain ⟨w, check, hOld, hOldPass, hOldHolds, hMember⟩ := h.sound e hMem
      have hOther : e.1 ≠ k := fun hEq => by simpa [hEq] using List.any_eq_false.1 hNew e hMem
      exact ⟨w, check, hOld, hOldPass, hOldHolds, by rw [member?_insert_of_ne hOther, hMember]⟩
  complete name hFieldOf hNamed := by
    by_cases hName : name = k
    · exact ⟨(k, node), List.mem_cons_self, hName.symm⟩
    · rw [member?_insert_of_ne hName] at hNamed
      obtain ⟨e, hMem, hEq⟩ := h.complete name hFieldOf hNamed
      exact ⟨e, List.mem_cons_of_mem _ hMem, hEq⟩

theorem scan_cons {fs : Fields α} {seen nodes : List (String × Node)} {k : String}
    {stop next : Option Place} {close : Close} {node : Node} {rest : List (Member Node)} :
    fs.scan seen (⟨.ok k, stop, close, .ok node, next⟩ :: rest) = .ok nodes ↔
      (fs.check k = none ∧ node.skip = .ok () ∧ fs.scan seen rest = .ok nodes) ∨
      ∃ check, fs.check k = some check ∧ seen.any (·.1 == k) = false ∧ check node = .ok () ∧
        fs.scan ((k, node) :: seen) rest = .ok nodes := by
  rw [scan]
  simp only [bind_eq_ok, mapError_eq_ok, Except.ok.injEq, exists_eq_left']
  cases hCheck : fs.check k with
  | none => simp [bind_eq_ok, mapError_eq_ok, Unique.exists_iff]
  | some check =>
    generalize seen.any (·.1 == k) = isSeen
    cases isSeen <;> simp [bind_eq_ok, mapError_eq_ok, Unique.exists_iff]

theorem scanned_of_scan {fs : Fields α} {members : List (Member Node)} {tail : Tail}
    {seen nodes : List (String × Node)} {done ws : List (String × Json)}
    (hCloses : Node.MembersClose members) (hSeen : Scanned fs seen done)
    (hScan : fs.scan seen members = .ok nodes)
    (hValue : Node.membersToJson tail done members = .ok ws) : Scanned fs nodes ws := by
  induction members generalizing seen done with
  | nil =>
    obtain ⟨-, rfl⟩ := Node.membersToJson_nil.1 hValue
    obtain rfl := Except.ok.inj hScan
    exact ⟨fun e hMem => hSeen.sound e (List.mem_reverse.1 hMem), fun name hField hNamed => by
      simpa using hSeen.complete name hField hNamed⟩
  | cons member rest ih =>
    obtain ⟨k, node, v, hName, hNode, hOwn, hRest⟩ := Node.membersToJson_cons.1 hValue
    obtain ⟨name, stop, close, value, next⟩ := member
    dsimp only at hName hNode
    subst hName hNode
    obtain ⟨hNodeCloses, hOthers⟩ := hCloses
    rcases scan_cons.1 hScan with ⟨hNone, -, hScanned⟩ | ⟨check, hField, hNew, hPass, hScanned⟩
    · exact ih hOthers (hSeen.skip hNone v) hScanned hRest
    · exact ih hOthers (hSeen.add hField hNew hPass ⟨hNodeCloses, hOwn⟩) hScanned hRest

/-! ## The members of a value -/

theorem scan_membersOfJson {fs : Fields α} {ws : List (String × Json)}
    {seen : List (String × Node)} (hOrdered : MembersOrdered ws)
    (hPass : ∀ e ∈ ws, ∀ check, fs.check e.1 = some check → check (.ofJson e.2) = .ok ())
    (hNew : ∀ e ∈ ws, seen.any (·.1 == e.1) = false) :
    fs.scan seen (Node.membersOfJson ws) = .ok (seen.reverse ++ fs.picked ws) := by
  induction ws generalizing seen with
  | nil => simp [Node.membersOfJson, scan, picked]
  | cons e rest ih =>
    obtain ⟨k, v⟩ := e
    obtain ⟨hFirst, -, hRest⟩ := hOrdered
    have hPassRest := fun e hMem => hPass e (List.mem_cons_of_mem _ hMem)
    rw [Node.membersOfJson, scan_cons]
    cases hCheck : fs.check k with
    | none =>
      have hScan := ih hRest hPassRest fun e hMem => hNew e (List.mem_cons_of_mem _ hMem)
      exact .inl ⟨rfl, Node.skip_ofJson v, by simpa [picked, hCheck] using hScan⟩
    | some check =>
      have hScan := @ih ((k, .ofJson v) :: seen) hRest hPassRest fun e hMem => by
        have hOther : (k == e.1) = false := beq_false_of_ne (hFirst e hMem).ne
        rw [List.any_cons, hNew e (List.mem_cons_of_mem _ hMem), Bool.or_false]
        exact hOther
      exact .inr ⟨check, rfl, hNew (k, v) List.mem_cons_self,
        hPass (k, v) List.mem_cons_self check hCheck, by simpa [picked, hCheck] using hScan⟩

theorem find?_picked (fs : Fields α) (ws : List (String × Json)) (name : String) :
    (fs.picked ws).find? (·.1 == name) =
      if (fs.check name).isSome then (member? name ws).map fun w => (name, .ofJson w)
      else none := by
  induction ws with
  | nil => simp [picked, member?]
  | cons e rest ih =>
    obtain ⟨k, v⟩ := e
    by_cases hName : k = name
    · subst hName
      cases hCheck : fs.check k with
      | none => simpa [picked, hCheck] using ih
      | some check => simp [picked, hCheck, member?]
    · have hOther : member? name ((k, v) :: rest) = member? name rest := by
        simp [member?, hName]
      rw [hOther, ← ih]
      cases hCheck : fs.check k with
      | none => simp [picked, hCheck]
      | some check => simp [picked, hCheck, hName]

/-- What was scanned of a document holds what is scanned of its value. -/
theorem Scanned.holds {fs : Fields α} {nodes : List (String × Node)} {ws : List (String × Json)}
    (h : Scanned fs nodes ws) : (Slots.members nodes).Holds (.members (fs.picked ws)) := by
  refine .members (fun name key node hFind => ?_) fun name hFind => ?_
  · have hKey : key = name := by simpa using List.find?_some hFind
    subst hKey
    obtain ⟨w, check, hField, -, hHolds, hMember⟩ := h.sound _ (List.mem_of_find?_eq_some hFind)
    refine ⟨w, hHolds, ?_⟩
    rw [find?_picked, hField, hMember]
    rfl
  · rw [find?_picked]
    by_cases hField : (fs.check name).isSome
    · have hNone : member? name ws = none := by
        by_contra hNamed
        obtain ⟨e, hMem, hEq⟩ := h.complete name hField (Option.isSome_iff_ne_none.2 hNamed)
        exact List.find?_eq_none.1 hFind e hMem (by simp [hEq])
      simp [hNone]
    · simp [hField]

/-- What passed its check in a document passes it in the value. -/
theorem Scanned.pass {fs : Fields α} {nodes : List (String × Node)} {ws : List (String × Json)}
    (h : Scanned fs nodes ws) (hFs : fs.Steady) (hOrdered : MembersOrdered ws) :
    ∀ e ∈ ws, ∀ check, fs.check e.1 = some check → check (.ofJson e.2) = .ok () := by
  intro e hMem check hField
  have hMember := member?_of_mem hOrdered hMem
  obtain ⟨e', hSeen, hName⟩ := h.complete e.1 (by simp [hField]) (by simp [hMember])
  obtain ⟨w, check', hField', hPass, hHolds, hMember'⟩ := h.sound e' hSeen
  rw [hName] at hField' hMember'
  obtain rfl := Option.some.inj (hField.symm.trans hField')
  obtain rfl := Option.some.inj (hMember.symm.trans hMember')
  exact hFs.check e.1 check hField e'.2 e.2 () hHolds hPass

/-! ## The items of a value -/

theorem closeAfter_cons (count : Nat) (first close : Close) (node : Node)
    (rest : List (Node × Close)) :
    closeAfter (count + 1) first ((node, close) :: rest) = closeAfter count close rest := by
  unfold closeAfter
  rw [List.take_succ_cons]
  cases hRest : rest.take count with
  | nil => rfl
  | cons e more => simp [List.getLast?_cons]

/-- An array that is closed behind its fields has no more items. -/
theorem length_le_of_closeAfter {count : Nat} {first : Close} {items : List (Node × Close)}
    (hFirst : first.fault = none → items = []) (hItems : Node.ItemsClose items)
    (h : (closeAfter count first items).fault = none) : items.length ≤ count := by
  induction items generalizing count first with
  | nil => exact Nat.zero_le _
  | cons item rest ih =>
    obtain ⟨node, close⟩ := item
    obtain ⟨-, hClose, hRest⟩ := hItems
    cases count with
    | zero => simpa using hFirst h
    | succ count =>
      rw [closeAfter_cons] at h
      exact Nat.succ_le_succ (ih hClose hRest h)

theorem closeAfter_itemsOfJson {count i : Nat} {ws : List Json} (h : ws.length ≤ count) :
    (closeAfter count (Node.closeMade (i + ws.length) i)
      (Node.itemsOfJson (i + ws.length) (i + 1) ws)).fault = none := by
  induction ws generalizing count i with
  | nil => simp [Node.itemsOfJson, closeAfter, Node.closeMade]
  | cons w rest ih =>
    cases count with
    | zero => simp at h
    | succ count =>
      have hRest := @ih count (i + 1) (Nat.le_of_succ_le_succ h)
      rw [Node.itemsOfJson, closeAfter_cons, List.length_cons,
        show i + (rest.length + 1) = i + 1 + rest.length by omega]
      exact hRest

/-- **The reader of a record is steady if those of its fields are.** -/
theorem steady_decode {fs : Fields α} (hFs : fs.Steady) (record : String) :
    Node.Steady (fs.decode record) := by
  intro node w a hHolds hRead
  cases node with
  | object start depth lead members tail =>
    have hOrdered := Node.ordered_of_toJson hHolds.value
    obtain ⟨-, ws, hValue, rfl⟩ := Node.toJson_object.1 hHolds.value
    obtain ⟨-, -, hRest⟩ := bind_eq_ok.1 hRead
    obtain ⟨nodes, hScan, hBuild⟩ := bind_eq_ok.1 hRest
    have hScanned := scanned_of_scan hHolds.closes ⟨by simp, by simp [member?]⟩ hScan hValue
    have hMade := @scan_membersOfJson _ fs ws [] hOrdered (hScanned.pass hFs hOrdered) (by simp)
    split at hBuild
    · contradiction
    · have hOwn := hFs.build _ _ a hScanned.holds (mapError_eq_ok.1 hBuild)
      rw [Node.ofJson, decode]
      refine bind_eq_ok.2 ⟨(), rfl, bind_eq_ok.2 ⟨_, hMade, ?_⟩⟩
      exact mapError_eq_ok.2 hOwn
  | array start depth first items tail =>
    obtain ⟨ws, rfl, hLength, ⟨stop, rfl⟩, hItems⟩ := Node.holds_array hHolds
    obtain ⟨-, -, hRest⟩ := bind_eq_ok.1 hRead
    obtain ⟨a', hBuild, hClose⟩ := bind_eq_ok.1 hRest
    split at hClose
    · contradiction
    · next hFault =>
      obtain rfl := Except.ok.inj hClose
      have hShort := length_le_of_closeAfter hHolds.closes.1 hHolds.closes.2 hFault
      have hMade := closeAfter_itemsOfJson (i := 0) (hLength ▸ hShort)
      have hOwn := hFs.build _ _ a' (.items record fs.names stop none hItems)
        (mapError_eq_ok.1 hBuild)
      rw [Node.ofJson, decode]
      refine bind_eq_ok.2 ⟨(), rfl, bind_eq_ok.2 ⟨a', mapError_eq_ok.2 hOwn, ?_⟩⟩
      rw [Nat.zero_add] at hMade
      rw [hMade]
  | _ => contradiction

end Fields

/-- **What is made of a text is made of its value.** -/
theorem decodeValue_of_decodeText {α : Type} {read : Node → Except Fault α}
    (hRead : Node.Steady read) {text : String} {w : Json} {a : α} (hValue : parse text = .ok w)
    (h : decodeText read text = .ok a) : decodeValue read w = .ok a := by
  obtain ⟨v, hRoot, hTrailing⟩ := bind_eq_ok.1 hValue
  obtain ⟨a', hOwn, hTrailing'⟩ := bind_eq_ok.1 h
  split at hTrailing
  · contradiction
  · next hNone =>
    rw [hNone] at hTrailing'
    obtain rfl := Except.ok.inj hTrailing
    obtain rfl := Except.ok.inj hTrailing'
    exact hRead _ _ _ ⟨Document.closes text, hRoot⟩ hOwn

end Json

/-! ## Recordings -/

open Json

namespace Viewport

theorem steady_decode : Node.Steady decode := by
  have hDimension : Node.Steady asDimension := Node.steady_map Node.steady_asPixels _
  exact Fields.steady_decode (Fields.steady_seq
    (Fields.steady_map (Fields.steady_field hDimension) _) (Fields.steady_field hDimension)) _

end Viewport

namespace Recording

theorem steady_decode : Node.Steady decode := by
  have hTitle := Node.steady_asOption Node.steady_asString
  have hViewport := Node.steady_asOption Viewport.steady_decode
  have hSteps := Node.steady_asListOrNull Node.steady_toJson
  exact Fields.steady_decode (Fields.steady_seq (Fields.steady_seq
    (Fields.steady_map (Fields.steady_field hTitle) _) (Fields.steady_field hViewport))
    (Fields.steady_field hSteps)) _

/-- **A recording is read from a text as from the value of the text.** -/
theorem decodeValue_of_ofText {text : String} {w : Json} {r : Recording}
    (hValue : Json.parse text = .ok w) (h : ofText text = .ok r) :
    decodeValue decode w = .ok r :=
  decodeValue_of_decodeText steady_decode hValue h

end Recording
end SessionReplay
