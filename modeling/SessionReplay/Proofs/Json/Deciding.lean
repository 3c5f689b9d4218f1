import SessionReplay.Proofs.Json.Bearing
import SessionReplay.Proofs.Json.Rereading

/-!
# What readers accept

A reader takes a document apart as far as it has to. On a document that bears a value, what it makes
of the document is decided by the value alone.

* `Node.Decodes`: what a reader makes of a document, as a relation between values and results.
* `NullOr`, `NullOrList`, `Stands`: values that may be `null` or not there at all.
* `Fields.Decodes`: the same for the fields of a record, given what stands under each name.
* `Fields.Record`, `Fields.decodes_decode`: the values that a record can be read from.
* `decodeText_iff`, `decodeValue_iff`: what is made of texts and values.
* `BlankOr`, `exists_stands_optional`, `exists_stands_list`: where something is made of them at all.
-/

namespace SessionReplay.Json

variable {α β : Type}

/-! ## Values -/

/-- `null`, or a value that is related to a result. -/
inductive NullOr (P : Json → α → Prop) : Json → Option α → Prop
  | null : NullOr P .null none
  | value {w : Json} {a : α} (hNull : w ≠ .null) (h : P w a) : NullOr P w (some a)

/-- `null` in place of the empty list, or the values of a list. -/
inductive NullOrList (P : Json → α → Prop) : Json → List α → Prop
  | null : NullOrList P .null []
  | list {ws : List Json} {as : List α} (h : List.Forall₂ P ws as) : NullOrList P (.array ws) as

/-- A value that is related to a result, or nothing where that stands for a default. -/
inductive Stands (P : Json → α → Prop) (absence : Absence α) : Option Json → α → Prop
  | there {w : Json} {a : α} (h : P w a) : Stands P absence (some w) a
  | absent {a : α} (h : absence = .default a) : Stands P absence none a

namespace Node

/-- What is made of a document that bears a value. -/
def Decodes (read : Node → Except Fault α) (P : Json → α → Prop) : Prop :=
  ∀ node w a, node.Bears w → (read node = .ok a ↔ P w a)

section Readers

variable {read : Node → Except Fault α} {P : Json → α → Prop}

theorem Decodes.congr {Q : Json → α → Prop} (h : Decodes read P) (hIff : ∀ w a, P w a ↔ Q w a) :
    Decodes read Q :=
  fun node w a hBears => (h node w a hBears).trans (hIff w a)

theorem decodes_toJson : Decodes toJson fun w v => w = v := by
  intro node w v hBears
  rw [toJson_of_bears hBears]
  exact ⟨Except.ok.inj, congrArg _⟩

theorem decodes_map (h : Decodes read P) (f : α → β) :
    Decodes (fun node => f <$> read node) fun w b => ∃ a, P w a ∧ f a = b := by
  intro node w b hBears
  simp only [map_eq_ok, h node w _ hBears]

theorem decodes_asString : Decodes asString fun w s => w = .string s := by
  intro node w s hBears
  cases hBears <;> simp [asString]

theorem decodes_asDouble : Decodes asDouble fun w x => ∃ n, w = .number n ∧ n.toDouble = x := by
  intro node w x hBears
  cases hBears <;> simp [asDouble, Except.map]

/-- A word is a natural number that was written without a fraction and an exponent. -/
theorem decodes_asWord (wanted : String) : Decodes (asWord wanted) fun w n => w = .ofWord n := by
  intro node w n hBears
  constructor
  · intro h
    obtain ⟨i, hInteger, rfl⟩ := map_eq_ok.1 h
    cases hBears with
    | @number m start stop =>
      cases m with
      | natural k =>
        simp only [asInteger, Number.toInt?, bind, Except.bind] at hInteger
        split at hInteger
        · obtain rfl := Except.ok.inj hInteger
          simp [ofWord]
        · contradiction
      | negative k =>
        simp only [asInteger, Number.toInt?, bind, Except.bind] at hInteger
        rw [if_neg (by omega)] at hInteger
        contradiction
      | real x => simp [asInteger, Number.toInt?, bind, Except.bind] at hInteger
    | _ => simp [asInteger] at hInteger
  · rintro rfl
    cases hBears
    exact reads_asWord wanted n _ (by simp [ofWord, isShownBy])

theorem decodes_asOption (h : Decodes read P) : Decodes (asOption read) (NullOr P) := by
  intro node w o hBears
  by_cases hNull : ∃ start stop, node = .null start stop
  · obtain ⟨start, stop, rfl⟩ := hNull
    cases hBears
    constructor
    · intro hRead
      obtain rfl := Except.ok.inj hRead
      exact .null
    · intro hOr
      cases hOr with
      | null => rfl
      | value hNull => exact absurd rfl hNull
  · simp only [not_exists] at hNull
    have hOther : w ≠ .null := by
      rintro rfl
      cases hBears
      exact hNull _ _ rfl
    rw [asOption_of_ne_null hNull, map_eq_ok]
    constructor
    · rintro ⟨a, hRead, rfl⟩
      exact .value hOther ((h node w a hBears).1 hRead)
    · intro hOr
      cases hOr with
      | null => contradiction
      | value _ hValue => exact ⟨_, (h node w _ hBears).2 hValue, rfl⟩

/-- The items of a list, one by one. -/
theorem forall₂_of_bear {first : Close} {items : List (Node × Close)} {ws : List Json}
    (h : ItemsBear first items ws) : List.Forall₂ (fun item w => item.1.Bears w) items ws := by
  induction items generalizing first ws with
  | nil =>
    cases h
    exact .nil
  | cons item rest ih =>
    cases h with
    | cons hMore hNode hRest => exact .cons hNode (ih hRest)

theorem readEach_iff (h : Decodes read P) {items : List (Node × Close)} {ws : List Json}
    {stop : Option Place} {index : Nat} {as : List α}
    (hItems : List.Forall₂ (fun item w => item.1.Bears w) items ws) :
    readEach read (.closed stop) index items = .ok as ↔ List.Forall₂ P ws as := by
  induction hItems generalizing index as with
  | nil => simp [readEach, eq_comm]
  | @cons item w rest ws hNode _ ih =>
    simp only [readEach, bind_eq_ok, mapError_eq_ok, h item.1 w _ hNode, ih]
    constructor
    · rintro ⟨a, hFirst, others, hOthers, hEq⟩
      obtain rfl := Except.ok.inj hEq
      exact .cons hFirst hOthers
    · intro hAll
      cases hAll with
      | cons hFirst hOthers => exact ⟨_, hFirst, _, hOthers, rfl⟩

theorem decodes_asList (h : Decodes read P) :
    Decodes (asList read) fun w as => ∃ ws, w = .array ws ∧ List.Forall₂ P ws as := by
  intro node w as hBears
  cases hBears with
  | array hEnter hItems =>
    simp [asList, bind_eq_ok, hEnter, readEach_iff h (forall₂_of_bear hItems)]
  | _ => simp [asList]

theorem decodes_asListOrNull (h : Decodes read P) :
    Decodes (asListOrNull read) (NullOrList P) := by
  intro node w as hBears
  rw [asListOrNull, map_eq_ok]
  simp only [decodes_asOption (decodes_asList h) node w _ hBears]
  constructor
  · rintro ⟨o, hOr, rfl⟩
    cases hOr with
    | null => exact .null
    | value _ hList =>
      obtain ⟨ws, rfl, hAll⟩ := hList
      exact .list hAll
  · intro hOr
    cases hOr with
    | null => exact ⟨none, .null, rfl⟩
    | list hAll => exact ⟨some as, .value (by simp) ⟨_, rfl, hAll⟩, rfl⟩

end Readers

end Node

/-! ## Fields -/

/-- What stands under the names of the fields, in an object or at their places in an array. The
other members of an object were skipped, so nothing is said of their names. -/
inductive Slots.Bear (isField : String → Prop) : Slots → (String → Option Json) → Prop
  | members {nodes : List (String × Node)} {look : String → Option Json}
    (h : ∀ name, isField name →
      Option.Rel (fun e w => e.2.Bears w) (nodes.find? (·.1 == name)) (look name)) :
    Slots.Bear isField (.members nodes) look
  | items {record : String} {names : List String} {nodes : List (Node × Close)}
    {stop : Option Place} {look : String → Option Json}
    (h : ∀ name, Option.Rel (fun item w => item.1.Bears w) nodes[names.idxOf name]? (look name)) :
    Slots.Bear isField (.items record names nodes (.closed stop)) look

theorem Slots.Bear.mono {isField isField' : String → Prop} {slots : Slots}
    {look : String → Option Json} (h : slots.Bear isField look)
    (hLess : ∀ name, isField' name → isField name) : slots.Bear isField' look := by
  cases h with
  | members h => exact .members fun name hField => h name (hLess name hField)
  | items h => exact .items h

namespace Fields

/-- The names that stand for a field. -/
def IsField (fs : Fields α) (name : String) : Prop := (fs.check name).isSome

/-- What the fields are read into, given what stands under their names. The values that make a
record also pass the checks that are made before. -/
structure Decodes (fs : Fields α) (Made : (String → Option Json) → α → Prop) : Prop where
  named : ∀ name, fs.IsField name ↔ name ∈ fs.names
  passes : ∀ {look a}, Made look a → ∀ {name check w node}, fs.check name = some check →
    look name = some w → node.Bears w → check node = .ok ()
  build : ∀ {slots look}, slots.Bear fs.IsField look → ∀ a, fs.build slots = .ok a ↔ Made look a

section Combinators

variable {read : Node → Except Fault α} {P : Json → α → Prop} {name : String}

/-- A field is read from its value, or is absent. An absence that is all right in an object but not
in an array is left aside. -/
theorem fetch_iff (h : Node.Decodes read P) {absence : Absence α}
    (hNamed : ∀ b, absence ≠ .unnamed b) {slots : Slots} {look : String → Option Json}
    {isField : String → Prop} (hField : isField name) (hSlots : slots.Bear isField look) (a : α) :
    slots.fetch name read absence = .ok a ↔ Stands P absence (look name) a := by
  have hAbsent : (absence = .default a) ↔ Stands P absence none a :=
    ⟨.absent, fun hStands => by cases hStands; assumption⟩
  have hThere (w : Json) : P w a ↔ Stands P absence (some w) a :=
    ⟨.there, fun hStands => by cases hStands; assumption⟩
  cases hSlots with
  | @members nodes look hLook =>
    have hAt := hLook name hField
    simp only [Slots.fetch]
    generalize nodes.find? (·.1 == name) = found at hAt ⊢
    generalize look name = there at hAt ⊢
    cases hAt with
    | none =>
      rw [← hAbsent]
      cases absence <;> simp_all
    | @some e w hBears => simp [mapError_eq_ok, h e.2 w a hBears, hThere]
  | @items record names nodes stop look hLook =>
    have hAt := hLook name
    simp only [Slots.fetch]
    generalize nodes[names.idxOf name]? = found at hAt ⊢
    generalize look name = there at hAt ⊢
    cases hAt with
    | none =>
      rw [← hAbsent]
      cases absence <;> simp_all
    | @some item w hBears => simp [mapError_eq_ok, h item.1 w a hBears, hThere]

theorem decodes_field (h : Node.Decodes read P) {absence : Absence α}
    (hNamed : ∀ b, absence ≠ .unnamed b) :
    (field name read absence).Decodes fun look a => Stands P absence (look name) a where
  named other := by simp [IsField, field]
  passes := by
    intro look a hMade other check w node hCheck hThere hBears
    simp only [field, Option.ite_none_right_eq_some, Option.some.injEq] at hCheck
    obtain ⟨rfl, rfl⟩ := hCheck
    rw [hThere] at hMade
    cases hMade with
    | there hValue => exact map_eq_ok.2 ⟨a, (h node w a hBears).2 hValue, rfl⟩
  build hSlots a := fetch_iff h hNamed (by simp [IsField, field]) hSlots a

theorem decodes_required (name : String) (h : Node.Decodes read P) :
    (required name read).Decodes fun look a => Stands P .fault (look name) a :=
  decodes_field h (by simp)

theorem decodes_withDefault (name : String) (h : Node.Decodes read P) (default : α) :
    (withDefault name read default).Decodes fun look a =>
      Stands P (.default default) (look name) a :=
  decodes_field h (by simp)

theorem decodes_optional (name : String) (h : Node.Decodes read P) :
    (optional name read).Decodes fun look o => Stands (NullOr P) (.default none) (look name) o :=
  decodes_withDefault name (Node.decodes_asOption h) none

variable {Made : (String → Option Json) → α → Prop}

theorem decodes_map {fs : Fields α} (h : fs.Decodes Made) (f : α → β) :
    (f <$> fs).Decodes fun look b => ∃ a, Made look a ∧ f a = b where
  named := h.named
  passes := by
    rintro look b ⟨a, hMade, rfl⟩
    exact h.passes hMade
  build {slots look} hSlots b := by
    change f <$> fs.build slots = .ok b ↔ _
    simp only [map_eq_ok, h.build hSlots]

theorem isField_seq {fs : Fields (α → β)} {gs : Fields α} (name : String) :
    (fs <*> gs).IsField name ↔ fs.IsField name ∨ gs.IsField name := by
  change (fs.check name <|> gs.check name).isSome ↔ _
  simp [IsField]

theorem decodes_seq {fs : Fields (α → β)} {gs : Fields α}
    {Made' : (String → Option Json) → (α → β) → Prop} (hFs : fs.Decodes Made')
    (hGs : gs.Decodes Made) :
    (fs <*> gs).Decodes fun look b => ∃ f a, Made' look f ∧ Made look a ∧ f a = b where
  named name := (isField_seq name).trans
    ((or_congr (hFs.named name) (hGs.named name)).trans List.mem_append.symm)
  passes := by
    rintro look b ⟨f, a, hFirst, hSecond, rfl⟩ name check w node hCheck hThere hBears
    rcases check_of_seq hCheck with hOwn | hOwn
    · exact hFs.passes hFirst hOwn hThere hBears
    · exact hGs.passes hSecond hOwn hThere hBears
  build {slots look} hSlots b := by
    have hFirst : slots.Bear fs.IsField look := hSlots.mono fun name hField =>
      (isField_seq name).2 (.inl hField)
    have hSecond : slots.Bear gs.IsField look := hSlots.mono fun name hField =>
      (isField_seq name).2 (.inr hField)
    change (do let f ← fs.build slots; let a ← gs.build slots; Except.ok (f a)) = .ok b ↔ _
    simp only [bind_eq_ok, hFs.build hFirst, hGs.build hSecond, Except.ok.injEq]
    constructor
    · rintro ⟨f, hF, a, hA, hEq⟩
      exact ⟨f, a, hF, hA, hEq⟩
    · rintro ⟨f, a, hF, hA, hEq⟩
      exact ⟨f, hF, a, hA, hEq⟩

theorem Decodes.congr {fs : Fields α} {Made' : (String → Option Json) → α → Prop}
    (h : fs.Decodes Made) (hIff : ∀ look a, Made look a ↔ Made' look a) : fs.Decodes Made' where
  named := h.named
  passes hMade := h.passes ((hIff _ _).2 hMade)
  build hSlots a := (h.build hSlots a).trans (hIff _ a)

end Combinators

/-! ## Records -/

section Scanning

variable {fs : Fields α} {members : List (Member Node)} {found : List (String × Json)}
  {seen nodes : List (String × Node)}

/-- Members of different names that pass their checks can be looked at to the end. -/
theorem scan_of_passes (hMembers : Node.MembersBear members found)
    (hNodup : (found.map (·.1)).Nodup) (hNew : ∀ e ∈ found, seen.any (·.1 == e.1) = false)
    (hPass : ∀ e ∈ found, ∀ {check node}, fs.check e.1 = some check → node.Bears e.2 →
      check node = .ok ()) : ∃ nodes, fs.scan seen members = .ok nodes := by
  induction members generalizing found seen with
  | nil => exact ⟨_, rfl⟩
  | cons member rest ih =>
    cases hMembers with
    | @cons k stop next close node v _ others hNode hRest =>
      rw [List.map_cons, List.nodup_cons] at hNodup
      have hNewRest := fun e hMem => hNew e (List.mem_cons_of_mem _ hMem)
      have hPassRest : ∀ e ∈ others, ∀ {check node}, fs.check e.1 = some check →
          node.Bears e.2 → check node = .ok () :=
        fun e hMem => hPass e (List.mem_cons_of_mem _ hMem)
      simp only [scan_cons]
      cases hCheck : fs.check k with
      | none =>
        obtain ⟨nodes, hScan⟩ := ih hRest hNodup.2 hNewRest hPassRest
        exact ⟨nodes, .inl ⟨rfl, Node.skip_of_bears hNode, hScan⟩⟩
      | some check =>
        obtain ⟨nodes, hScan⟩ := ih hRest hNodup.2 (any_seen_cons node hNodup.1 hNewRest) hPassRest
        exact ⟨nodes, .inr ⟨check, rfl, hNew (k, v) List.mem_cons_self,
          hPass (k, v) List.mem_cons_self hCheck hNode, hScan⟩⟩

/-- What was found under the name of a field bears the value that stands under it. -/
theorem bears_of_scan (hMembers : Node.MembersBear members found)
    (hScan : fs.scan seen members = .ok nodes) :
    ∃ picked, nodes = seen.reverse ++ picked ∧ ∀ name, fs.IsField name →
      Option.Rel (fun e w => e.2.Bears w) (picked.find? (·.1 == name)) (member? name found) := by
  induction members generalizing found seen with
  | nil =>
    cases hMembers
    obtain rfl := Except.ok.inj hScan
    exact ⟨[], by simp, fun _ _ => .none⟩
  | cons member rest ih =>
    cases hMembers with
    | @cons k stop next close node v _ others hNode hRest =>
      have hOther {name : String} (hName : k ≠ name) :
          member? name ((k, v) :: others) = member? name others := by simp [member?, hName]
      rcases scan_cons.1 hScan with ⟨hNone, -, hScanned⟩ | ⟨check, hCheck, -, -, hScanned⟩
      · obtain ⟨picked, hNodes, hPicked⟩ := ih hRest hScanned
        refine ⟨picked, hNodes, fun name hField => ?_⟩
        rw [hOther fun hName => by simp [IsField, ← hName, hNone] at hField]
        exact hPicked name hField
      · obtain ⟨picked, hNodes, hPicked⟩ := ih hRest hScanned
        refine ⟨(k, node) :: picked, by simp [hNodes], fun name hField => ?_⟩
        by_cases hName : k = name
        · subst hName
          simpa [member?] using Option.Rel.some hNode
        · rw [hOther hName]
          simpa [hName] using hPicked name hField

end Scanning

/-- The array is closed behind the fields of a record if it has no more items. -/
theorem closeAfter_of_bear {first : Close} {items : List (Node × Close)} {ws : List Json}
    (h : Node.ItemsBear first items ws) (count : Nat) :
    (closeAfter count first items).fault = none ↔ ws.length ≤ count := by
  induction items generalizing first ws count with
  | nil =>
    cases h with
    | nil hLast => simp [closeAfter, hLast]
  | cons item rest ih =>
    cases h with
    | cons hMore hNode hRest =>
      cases count with
      | zero => simp [closeAfter, hMore]
      | succ count => rw [closeAfter_cons, ih hRest count, List.length_cons, Nat.succ_le_succ_iff]

/-- The values that a record can be read from: objects, and arrays with its fields in order. -/
inductive Record (names : List String) (Made : (String → Option Json) → α → Prop) :
    Json → α → Prop
  | object {ws : List (String × Json)} {a : α} (h : Made (fun name => member? name ws) a) :
    Record names Made (.object ws) a
  | array {ws : List Json} {a : α} (hLength : ws.length ≤ names.length)
    (h : Made (fun name => ws[names.idxOf name]?) a) : Record names Made (.array ws) a

section Decoding

variable {fs : Fields α} {Made : (String → Option Json) → α → Prop} {start stop : Option Place}
  {depth : Nat} {a : α}

theorem decode_object_iff (h : fs.Decodes Made) (record : String) {lead : Option Fault}
    {members : List (Member Node)} {found : List (String × Json)}
    (hEnter : enter start depth = .ok ()) (hMembers : Node.MembersBear members found)
    (hNodup : (found.map (·.1)).Nodup) :
    fs.decode record (.object start depth lead members (.closed stop)) = .ok a ↔
      Made (fun name => member? name found) a := by
  have hRead : fs.decode record (.object start depth lead members (.closed stop)) = .ok a ↔
      ∃ nodes, fs.scan [] members = .ok nodes ∧ fs.build (.members nodes) = .ok a := by
    simp [decode, bind_eq_ok, mapError_eq_ok, hEnter]
  have hBuild {nodes : List (String × Node)} (hScan : fs.scan [] members = .ok nodes) :
      fs.build (.members nodes) = .ok a ↔ Made (fun name => member? name found) a := by
    obtain ⟨picked, rfl, hPicked⟩ := bears_of_scan hMembers hScan
    exact h.build (.members hPicked) a
  rw [hRead]
  constructor
  · rintro ⟨nodes, hScan, hOwn⟩
    exact (hBuild hScan).1 hOwn
  · intro hMade
    -- the checks come before the record is built, and here they follow from what it is made of
    have hPass : ∀ e ∈ found, ∀ {check node}, fs.check e.1 = some check →
        node.Bears e.2 → check node = .ok () := by
      intro e hMem check node hCheck hNode
      exact h.passes hMade hCheck ((member?_eq_some hNodup).2 hMem) hNode
    have hNew : ∀ e ∈ found, ([] : List (String × Node)).any (·.1 == e.1) = false := by simp
    obtain ⟨nodes, hScan⟩ := scan_of_passes hMembers hNodup hNew hPass
    exact ⟨nodes, hScan, (hBuild hScan).2 hMade⟩

theorem decode_array_iff (h : fs.Decodes Made) (record : String) {first : Close}
    {items : List (Node × Close)} {ws : List Json} (hEnter : enter start depth = .ok ())
    (hItems : Node.ItemsBear first items ws) :
    fs.decode record (.array start depth first items (.closed stop)) = .ok a ↔
      ws.length ≤ fs.names.length ∧ Made (fun name => ws[fs.names.idxOf name]?) a := by
  have hSlots : (Slots.items record fs.names items (.closed stop)).Bear fs.IsField
      fun name => ws[fs.names.idxOf name]? :=
    .items fun name => rel_getElem? (Node.forall₂_of_bear hItems) _
  have hRead : fs.decode record (.array start depth first items (.closed stop)) = .ok a ↔
      (closeAfter fs.names.length first items).fault = none ∧
        fs.build (.items record fs.names items (.closed stop)) = .ok a := by
    simp only [decode, bind_eq_ok, mapError_eq_ok, hEnter, true_and, exists_const]
    cases (closeAfter fs.names.length first items).fault <;> simp
  rw [hRead, h.build hSlots, closeAfter_of_bear hItems]

/-- **A record is read from a document exactly if its fields can be made of the value.** -/
theorem decodes_decode (h : fs.Decodes Made) (record : String) :
    Node.Decodes (fs.decode record) (Record fs.names Made) := by
  intro node w a hBears
  cases hBears with
  | @object start stop depth lead members found ws hEnter hMembers hNodup hValue =>
    have hLook : (fun name => member? name ws) = fun name => member? name found := by
      funext name
      rw [← hValue, member?_insertAll hNodup]
    rw [decode_object_iff h record hEnter hMembers hNodup, ← hLook]
    constructor
    · exact .object
    · intro hRecord
      cases hRecord with
      | object hMade => exact hMade
  | array hEnter hItems =>
    rw [decode_array_iff h record hEnter hItems]
    constructor
    · rintro ⟨hLength, hMade⟩
      exact .array hLength hMade
    · intro hRecord
      cases hRecord with
      | array hLength hMade => exact ⟨hLength, hMade⟩
  | _ =>
    constructor
    · intro hRead
      simp [decode] at hRead
    · intro hRecord
      cases hRecord

end Decoding

/-- Members that are no fields of a record make no difference to what is found. -/
theorem scan_filter (fs : Fields α) (ws : List (String × Json)) (seen : List (String × Node)) :
    fs.scan seen (Node.membersOfJson (ws.filter fun e => (fs.check e.1).isSome)) =
      fs.scan seen (Node.membersOfJson ws) := by
  induction ws generalizing seen with
  | nil => rfl
  | cons e rest ih =>
    obtain ⟨k, v⟩ := e
    cases hCheck : fs.check k with
    | none =>
      simp only [List.filter_cons, hCheck, Option.isSome_none, Bool.false_eq_true, if_false, ih,
        Node.membersOfJson, scan, Node.skip_ofJson, Except.mapError, bind, Except.bind]
    | some check =>
      simp only [List.filter_cons, hCheck, Option.isSome_some, if_true, Node.membersOfJson, scan,
        ih]

/-- Members that are no fields of a record are ignored. -/
theorem decodeValue_filter {fs : Fields α} {Made : (String → Option Json) → α → Prop}
    (h : fs.Decodes Made) (record : String) (ws : List (String × Json)) :
    decodeValue (fs.decode record) (.object (ws.filter fun e => e.1 ∈ fs.names)) =
      decodeValue (fs.decode record) (.object ws) := by
  have hNames : (fun e : String × Json => decide (e.1 ∈ fs.names)) =
      fun e => (fs.check e.1).isSome := by
    funext e
    rw [Bool.eq_iff_iff, decide_eq_true_eq, ← h.named]
    rfl
  simp only [decodeValue, Node.ofJson, decode, hNames, scan_filter]

end Fields

/-! ## Texts and values -/

section Entries

variable {read : Node → Except Fault α} {P : Json → α → Prop} {w : Json} {a : α}

theorem decodeValue_iff (h : Node.Decodes read P) (hOrdered : w.Ordered) :
    decodeValue read w = .ok a ↔ P w a :=
  h _ _ _ (Node.bears_ofJson hOrdered)

/-- What is made of a text that repeats no names is decided by its value. -/
theorem decodeText_iff (h : Node.Decodes read P) {text : String} (hValue : parse text = .ok w)
    (hDistinct : (Document.ofText text).root.isDistinct = true) :
    decodeText read text = .ok a ↔ P w a := by
  obtain ⟨hBears, hTrailing⟩ := Document.bears hValue hDistinct
  have hRead : decodeText read text = .ok a ↔ read (Document.ofText text).root = .ok a := by
    simp [decodeText, Document.decode, hTrailing, bind_eq_ok]
  rw [hRead, h _ _ _ hBears]

end Entries

/-! ## Values that are accepted -/

/-- Not there, or `null`, or a value of some kind. -/
inductive BlankOr (P : Json → Prop) : Option Json → Prop
  | absent : BlankOr P none
  | null : BlankOr P (some .null)
  | there {w : Json} (h : P w) : BlankOr P (some w)

/-- A list of values of some kind. -/
def IsListOf (P : Json → Prop) (w : Json) : Prop := ∃ ws, w = .array ws ∧ ∀ v ∈ ws, P v

section Accepting

variable {P : Json → α → Prop} {l : Option Json}

theorem BlankOr.mono {Q R : Json → Prop} (h : ∀ w, Q w → R w) (hBlank : BlankOr Q l) :
    BlankOr R l := by
  cases hBlank with
  | absent => exact .absent
  | null => exact .null
  | there hValue => exact .there (h _ hValue)

theorem exists_forall₂ {ws : List Json} :
    (∃ as, List.Forall₂ P ws as) ↔ ∀ w ∈ ws, ∃ a, P w a := by
  induction ws with
  | nil => simp
  | cons w rest ih => simp [List.forall₂_cons_left_iff, ← ih]

theorem exists_stands_optional :
    (∃ o, Stands (NullOr P) (.default none) l o) ↔ BlankOr (fun w => ∃ a, P w a) l := by
  constructor
  · rintro ⟨o, hStands⟩
    cases hStands with
    | absent => exact .absent
    | there hOr =>
      cases hOr with
      | null => exact .null
      | value _ hValue => exact .there ⟨_, hValue⟩
  · intro hBlank
    cases hBlank with
    | absent => exact ⟨none, .absent rfl⟩
    | null => exact ⟨none, .there .null⟩
    | @there w hValue =>
      obtain ⟨a, hValue⟩ := hValue
      by_cases hNull : w = .null
      · subst hNull
        exact ⟨none, .there .null⟩
      · exact ⟨some a, .there (.value hNull hValue)⟩

theorem exists_stands_list :
    (∃ as, Stands (NullOrList P) (.default []) l as) ↔
      BlankOr (IsListOf fun w => ∃ a, P w a) l := by
  constructor
  · rintro ⟨as, hStands⟩
    cases hStands with
    | absent => exact .absent
    | there hOr =>
      cases hOr with
      | null => exact .null
      | list hAll => exact .there ⟨_, rfl, exists_forall₂.1 ⟨as, hAll⟩⟩
  · intro hBlank
    cases hBlank with
    | absent => exact ⟨[], .absent rfl⟩
    | null => exact ⟨[], .there .null⟩
    | there hList =>
      obtain ⟨ws, rfl, hEach⟩ := hList
      obtain ⟨as, hAll⟩ := exists_forall₂.2 hEach
      exact ⟨as, .there (.list hAll)⟩

/-- A reader that accepts every value accepts what stands under a name, and its absence. -/
theorem exists_stands_default (default : α) (h : ∀ w, ∃ a, P w a) (l : Option Json) :
    ∃ a, Stands P (.default default) l a := by
  cases l with
  | none => exact ⟨default, .absent rfl⟩
  | some w =>
    obtain ⟨a, hValue⟩ := h w
    exact ⟨a, .there hValue⟩

end Accepting

end SessionReplay.Json
