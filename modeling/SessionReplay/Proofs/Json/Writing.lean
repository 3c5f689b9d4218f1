import SessionReplay.Proofs.Json.Order
import SessionReplay.Proofs.Json.Reading
import Mathlib.Data.List.Nodup

/-!
# What is written is read again

* `Node.Reads`: a reader that makes one and the same of all documents that show a value.
* `Shows`: nodes under names, one for each member of an object, that show the values.
* `Fields.Writes`: the members of an object are what a record is read from.
* `Fields.reads_decode`, `Fields.reads_record`: the reader of a record, put together from those of
  its fields.
* `Fields.Ensures`: what holds of every record that is read.
* `Json.Rearranged`: the members of an object do not have to stand in the order of their fields.
-/

namespace SessionReplay.Json

variable {α β : Type}

/-! ## Integers -/

/-- An integer of 64 bits is a number, and the number is this integer. -/
theorem exists_ofInt? {i : Int} (hLow : -9223372036854775808 ≤ i)
    (hHigh : i < 18446744073709551616) :
    ∃ m, Number.ofInt? i = some m ∧ m.toInt? = some i := by
  cases i with
  | ofNat n =>
    have hSize : n < UInt64.size := by
      change (n : Int) < 18446744073709551616 at hHigh
      change n < 18446744073709551616
      omega
    have hWord : n.toUInt64.toNat = n := UInt64.toNat_ofNat_of_lt' hSize
    refine ⟨.natural n.toUInt64, if_pos hSize, ?_⟩
    rw [Number.toInt?, hWord]
    rfl
  | negSucc n =>
    have hSize : n < Nat.pow 2 63 := by
      change n < 9223372036854775808
      omega
    exact ⟨.negative ⟨n, hSize⟩, dif_pos hSize, rfl⟩

theorem exists_ofInt32 (n : Int32) : ∃ m, ofInt32 n = .number m ∧ m.toInt? = some n.toInt := by
  have hLow := n.le_toInt
  have hHigh := n.toInt_lt
  obtain ⟨m, hMade, hBack⟩ : ∃ m, Number.ofInt? n.toInt = some m ∧ m.toInt? = some n.toInt :=
    exists_ofInt? (by omega) (by omega)
  refine ⟨m, ?_, hBack⟩
  rw [ofInt32, hMade]

/-! ## Values -/

namespace Node

/-- What is made of every document that shows a value. -/
def Reads (read : Node → Except Fault α) (w : Json) (a : α) : Prop :=
  ∀ node, w.isShownBy node = true → read node = .ok a

variable {read : Node → Except Fault α} {w : Json} {a : α}

theorem reads_map (h : Reads read w a) (f : α → β) : Reads (fun node => f <$> read node) w (f a) :=
  fun node hShown => map_eq_ok.2 ⟨a, h node hShown, rfl⟩

theorem reads_toJson (h : w.Ordered) : Reads toJson w w :=
  fun _ hShown => toJson_of_shown hShown h

theorem reads_asString (s : String) : Reads asString (.string s) s := by
  intro node hShown
  obtain ⟨start, stop, rfl⟩ := eq_string_of_shown hShown
  rfl

theorem reads_asBool (b : Bool) : Reads asBool (.bool b) b := by
  intro node hShown
  obtain ⟨start, stop, rfl⟩ := eq_bool_of_shown hShown
  rfl

theorem reads_asDouble (x : Double) : Reads asDouble (.number (.real x)) x := by
  intro node hShown
  obtain ⟨start, stop, rfl⟩ := eq_number_of_shown hShown
  rfl

theorem reads_asWord (wanted : String) (n : UInt64) : Reads (asWord wanted) (.ofWord n) n := by
  intro node hShown
  obtain ⟨start, stop, rfl⟩ := eq_number_of_shown hShown
  have hSize := n.toNat_lt_size
  have hRange : (0 : Int) ≤ n.toNat ∧ (n.toNat : Int) ≤ (UInt64.size - 1 : Nat) := by omega
  refine map_eq_ok.2 ⟨n.toNat, ?_, by simp⟩
  simp only [asInteger, Number.toInt?, bind, Except.bind, if_pos hRange]

theorem reads_asInt32 (n : Int32) : Reads asInt32 (.ofInt32 n) n := by
  intro node hShown
  obtain ⟨m, hNumber, hBack⟩ := exists_ofInt32 n
  rw [hNumber] at hShown
  obtain ⟨start, stop, rfl⟩ := eq_number_of_shown hShown
  refine map_eq_ok.2 ⟨n.toInt, ?_, n.ofInt_toInt⟩
  simp only [asInteger, hBack, bind, Except.bind]
  exact if_pos ⟨n.minValue_le_toInt, n.toInt_le⟩

theorem reads_asParsed {parse : String → Except String α} {s : String} (h : parse s = .ok a)
    (wanted : String) : Reads (asParsed wanted parse) (.string s) a := by
  intro node hShown
  obtain ⟨start, stop, rfl⟩ := eq_string_of_shown hShown
  simp only [asParsed, h, bind, Except.bind]

theorem reads_asName {table : List (String × α)} {name : String}
    (h : table.find? (·.1 == name) = some (name, a)) : Reads (asName table) (.string name) a := by
  intro node hShown
  obtain ⟨start, stop, rfl⟩ := eq_string_of_shown hShown
  simp only [asName, lookUp, h, bind, Except.bind]

theorem reads_asOption_null (read : Node → Except Fault α) : Reads (asOption read) .null none := by
  intro node hShown
  obtain ⟨start, stop, rfl⟩ := eq_null_of_shown hShown
  rfl

theorem reads_asOption (h : Reads read w a) (hNull : w ≠ .null) :
    Reads (asOption read) w (some a) := by
  intro node hShown
  have hOption : asOption read node = some <$> read node := by
    cases node with
    | null start stop => cases w <;> simp_all [isShownBy]
    | _ => rfl
  rw [hOption]
  exact map_eq_ok.2 ⟨a, h node hShown, rfl⟩

/-- A value that may be `null`, by those that are not. -/
theorem reads_ofOption {write : α → Json} {o : Option α} (h : ∀ a ∈ o, Reads read (write a) a)
    (hNull : ∀ a, write a ≠ .null) : Reads (asOption read) (ofOption write o) o := by
  cases o with
  | none => exact reads_asOption_null read
  | some a => exact reads_asOption (h a rfl) (hNull a)

theorem readEach_of_shown {write : α → Json} {as : List α} (h : ∀ a ∈ as, Reads read (write a) a)
    {nodes : List (Node × Close)} (hShown : areShownBy (as.map write) nodes = true)
    (stop : Option Place) (index : Nat) : readEach read (.closed stop) index nodes = .ok as := by
  induction as generalizing nodes index with
  | nil =>
    obtain rfl := eq_nil_of_shown hShown
    rfl
  | cons a rest ih =>
    obtain ⟨node, close, others, rfl, hNode, hRest⟩ := areShownBy_cons hShown
    have hOthers := ih (fun a hMem => h a (List.mem_cons_of_mem _ hMem)) hRest (index + 1)
    simp only [readEach, h a List.mem_cons_self node hNode, hOthers, Except.mapError, bind,
      Except.bind]

theorem reads_asList {write : α → Json} {as : List α} (h : ∀ a ∈ as, Reads read (write a) a) :
    Reads (asList read) (.array (as.map write)) as := by
  intro node hShown
  obtain ⟨start, depth, first, nodes, stop, rfl, hEnter, hItems⟩ := eq_array_of_shown hShown
  exact bind_eq_ok.2 ⟨(), hEnter, readEach_of_shown h hItems stop 0⟩

theorem reads_asListOrNull {write : α → Json} {as : List α}
    (h : ∀ a ∈ as, Reads read (write a) a) :
    Reads (asListOrNull read) (.array (as.map write)) as :=
  reads_map (reads_asOption (reads_asList h) (by simp)) (·.getD [])

/-- What holds of all that is read of items holds of every item of a list. -/
theorem forall_of_readEach {P : α → Prop} (h : ∀ node a, read node = .ok a → P a)
    {tail : Tail} {index : Nat} {nodes : List (Node × Close)} {as : List α}
    (hRead : readEach read tail index nodes = .ok as) : ∀ a ∈ as, P a := by
  induction nodes generalizing index as with
  | nil =>
    simp only [readEach] at hRead
    split at hRead
    · obtain rfl := Except.ok.inj hRead
      simp
    · contradiction
  | cons item rest ih =>
    obtain ⟨node, close⟩ := item
    simp only [readEach, bind_eq_ok, mapError_eq_ok] at hRead
    obtain ⟨a, hFirst, others, hRest, hEq⟩ := hRead
    obtain rfl := Except.ok.inj hEq
    simpa using ⟨h node a hFirst, ih hRest⟩

theorem forall_of_asListOrNull {P : α → Prop} (h : ∀ node a, read node = .ok a → P a)
    {node : Node} {as : List α} (hRead : asListOrNull read node = .ok as) : ∀ a ∈ as, P a := by
  obtain ⟨found, hFound, rfl⟩ := map_eq_ok.1 hRead
  cases found with
  | none => simp
  | some as =>
    cases node with
    | array start depth first items tail =>
      obtain ⟨as', hList, hEq⟩ := map_eq_ok.1 hFound
      obtain rfl := Option.some.inj hEq
      obtain ⟨-, -, hEach⟩ := bind_eq_ok.1 hList
      exact forall_of_readEach h hEach
    | null => simp [asOption] at hFound
    | _ => contradiction

end Node

/-! ## Members in any order -/

/-- The same object with its members in another order. -/
inductive Rearranged : Json → Json → Prop where
  | intro {members members' : List (String × Json)} (h : members.Perm members') :
    Rearranged (.object members) (.object members')

theorem member?_singleton (name other : String) (w : Json) :
    member? name [(other, w)] = if other = name then some w else none := by
  by_cases hName : other = name <;> simp [member?, hName]

theorem member?_append (name : String) (first second : List (String × Json)) :
    member? name (first ++ second) = (member? name first).or (member? name second) := by
  unfold member?
  rw [List.find?_append]
  cases first.find? (·.1 == name) <;> rfl

theorem member?_eq_some {members : List (String × Json)} (hNodup : (members.map (·.1)).Nodup)
    {name : String} {w : Json} : member? name members = some w ↔ (name, w) ∈ members := by
  induction members with
  | nil => simp [member?]
  | cons first rest ih =>
    obtain ⟨k, v⟩ := first
    rw [List.map_cons, List.nodup_cons] at hNodup
    by_cases hName : k = name
    · subst hName
      have hRest : (k, w) ∉ rest := fun hMem =>
        hNodup.1 (List.mem_map_of_mem (f := (·.1)) hMem)
      simp [member?, hRest, eq_comm]
    · simpa [member?, hName, Ne.symm hName] using ih hNodup.2

theorem member?_perm {members members' : List (String × Json)} (h : members.Perm members')
    (hNodup : (members.map (·.1)).Nodup) (name : String) :
    member? name members = member? name members' := by
  ext w
  rw [member?_eq_some hNodup, member?_eq_some ((h.map _).nodup_iff.1 hNodup), h.mem_iff]

/-! ## Records -/

/-- What is found under a name shows the member of that name, if there is one. -/
def Finds (nodes : List (String × Node)) (members : List (String × Json)) (name : String) : Prop :=
  match member? name members with
  | some w => ∃ node, nodes.find? (·.1 == name) = some (name, node) ∧ w.isShownBy node = true
  | none => nodes.find? (·.1 == name) = none

/-- The nodes stand under the names of the members, and show their values. -/
inductive Shows : List (String × Json) → List (String × Node) → Prop where
  | nil : Shows [] []
  | cons {k : String} {v : Json} {node : Node} {members : List (String × Json)}
      {nodes : List (String × Node)} (hFirst : v.isShownBy node = true)
      (hRest : Shows members nodes) : Shows ((k, v) :: members) ((k, node) :: nodes)

theorem Shows.finds {members : List (String × Json)} {nodes : List (String × Node)}
    (h : Shows members nodes) (name : String) : Finds nodes members name := by
  induction h with
  | nil => rfl
  | @cons k v node rest others hFirst _ ih =>
    by_cases hName : k = name
    · subst hName
      simpa [Finds, member?] using hFirst
    · simpa [Finds, member?, hName] using ih

namespace Fields

variable {fs : Fields α} {members : List (String × Json)} {a : α}

/-- The members pass the checks of the fields, and are what the record is read from. -/
structure Writes (fs : Fields α) (members : List (String × Json)) (a : α) : Prop where
  check : ∀ name check w, fs.check name = some check → member? name members = some w →
    Node.Reads check w ()
  build : ∀ nodes, (∀ name, (fs.check name).isSome → Finds nodes members name) →
    fs.build (.members nodes) = .ok a

theorem writes_field {name : String} {read : Node → Except Fault α} {absence : Absence α}
    (hThere : ∀ w, member? name members = some w → Node.Reads read w a)
    (hMissing : member? name members = none → absence = .default a) :
    (field name read absence).Writes members a where
  check other check w hCheck hMember := by
    simp only [field, Option.ite_none_right_eq_some, Option.some.injEq] at hCheck
    obtain ⟨rfl, rfl⟩ := hCheck
    exact Node.reads_map (hThere w hMember) _
  build nodes hNodes := by
    have hFinds := hNodes name (by simp [field])
    unfold Finds at hFinds
    change Slots.fetch name read absence (.members nodes) = .ok a
    cases hMember : member? name members with
    | some w =>
      rw [hMember] at hFinds
      obtain ⟨node, hFind, hShown⟩ := hFinds
      simp only [Slots.fetch, hFind, hThere w hMember node hShown, Except.mapError]
    | none =>
      rw [hMember] at hFinds
      simp only [Slots.fetch, hFinds, hMissing hMember]

theorem writes_present {name : String} {read : Node → Except Fault α} {absence : Absence α}
    {w : Json} (hMember : member? name members = some w) (hRead : Node.Reads read w a) :
    (field name read absence).Writes members a := by
  refine writes_field (fun w' hThere => ?_) fun hMissing => ?_
  · obtain rfl := Option.some.inj (hMember.symm.trans hThere)
    exact hRead
  · rw [hMember] at hMissing
    contradiction

theorem writes_map (h : fs.Writes members a) (f : α → β) : (f <$> fs).Writes members (f a) where
  check := h.check
  build nodes hNodes := map_eq_ok.2 ⟨a, h.build nodes hNodes, rfl⟩

theorem writes_seq {fs : Fields (α → β)} {gs : Fields α} {f : α → β} (hFs : fs.Writes members f)
    (hGs : gs.Writes members a) : (fs <*> gs).Writes members (f a) where
  check name check w hCheck hMember := by
    rcases check_of_seq hCheck with hOwn | hOwn
    · exact hFs.check name check w hOwn hMember
    · exact hGs.check name check w hOwn hMember
  build nodes hNodes := by
    have hFirst := hFs.build nodes fun name hField => hNodes name (by
      change (fs.check name <|> gs.check name).isSome
      simp [hField])
    have hSecond := hGs.build nodes fun name hField => hNodes name (by
      change (fs.check name <|> gs.check name).isSome
      simp [hField])
    exact bind_eq_ok.2 ⟨f, hFirst, bind_eq_ok.2 ⟨a, hSecond, rfl⟩⟩

/-- The order of the members does not count. -/
theorem Writes.perm {members' : List (String × Json)} (h : fs.Writes members a)
    (hNodup : (members.map (·.1)).Nodup) (hPerm : members.Perm members') :
    fs.Writes members' a where
  check name check w hCheck hMember :=
    h.check name check w hCheck ((member?_perm hPerm hNodup name).trans hMember)
  build nodes hNodes := h.build nodes fun name hField => by
    have hFinds := hNodes name hField
    rwa [Finds, ← member?_perm hPerm hNodup name] at hFinds

theorem Writes.check_of_mem (h : fs.Writes members a) (hNodup : (members.map (·.1)).Nodup) :
    ∀ e ∈ members, ∀ check, fs.check e.1 = some check → Node.Reads check e.2 () :=
  fun e hMem check hCheck => h.check e.1 check e.2 hCheck ((member?_eq_some hNodup).2 hMem)

/-- A name that no later member has leaves all of them unseen. -/
theorem any_seen_cons {k : String} (node : Node) {seen : List (String × Node)}
    (hFirst : k ∉ members.map (·.1)) (hNew : ∀ e ∈ members, seen.any (·.1 == e.1) = false) :
    ∀ e ∈ members, ((k, node) :: seen).any (·.1 == e.1) = false := by
  intro e hMem
  have hOther : k ≠ e.1 := fun hEq => hFirst (hEq ▸ List.mem_map_of_mem (f := (·.1)) hMem)
  simpa [hOther] using hNew e hMem

theorem scan_of_shown {nodes : List (Member Node)} {seen : List (String × Node)}
    (hFields : ∀ e ∈ members, ∃ check, fs.check e.1 = some check ∧ Node.Reads check e.2 ())
    (hNodup : (members.map (·.1)).Nodup) (hNew : ∀ e ∈ members, seen.any (·.1 == e.1) = false)
    (hShown : membersShownBy members nodes = true) :
    ∃ found, fs.scan seen nodes = .ok (seen.reverse ++ found) ∧ Shows members found := by
  induction members generalizing nodes seen with
  | nil =>
    obtain rfl := members_eq_nil_of_shown hShown
    exact ⟨[], by simp [scan], .nil⟩
  | cons e rest ih =>
    obtain ⟨k, v⟩ := e
    obtain ⟨stop, close, node, next, others, rfl, hNode, hRest⟩ := membersShownBy_cons hShown
    rw [List.map_cons, List.nodup_cons] at hNodup
    obtain ⟨check, hField, hPass⟩ := hFields (k, v) List.mem_cons_self
    have hOthers : ∀ e ∈ rest, ((k, node) :: seen).any (·.1 == e.1) = false :=
      any_seen_cons node hNodup.1 fun e hMem => hNew e (List.mem_cons_of_mem _ hMem)
    obtain ⟨found, hScan, hFound⟩ := ih (fun e hMem => hFields e (List.mem_cons_of_mem _ hMem))
      hNodup.2 hOthers hRest
    refine ⟨(k, node) :: found, ?_, .cons hNode hFound⟩
    have hFirst := hNew (k, v) List.mem_cons_self
    simp only [scan, Except.mapError, bind, Except.bind, hField, hFirst, Bool.false_eq_true,
      if_false, hPass node hNode, hScan]
    simp

/-- **A record that was written is read again**, whatever the order of its members. -/
theorem reads_decode (hNodup : (members.map (·.1)).Nodup)
    (hNames : ∀ e ∈ members, (fs.check e.1).isSome) (h : fs.Writes members a) (record : String) :
    Node.Reads (fs.decode record) (.object members) a := by
  intro node hShown
  obtain ⟨start, depth, lead, nodes, stop, rfl, hEnter, hMembers⟩ := eq_object_of_shown hShown
  have hFields : ∀ e ∈ members, ∃ check, fs.check e.1 = some check ∧ Node.Reads check e.2 () := by
    intro e hMem
    obtain ⟨check, hField⟩ := Option.isSome_iff_exists.1 (hNames e hMem)
    exact ⟨check, hField, h.check_of_mem hNodup e hMem check hField⟩
  have hNone : ∀ e ∈ members, ([] : List (String × Node)).any (·.1 == e.1) = false := by simp
  obtain ⟨found, hScan, hFound⟩ := scan_of_shown hFields hNodup hNone hMembers
  have hBuild := h.build found fun name _ => hFound.finds name
  rw [List.reverse_nil, List.nil_append] at hScan
  refine bind_eq_ok.2 ⟨(), hEnter, bind_eq_ok.2 ⟨found, hScan, ?_⟩⟩
  exact mapError_eq_ok.2 hBuild

/-- A record whose members all have the names of its fields, each at most once and in their order. -/
theorem reads_record (hWritten : (members.map (·.1)).Sublist fs.names) (hNodup : fs.names.Nodup)
    (hNamed : ∀ name ∈ fs.names, (fs.check name).isSome) (h : fs.Writes members a)
    (record : String) : Node.Reads (fs.decode record) (.object members) a := by
  refine reads_decode (hWritten.nodup hNodup) (fun e hMem => ?_) h record
  exact hNamed e.1 (hWritten.subset (List.mem_map_of_mem hMem))

/-! ## What a reading succeeds with -/

theorem build_of_decode {record : String} {node : Node} (h : fs.decode record node = .ok a) :
    ∃ slots, fs.build slots = .ok a := by
  cases node with
  | object start depth lead members tail =>
    obtain ⟨-, -, hRest⟩ := bind_eq_ok.1 h
    obtain ⟨nodes, -, hBuild⟩ := bind_eq_ok.1 hRest
    split at hBuild
    · contradiction
    · exact ⟨_, mapError_eq_ok.1 hBuild⟩
  | array start depth first items tail =>
    obtain ⟨-, -, hRest⟩ := bind_eq_ok.1 h
    obtain ⟨a', hBuild, hClose⟩ := bind_eq_ok.1 hRest
    split at hClose
    · contradiction
    · obtain rfl := Except.ok.inj hClose
      exact ⟨_, mapError_eq_ok.1 hBuild⟩
  | _ => contradiction

/-- Whatever is read into the fields has a property. -/
def Ensures (P : α → Prop) (fs : Fields α) : Prop :=
  ∀ slots a, fs.build slots = .ok a → P a

section Ensures

variable {P : α → Prop} {R : β → Prop} {gs : Fields (α → β)}

theorem ensures_any (fs : Fields α) : fs.Ensures fun _ => True := fun _ _ _ => trivial

theorem ensures_map {f : α → β} (h : fs.Ensures fun a => R (f a)) : (f <$> fs).Ensures R := by
  intro slots b hBuild
  obtain ⟨a, hOwn, rfl⟩ := map_eq_ok.1 hBuild
  exact h slots a hOwn

theorem ensures_seq (hFirst : gs.Ensures fun f => ∀ a, P a → R (f a)) (hThen : fs.Ensures P) :
    (gs <*> fs).Ensures R := by
  intro slots b hBuild
  obtain ⟨f, hOwn, hRest⟩ := bind_eq_ok.1 hBuild
  obtain ⟨a, hLast, hEq⟩ := bind_eq_ok.1 hRest
  obtain rfl := Except.ok.inj hEq
  exact hFirst slots f hOwn a (hThen slots a hLast)

theorem ensures_decode (P : α → Prop) (h : fs.Ensures P) {record : String} {node : Node}
    (hRead : fs.decode record node = .ok a) : P a := by
  obtain ⟨slots, hBuild⟩ := build_of_decode hRead
  exact h slots a hBuild

end Ensures

/-- The value of a field was read, or it is the one of an absent field. -/
theorem read_or_absent {name : String} {read : Node → Except Fault α} {absence : Absence α}
    {slots : Slots} (h : (field name read absence).build slots = .ok a) :
    (∃ node, read node = .ok a) ∨ absence = .unnamed a ∨ absence = .default a := by
  change slots.fetch name read absence = .ok a at h
  cases slots with
  | members nodes =>
    simp only [Slots.fetch] at h
    split at h
    · exact .inl ⟨_, mapError_eq_ok.1 h⟩
    · cases absence <;> simp_all
  | items record names nodes tail =>
    simp only [Slots.fetch] at h
    split at h
    · exact .inl ⟨_, mapError_eq_ok.1 h⟩
    · cases tail <;> cases absence <;> simp_all

end Fields
end SessionReplay.Json
