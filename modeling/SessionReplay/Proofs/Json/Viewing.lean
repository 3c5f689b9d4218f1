import SessionReplay.Proofs.Json.Deciding

/-!
# What readers look at

What a reader accepts can be told from a few parts of the document; the rest makes no difference to
it. So a record that was read is a function of what stands under the names of its fields.

* `Node.text?`, `flag?`, `word?`, `items`: the contents of a value of one kind.
* `Node.under`: what stands under the name of a field.
* `Node.Yields`: what is read from a document is this function of it.
* `Fields.Yields`, `Fields.yields_decode`: the same for records, put together from their fields.
-/

namespace SessionReplay.Json

variable {α β : Type}

/-! ## The contents of values -/

namespace Node

def text? : Node → Option String
  | .string (.ok s) _ _ => some s
  | _ => none

def flag? : Node → Option Bool
  | .bool b _ _ => some b
  | _ => none

def word? : Node → Option UInt64
  | .number (.ok (.natural n)) _ _ => some n
  | _ => none

def items : Node → List Node
  | .array _ _ _ items _ => items.map (·.1)
  | _ => []

/-- A value that is not `null`. -/
def given? : Node → Option Node
  | .null _ _ => none
  | node => some node

/-- The first value with a name. -/
def valueNamed (name : String) : List (Member Node) → Option Node
  | [] => none
  | ⟨.ok k, _, _, .ok node, _⟩ :: rest => if k = name then some node else valueNamed name rest
  | _ :: rest => valueNamed name rest

/-- What stands under the name of a field, in an object or at its place in an array. -/
def under (names : List String) (node : Node) (name : String) : Option Node :=
  match node with
  | .object _ _ _ members _ => valueNamed name members
  | .array _ _ _ items _ => (items[names.idxOf name]?).map (·.1)
  | _ => none

/-! ## Readers -/

/-- What is read from a document is a function of it. -/
def Yields (read : Node → Except Fault α) (view : Node → α) : Prop :=
  ∀ node a, read node = .ok a → a = view node

section Readers

variable {read : Node → Except Fault α} {view : Node → α}

/-- Every reader yields what it reads. -/
theorem yields_self (read : Node → Except Fault α) (default : α) :
    Yields read fun node => (read node).toOption.getD default := by
  intro node a hRead
  change a = (read node).toOption.getD default
  rw [hRead]
  rfl

theorem yields_asOption (h : Yields read view) :
    Yields (asOption read) fun node => node.given?.map view := by
  intro node o hRead
  cases node with
  | null start stop => exact (Except.ok.inj hRead).symm
  | _ =>
    obtain ⟨a, hValue, rfl⟩ := map_eq_ok.1 hRead
    exact congrArg some (h _ a hValue)

theorem yields_text : Yields (asOption asString) text? := by
  intro node o hRead
  cases node with
  | null start stop => exact (Except.ok.inj hRead).symm
  | string value start stop =>
    obtain ⟨s, hValue, rfl⟩ := map_eq_ok.1 hRead
    rw [asString] at hValue
    rw [hValue]
    rfl
  | _ => simp [asOption, asString] at hRead

theorem yields_flag : Yields (asOption asBool) flag? := by
  intro node o hRead
  cases node with
  | null start stop => exact (Except.ok.inj hRead).symm
  | bool b start stop => exact (Except.ok.inj hRead).symm
  | _ => simp [asOption, asBool] at hRead

theorem yields_word (wanted : String) : Yields (asOption (asWord wanted)) word? := by
  intro node o hRead
  cases node with
  | null start stop => exact (Except.ok.inj hRead).symm
  | number value start stop =>
    obtain ⟨w, hWord, rfl⟩ := map_eq_ok.1 hRead
    obtain ⟨i, hInteger, rfl⟩ := map_eq_ok.1 hWord
    obtain ⟨n, rfl, hRange⟩ := bind_eq_ok.1 hInteger
    cases n with
    | natural k =>
      simp only [Number.toInt?] at hRange
      split at hRange
      · obtain rfl := Except.ok.inj hRange
        simp [word?]
      · contradiction
    | negative k =>
      simp only [Number.toInt?] at hRange
      rw [if_neg (by omega)] at hRange
      contradiction
    | real x => simp [Number.toInt?] at hRange
  | _ => simp [asOption, asWord, asInteger] at hRead

theorem eq_of_readEach (h : Yields read view) {tail : Tail} {index : Nat}
    {items : List (Node × Close)} {as : List α} (hRead : readEach read tail index items = .ok as) :
    as = (items.map (·.1)).map view := by
  induction items generalizing index as with
  | nil =>
    cases tail with
    | closed stop => exact (Except.ok.inj hRead).symm
    | broken read skipped => simp [readEach] at hRead
  | cons item rest ih =>
    simp only [readEach, bind_eq_ok, mapError_eq_ok] at hRead
    obtain ⟨a, hFirst, others, hOthers, hEq⟩ := hRead
    rw [← Except.ok.inj hEq, h _ a hFirst, ih hOthers]
    rfl

theorem yields_asList (h : Yields read view) :
    Yields (asList read) fun node => node.items.map view := by
  intro node as hRead
  cases node with
  | array start depth first items tail =>
    obtain ⟨_, -, hEach⟩ := bind_eq_ok.1 hRead
    exact eq_of_readEach h hEach
  | _ => simp [asList] at hRead

end Readers

end Node

/-! ## Records -/

/-- What stands under the name of a field. -/
def Slots.under (name : String) : Slots → Option Node
  | .members nodes => (nodes.find? (·.1 == name)).map (·.2)
  | .items _ names nodes _ => (nodes[names.idxOf name]?).map (·.1)

namespace Fields

/-- What is read into the fields is a function of what stands under their names. -/
def Yields (fs : Fields α) (view : (String → Option Node) → α) : Prop :=
  ∀ slots look a, (∀ name, fs.IsField name → slots.under name = look name) →
    fs.build slots = .ok a → a = view look

section Combinators

variable {read : Node → Except Fault α} {view : Node → α} {name : String}

/-- A field whose absence stands for nothing but a default. -/
theorem yields_field (name : String) (h : Node.Yields read view) {absence : Absence α}
    {default : α}
    (hAbsence : ∀ a, absence = .unnamed a ∨ absence = .default a → a = default) :
    (field name read absence).Yields fun look => (look name).elim default view := by
  intro slots look a hLook hBuild
  change a = (look name).elim default view
  rw [← hLook name (by simp [IsField, field])]
  change slots.fetch name read absence = .ok a at hBuild
  unfold Slots.fetch at hBuild
  cases slots with
  | members nodes =>
    dsimp only at hBuild
    rw [Slots.under]
    cases hFind : nodes.find? (·.1 == name) with
    | none =>
      rw [hFind] at hBuild
      cases absence with
      | fault => contradiction
      | unnamed own => exact (Except.ok.inj hBuild).symm.trans (hAbsence own (.inl rfl))
      | default own => exact (Except.ok.inj hBuild).symm.trans (hAbsence own (.inr rfl))
    | some e =>
      rw [hFind] at hBuild
      exact h e.2 a (mapError_eq_ok.1 hBuild)
  | items record names nodes tail =>
    dsimp only at hBuild
    rw [Slots.under]
    cases hItem : nodes[names.idxOf name]? with
    | none =>
      rw [hItem] at hBuild
      cases tail with
      | broken read skipped => contradiction
      | closed stop =>
        cases absence with
        | fault | unnamed own => contradiction
        | default own => exact (Except.ok.inj hBuild).symm.trans (hAbsence own (.inr rfl))
    | some item =>
      rw [hItem] at hBuild
      exact h item.1 a (mapError_eq_ok.1 hBuild)

theorem yields_withDefault (name : String) (h : Node.Yields read view) (default : α) :
    (withDefault name read default).Yields fun look => (look name).elim default view :=
  yields_field name h (by simp)

/-- A field that has to be there is read, so that no value need be thought of for its absence. -/
theorem yields_required (name : String) (h : Node.Yields read view) (default : α) :
    (required name read).Yields fun look => (look name).elim default view :=
  yields_field name h (by simp)

theorem yields_optional {view : Node → Option α} (name : String)
    (h : Node.Yields (Node.asOption read) view) :
    (optional name read).Yields fun look => (look name).bind view := by
  intro slots look a hLook hBuild
  have hValue := yields_withDefault name h none slots look a hLook hBuild
  dsimp only at hValue ⊢
  rw [hValue]
  cases look name <;> rfl

theorem yields_map {fs : Fields α} {view : (String → Option Node) → α} (h : fs.Yields view)
    (f : α → β) : (f <$> fs).Yields fun look => f (view look) := by
  intro slots look b hLook hBuild
  obtain ⟨a, hOwn, rfl⟩ := map_eq_ok.1 hBuild
  rw [h slots look a hLook hOwn]

theorem yields_seq {fs : Fields (α → β)} {gs : Fields α}
    {view : (String → Option Node) → α → β} {view' : (String → Option Node) → α}
    (hFs : fs.Yields view) (hGs : gs.Yields view') :
    (fs <*> gs).Yields fun look => view look (view' look) := by
  intro slots look b hLook hBuild
  obtain ⟨f, hFirst, hRest⟩ := bind_eq_ok.1 hBuild
  obtain ⟨a, hSecond, hEq⟩ := bind_eq_ok.1 hRest
  rw [← Except.ok.inj hEq,
    hFs slots look f (fun name hField => hLook name ((isField_seq name).2 (.inl hField))) hFirst,
    hGs slots look a (fun name hField => hLook name ((isField_seq name).2 (.inr hField))) hSecond]

end Combinators

/-- A member that is not refused has a name and a value. -/
theorem exists_of_scan {fs : Fields α} {seen nodes : List (String × Node)}
    {name : Except Fault String} {value : Except Fault Node} {stop next : Option Place}
    {close : Close} {rest : List (Member Node)}
    (hScan : fs.scan seen (⟨name, stop, close, value, next⟩ :: rest) = .ok nodes) :
    ∃ k node, name = .ok k ∧ value = .ok node := by
  simp only [scan, bind_eq_ok, mapError_eq_ok] at hScan
  obtain ⟨k, hName, hScan⟩ := hScan
  cases hCheck : fs.check k with
  | none =>
    rw [hCheck] at hScan
    obtain ⟨node, hValue, -⟩ := bind_eq_ok.1 hScan
    exact ⟨k, node, hName, hValue⟩
  | some check =>
    rw [hCheck] at hScan
    dsimp only at hScan
    split at hScan
    · contradiction
    · obtain ⟨node, hValue, -⟩ := bind_eq_ok.1 hScan
      exact ⟨k, node, hName, hValue⟩

/-- The members that are kept as fields are those that stand under their names. -/
theorem find?_of_scan {fs : Fields α} {seen nodes : List (String × Node)}
    {members : List (Member Node)} (hScan : fs.scan seen members = .ok nodes) :
    ∃ picked, nodes = seen.reverse ++ picked ∧ ∀ name, fs.IsField name →
      (picked.find? (·.1 == name)).map (·.2) = Node.valueNamed name members := by
  induction members generalizing seen with
  | nil =>
    obtain rfl := Except.ok.inj hScan
    exact ⟨[], by simp, fun _ _ => rfl⟩
  | cons member rest ih =>
    obtain ⟨name, stop, close, value, next⟩ := member
    obtain ⟨k, node, rfl, rfl⟩ := exists_of_scan hScan
    rcases scan_cons.1 hScan with ⟨hNone, -, hScanned⟩ | ⟨check, hCheck, -, -, hScanned⟩
    · obtain ⟨picked, hNodes, hPicked⟩ := ih hScanned
      refine ⟨picked, hNodes, fun name hField => ?_⟩
      have hName : k ≠ name := by
        rintro rfl
        simp [IsField, hNone] at hField
      rw [Node.valueNamed, if_neg hName]
      exact hPicked name hField
    · obtain ⟨picked, hNodes, hPicked⟩ := ih hScanned
      refine ⟨(k, node) :: picked, by simp [hNodes], fun name hField => ?_⟩
      by_cases hName : k = name
      · simp [Node.valueNamed, hName]
      · simpa [Node.valueNamed, hName] using hPicked name hField

theorem yields_decode {fs : Fields α} {view : (String → Option Node) → α} (h : fs.Yields view)
    (record : String) :
    Node.Yields (fs.decode record) fun node => view (node.under fs.names) := by
  intro node a hRead
  cases node with
  | object start depth lead members tail =>
    obtain ⟨_, -, hRest⟩ := bind_eq_ok.1 hRead
    obtain ⟨nodes, hScan, hRest⟩ := bind_eq_ok.1 hRest
    cases tail with
    | broken read skipped => contradiction
    | closed stop =>
      obtain ⟨picked, hNodes, hPicked⟩ := find?_of_scan hScan
      rw [List.reverse_nil, List.nil_append] at hNodes
      subst hNodes
      exact h (.members nodes) _ a hPicked (mapError_eq_ok.1 hRest)
  | array start depth first items tail =>
    obtain ⟨_, -, hRest⟩ := bind_eq_ok.1 hRead
    obtain ⟨b, hBuild, hClose⟩ := bind_eq_ok.1 hRest
    rw [h _ ((Node.array start depth first items tail).under fs.names) b (fun _ _ => rfl)
      (mapError_eq_ok.1 hBuild)] at hClose
    cases hFault : (closeAfter fs.names.length first items).fault with
    | some fault =>
      rw [hFault] at hClose
      contradiction
    | none =>
      rw [hFault] at hClose
      exact (Except.ok.inj hClose).symm
  | _ => simp [decode] at hRead

end Fields
end SessionReplay.Json
