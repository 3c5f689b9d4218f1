import SessionReplay.Proofs.Json.Deciding
import SessionReplay.Proofs.Recording.Normal

/-!
# Which values are steps

A step is read from an object if some of its members are of the right kind. What is read leniently
is never in the way, and what is not a member of a step does not count at all.

* `Step.Made`: the step that is made of what stands under its names.
* `Step.Accepts`: of what something is made at all.
* `Step.decode_accepts`: objects are decoded exactly if they are accepted.
-/

namespace SessionReplay

open Json

/-! ## Lenient values -/

namespace Json

/-- A text is taken as it is, and any other value as its compact text. -/
inductive LenientText : Option Json → Option String → Prop
  | absent : LenientText none none
  | null : LenientText (some .null) none
  | text (s : String) : LenientText (some (.string s)) (some s)
  | other {w : Json} (hNull : w ≠ .null) (hText : ∀ s, w ≠ .string s) :
    LenientText (some w) (some w.compact)

/-- A group of selectors, or one selector that is a group of its own. -/
inductive SelectorGroup : Json → List String → Prop
  | alone (s : String) : SelectorGroup (.string s) [s]
  | group (texts : List String) : SelectorGroup (.array (texts.map .string)) texts

def IsText (w : Json) : Prop := ∃ s, w = .string s

def IsNumber (w : Json) : Prop := ∃ n, w = .number n

/-- A natural number of 64 bits; what is written with a fraction or an exponent is none. -/
def IsWord (w : Json) : Prop := ∃ n, w = .ofWord n

theorem lenientText_iff {l : Option Json} {o : Option String} :
    Stands (fun w o => lenientText? w = o) (.default none) l o ↔ LenientText l o := by
  constructor
  · intro hStands
    cases hStands with
    | absent hNone =>
      obtain rfl := Absence.default.inj hNone
      exact .absent
    | @there w _ hText =>
      subst hText
      cases w with
      | null => exact .null
      | string s => exact .text s
      | _ => exact .other (by simp) (by simp)
  · intro hText
    cases hText with
    | absent => exact .absent rfl
    | null => exact .there rfl
    | text s => exact .there rfl
    | @other w hNull hText =>
      refine .there ?_
      cases w with
      | null => contradiction
      | string s => exact absurd rfl (hText s)
      | _ => rfl

theorem asStrings?_eq_some {w : Json} {texts : List String} :
    asStrings? w = some texts ↔ w = .array (texts.map .string) := by
  constructor
  · intro h
    cases w with
    | array items =>
      congr 1
      change items.mapM asString? = some texts at h
      induction items generalizing texts with
      | nil =>
        obtain rfl := Option.some.inj h
        rfl
      | cons item rest ih =>
        rw [List.mapM_cons] at h
        obtain ⟨s, hFirst, hRest⟩ := Option.bind_eq_some_iff.1 h
        obtain ⟨others, hOthers, hEq⟩ := Option.bind_eq_some_iff.1 hRest
        obtain rfl := Option.some.inj hEq
        cases item with
        | string own =>
          obtain rfl := Option.some.inj hFirst
          rw [List.map_cons, ih hOthers]
        | _ => contradiction
    | _ => contradiction
  · rintro rfl
    exact Node.asStrings?_strings texts

theorem selectorGroup_iff {w : Json} {group : List String} :
    selectorGroup? w = some group ↔ SelectorGroup w group := by
  constructor
  · intro h
    cases w with
    | string s =>
      obtain rfl := Option.some.inj h
      exact .alone s
    | array items =>
      rw [show selectorGroup? (.array items) = asStrings? (.array items) from rfl,
        asStrings?_eq_some] at h
      rw [h]
      exact .group group
    | _ => contradiction
  · intro h
    cases h with
    | alone s => rfl
    | group => exact asStrings?_eq_some.2 rfl

theorem exists_selectorGroup {w : Json} :
    (∃ group, SelectorGroup w group) ↔ IsText w ∨ IsListOf IsText w := by
  constructor
  · rintro ⟨group, hGroup⟩
    cases hGroup with
    | alone s => exact .inl ⟨s, rfl⟩
    | group => exact .inr ⟨_, rfl, by simp [IsText]⟩
  · rintro (⟨s, rfl⟩ | ⟨ws, rfl, hTexts⟩)
    · exact ⟨[s], .alone s⟩
    · obtain ⟨texts, hAll⟩ := exists_forall₂.2 hTexts
      have hSame : List.Forall₂ Eq ws (texts.map .string) := List.forall₂_map_right_iff.2 hAll
      rw [List.forall₂_eq_eq_eq] at hSame
      exact ⟨texts, hSame ▸ .group texts⟩

namespace Node

theorem decodes_asLenientText : Decodes asLenientText fun w o => lenientText? w = o :=
  (decodes_map decodes_toJson lenientText?).congr fun _ _ => by simp

theorem decodes_asPixels : Decodes asPixels fun w o => pixels? w = o :=
  (decodes_map decodes_toJson pixels?).congr fun _ _ => by simp

theorem decodes_asSelectorGroup : Decodes asSelectorGroup SelectorGroup := by
  intro node w group hBears
  rw [← selectorGroup_iff]
  simp only [asSelectorGroup, toJson_of_bears hBears, bind, Except.bind]
  cases selectorGroup? w <;> simp

end Node

end Json

/-! ## Offsets -/

namespace ScrollOffset

/-- A coordinate is a number, or zero where it is not there. -/
abbrev Coordinate : Option Json → Double → Prop :=
  Stands (fun w x => ∃ n, w = .number n ∧ n.toDouble = x) (.default (.zero false))

theorem exists_coordinate {l : Option Json} :
    (∃ x, Coordinate l x) ↔ ∀ w ∈ l, IsNumber w := by
  constructor
  · rintro ⟨x, hStands⟩ w hMem
    cases hStands with
    | absent => contradiction
    | there hNumber =>
      obtain rfl := Option.some.inj hMem
      obtain ⟨n, rfl, -⟩ := hNumber
      exact ⟨n, rfl⟩
  · intro hNumber
    cases l with
    | none => exact ⟨_, .absent rfl⟩
    | some w =>
      obtain ⟨n, rfl⟩ := hNumber w rfl
      exact ⟨n.toDouble, .there ⟨n, rfl, rfl⟩⟩

/-- The offset that is made of what stands under its names. -/
structure Made (look : String → Option Json) (o : ScrollOffset) : Prop where
  x : Coordinate (look "x") o.x
  y : Coordinate (look "y") o.y

theorem decodes_decode : Node.Decodes decode (Fields.Record ["x", "y"] Made) := by
  have hCoordinate (name : String) :=
    Fields.decodes_withDefault name Node.decodes_asDouble (.zero false)
  refine Fields.decodes_decode (Fields.Decodes.congr (Fields.decodes_seq
    (Fields.decodes_map (hCoordinate "x") ScrollOffset.mk) (hCoordinate "y")) fun look o => ?_)
    "ScrollPosition"
  constructor
  · rintro ⟨_, y, ⟨x, hX, rfl⟩, hY, rfl⟩
    exact ⟨hX, hY⟩
  · intro h
    exact ⟨_, _, ⟨_, h.x, rfl⟩, h.y, rfl⟩

theorem exists_made {look : String → Option Json} :
    (∃ o, Made look o) ↔ (∀ w ∈ look "x", IsNumber w) ∧ ∀ w ∈ look "y", IsNumber w := by
  rw [← exists_coordinate, ← exists_coordinate]
  constructor
  · rintro ⟨o, hX, hY⟩
    exact ⟨⟨o.x, hX⟩, ⟨o.y, hY⟩⟩
  · rintro ⟨⟨x, hX⟩, ⟨y, hY⟩⟩
    exact ⟨⟨x, y⟩, hX, hY⟩

/-- An object whose coordinates are numbers where they are there, or a list of at most two
numbers. -/
inductive Accepts : Json → Prop
  | object {ws : List (String × Json)} (hX : ∀ w ∈ member? "x" ws, IsNumber w)
    (hY : ∀ w ∈ member? "y" ws, IsNumber w) : Accepts (.object ws)
  | array {ws : List Json} (hLength : ws.length ≤ 2) (hNumbers : ∀ w ∈ ws, IsNumber w) :
    Accepts (.array ws)

theorem exists_record {w : Json} :
    (∃ o, Fields.Record ["x", "y"] Made w o) ↔ Accepts w := by
  constructor
  · rintro ⟨o, hRecord⟩
    cases hRecord with
    | object hMade =>
      obtain ⟨hX, hY⟩ := exists_made.1 ⟨o, hMade⟩
      exact .object hX hY
    | @array ws _ hLength hMade =>
      obtain ⟨hX, hY⟩ := exists_made.1 ⟨o, hMade⟩
      refine .array hLength fun w hMem => ?_
      obtain ⟨i, hAt⟩ := List.mem_iff_getElem?.1 hMem
      have hIndex : i < ws.length := (List.getElem?_eq_some_iff.1 hAt).1
      obtain rfl | rfl : i = 0 ∨ i = 1 := by
        change ws.length ≤ 2 at hLength
        omega
      · exact hX w hAt
      · exact hY w hAt
  · intro hAccepts
    cases hAccepts with
    | @object ws hX hY =>
      obtain ⟨o, hMade⟩ : ∃ o, Made (fun name => member? name ws) o := exists_made.2 ⟨hX, hY⟩
      exact ⟨o, .object hMade⟩
    | @array ws hLength hNumbers =>
      have hLook (i : Nat) : ∀ w ∈ ws[i]?, IsNumber w := fun w hAt =>
        hNumbers w (List.mem_of_getElem? hAt)
      obtain ⟨o, hMade⟩ : ∃ o, Made (fun name => ws[["x", "y"].idxOf name]?) o :=
        exists_made.2 ⟨hLook _, hLook _⟩
      exact ⟨o, .array hLength hMade⟩

end ScrollOffset

/-! ## Steps -/

namespace Step

/-- The step that is made of what stands under its names. -/
structure Made (look : String → Option Json) (s : Step) : Prop where
  kind : Stands (fun w kind => ∃ name, w = .string name ∧ .ofName name = kind) .fault
    (look "type") s.kind
  url : Stands (NullOr fun w text => w = .string text) (.default none) (look "url") s.url
  target : LenientText (look "target") s.target
  value : LenientText (look "value") s.value
  key : LenientText (look "key") s.key
  selectors : Stands (NullOrList SelectorGroup) (.default []) (look "selectors") s.selectors
  scroll : Stands (NullOr (Fields.Record ["x", "y"] ScrollOffset.Made)) (.default none)
    (look "scrollPosition") s.scroll
  frame : Stands (NullOrList fun w n => w = .ofWord n) (.default []) (look "frame") s.frame
  assertion : Stands (NullOr fun w text => w = .string text) (.default none) (look "assertion")
    s.assertion
  width : Stands (fun w o => pixels? w = o) (.default none) (look "width") s.width
  height : Stands (fun w o => pixels? w = o) (.default none) (look "height") s.height

theorem decodes_fields : fields.Decodes Made := by
  have hKind := Fields.decodes_required "type"
    (Node.decodes_map Node.decodes_asString StepKind.ofName)
  have hText (name : String) := Fields.decodes_optional name Node.decodes_asString
  have hLenient (name : String) := Fields.decodes_withDefault name Node.decodes_asLenientText none
  have hSelectors := Fields.decodes_withDefault "selectors"
    (Node.decodes_asListOrNull Node.decodes_asSelectorGroup) []
  have hScroll := Fields.decodes_optional "scrollPosition" ScrollOffset.decodes_decode
  have hFrame := Fields.decodes_withDefault "frame"
    (Node.decodes_asListOrNull (Node.decodes_asWord "usize")) []
  have hPixels (name : String) := Fields.decodes_withDefault name Node.decodes_asPixels none
  refine (Fields.decodes_seq (Fields.decodes_seq (Fields.decodes_seq (Fields.decodes_seq
    (Fields.decodes_seq (Fields.decodes_seq (Fields.decodes_seq (Fields.decodes_seq
      (Fields.decodes_seq (Fields.decodes_seq (Fields.decodes_map hKind Step.mk)
        (hText "url"))
        (hLenient "target"))
        (hLenient "value"))
        (hLenient "key"))
        hSelectors)
        hScroll)
        hFrame)
        (hText "assertion"))
        (hPixels "width"))
        (hPixels "height")).congr fun look s => ?_
  simp only [lenientText_iff]
  constructor
  · rintro ⟨_, height, ⟨_, width, ⟨_, assertion, ⟨_, frame, ⟨_, scroll, ⟨_, selectors, ⟨_, key,
      ⟨_, value, ⟨_, target, ⟨_, url, ⟨kind, hKind, rfl⟩, hUrl, rfl⟩, hTarget, rfl⟩, hValue, rfl⟩,
      hKey, rfl⟩, hSelectors, rfl⟩, hScroll, rfl⟩, hFrame, rfl⟩, hAssertion, rfl⟩, hWidth, rfl⟩,
      hHeight, rfl⟩
    exact ⟨hKind, hUrl, hTarget, hValue, hKey, hSelectors, hScroll, hFrame, hAssertion, hWidth,
      hHeight⟩
  · intro h
    exact ⟨_, _, ⟨_, _, ⟨_, _, ⟨_, _, ⟨_, _, ⟨_, _, ⟨_, _, ⟨_, _, ⟨_, _, ⟨_, _, ⟨_, h.kind, rfl⟩,
      h.url, rfl⟩, h.target, rfl⟩, h.value, rfl⟩, h.key, rfl⟩, h.selectors, rfl⟩, h.scroll, rfl⟩,
      h.frame, rfl⟩, h.assertion, rfl⟩, h.width, rfl⟩, h.height, rfl⟩

theorem decodes_decode : Node.Decodes decode (Fields.Record names Made) :=
  Fields.decodes_decode decodes_fields "Step"

/-- What stands under the names is of the right kinds. Nothing is asked of the texts that are read
leniently, and of the sizes. -/
@[mk_iff]
structure Accepts (look : String → Option Json) : Prop where
  type : ∃ name, look "type" = some (.string name)
  url : BlankOr IsText (look "url")
  assertion : BlankOr IsText (look "assertion")
  selectors : BlankOr (IsListOf fun w => IsText w ∨ IsListOf IsText w) (look "selectors")
  scroll : BlankOr ScrollOffset.Accepts (look "scrollPosition")
  frame : BlankOr (IsListOf IsWord) (look "frame")

theorem exists_kind {l : Option Json} :
    (∃ kind, Stands (fun w kind => ∃ name, w = .string name ∧ StepKind.ofName name = kind) .fault
      l kind) ↔ ∃ name, l = some (.string name) := by
  constructor
  · rintro ⟨kind, hStands⟩
    cases hStands with
    | absent hAbsent => cases hAbsent
    | there hText =>
      obtain ⟨name, rfl, -⟩ := hText
      exact ⟨name, rfl⟩
  · rintro ⟨name, rfl⟩
    exact ⟨.ofName name, .there ⟨name, rfl, rfl⟩⟩

theorem exists_lenientText (l : Option Json) : ∃ o, LenientText l o := by
  obtain ⟨o, hStands⟩ := exists_stands_default none (fun w => ⟨lenientText? w, rfl⟩) l
  exact ⟨o, lenientText_iff.1 hStands⟩

/-- Something is made of what is accepted, and of nothing else. -/
theorem exists_made {look : String → Option Json} : (∃ s, Made look s) ↔ Accepts look := by
  constructor
  · rintro ⟨s, h⟩
    have hSelectors := exists_stands_list.1 ⟨_, h.selectors⟩
    have hScroll := (exists_stands_optional.1 ⟨_, h.scroll⟩).mono fun _ =>
      ScrollOffset.exists_record.1
    simp only [exists_selectorGroup] at hSelectors
    exact ⟨exists_kind.1 ⟨_, h.kind⟩, exists_stands_optional.1 ⟨_, h.url⟩,
      exists_stands_optional.1 ⟨_, h.assertion⟩, hSelectors, hScroll,
      exists_stands_list.1 ⟨_, h.frame⟩⟩
  · intro h
    have hSelectors := h.selectors
    have hScroll := h.scroll.mono fun _ => ScrollOffset.exists_record.2
    simp only [← exists_selectorGroup] at hSelectors
    obtain ⟨kind, hKind⟩ := exists_kind.2 h.type
    obtain ⟨url, hUrl⟩ := exists_stands_optional.2 h.url
    obtain ⟨target, hTarget⟩ := exists_lenientText (look "target")
    obtain ⟨value, hValue⟩ := exists_lenientText (look "value")
    obtain ⟨key, hKey⟩ := exists_lenientText (look "key")
    obtain ⟨selectors, hSelectors⟩ := exists_stands_list.2 hSelectors
    obtain ⟨scroll, hScroll⟩ := exists_stands_optional.2 hScroll
    obtain ⟨frame, hFrame⟩ := exists_stands_list.2 h.frame
    obtain ⟨assertion, hAssertion⟩ := exists_stands_optional.2 h.assertion
    obtain ⟨width, hWidth⟩ :=
      exists_stands_default none (fun w => ⟨pixels? w, rfl⟩) (look "width")
    obtain ⟨height, hHeight⟩ :=
      exists_stands_default none (fun w => ⟨pixels? w, rfl⟩) (look "height")
    exact ⟨⟨kind, url, target, value, key, selectors, scroll, frame, assertion, width, height⟩,
      hKind, hUrl, hTarget, hValue, hKey, hSelectors, hScroll, hFrame, hAssertion, hWidth, hHeight⟩

/-- The names whose values decide whether there is a step. -/
def strictNames : List String :=
  ["type", "url", "assertion", "selectors", "scrollPosition", "frame"]

theorem Accepts.congr {look look' : String → Option Json}
    (hSame : ∀ name ∈ strictNames, look name = look' name) : Accepts look ↔ Accepts look' := by
  simp only [strictNames, List.forall_mem_cons] at hSame
  obtain ⟨hType, hUrl, hAssertion, hSelectors, hScroll, hFrame, -⟩ := hSame
  rw [accepts_iff, accepts_iff, hType, hUrl, hAssertion, hSelectors, hScroll, hFrame]

section Objects

variable {members : List (String × Json)} {s : Step}

theorem decodeValue_eq_ok (hOrdered : MembersOrdered members) :
    decodeValue decode (.object members) = .ok s ↔ Made (fun name => member? name members) s := by
  have hOwn : (Json.object members).Ordered := hOrdered
  rw [decodeValue_iff decodes_decode hOwn]
  constructor
  · intro hRecord
    cases hRecord with
    | object hMade => exact hMade
  · exact .object

theorem exists_decodeValue (hOrdered : MembersOrdered members) :
    (∃ s, decodeValue decode (.object members) = .ok s) ↔
      Accepts fun name => member? name members := by
  simp only [decodeValue_eq_ok hOrdered, exists_made]

end Objects

/-- **Exactly the objects of the right kind are steps.** An object is decoded if and only if its
kind is a text, the address and the assertion are blank or texts, the selectors blank or a list of
texts and of lists of texts, the offset blank, an object whose coordinates are numbers where they
are there or a list of at most two numbers, and the frame blank or a list of natural numbers of 64
bits. Then the target, the value and the key are read leniently and the groups of selectors are
those of the list in order. Members under other names are ignored. No value of the target, the
value, the key, the width and the height makes any difference to whether the object is decoded. -/
theorem decode_accepts {members : List (String × Json)} (hOrdered : MembersOrdered members) :
    ((∃ s, decodeValue decode (.object members) = .ok s) ↔
      Accepts fun name => member? name members) ∧
    (∀ s, decodeValue decode (.object members) = .ok s →
      LenientText (member? "target" members) s.target ∧
      LenientText (member? "value" members) s.value ∧
      LenientText (member? "key" members) s.key ∧
      Stands (NullOrList SelectorGroup) (.default []) (member? "selectors" members) s.selectors) ∧
    decodeValue decode (.object (members.filter fun e => e.1 ∈ names)) =
      decodeValue decode (.object members) ∧
    ∀ name ∈ ["target", "value", "key", "width", "height"], ∀ w : Json, w.Ordered →
      ((∃ s, decodeValue decode (.object (insert name w members)) = .ok s) ↔
        ∃ s, decodeValue decode (.object members) = .ok s) := by
  have hOthers := Fields.decodeValue_filter decodes_fields "Step" members
  refine ⟨exists_decodeValue hOrdered, ?_, hOthers, ?_⟩
  · intro s hRead
    have hMade := (decodeValue_eq_ok hOrdered).1 hRead
    exact ⟨hMade.target, hMade.value, hMade.key, hMade.selectors⟩
  · intro name hName w hValue
    have hApart : ∀ name ∈ ["target", "value", "key", "width", "height"], name ∉ strictNames := by
      simp [strictNames]
    rw [exists_decodeValue hOrdered, exists_decodeValue (membersOrdered_insert hOrdered hValue)]
    refine Accepts.congr fun other hOther => member?_insert_of_ne ?_
    rintro rfl
    exact hApart other hName hOther

/-- A step with a single selector and a pair of them, and with a number for a text. -/
theorem decode_accepts_change :
    let members : List (String × Json) :=
      [("selectors", .array [.string "#a", .array [.string "b", .string "c"]]),
        ("type", .string "change"), ("value", .number (.natural 5))]
    ∃ s, decodeValue decode (.object members) = .ok s ∧ s.value = some "5" := by
  intro members
  have hOrdered : MembersOrdered members := by
    simp only [members, MembersOrdered, Ordered, ItemsOrdered]
    decide
  have hLook : Accepts fun name => member? name members := by
    refine ⟨⟨"change", rfl⟩, .absent, .absent, .there ⟨_, rfl, ?_⟩, .absent, .absent⟩
    simp [IsText, IsListOf]
  obtain ⟨hAccepts, hMade, -⟩ := decode_accepts hOrdered
  obtain ⟨s, hRead⟩ := hAccepts.2 hLook
  have hValue : LenientText (some (.number (.natural 5))) s.value := (hMade s hRead).2.1
  refine ⟨s, hRead, ?_⟩
  generalize s.value = value at hValue ⊢
  cases hValue
  decide

end Step

end SessionReplay
