import SessionReplay.Proofs.Json.Equality
import SessionReplay.Proofs.Json.Writing
import SessionReplay.Script.Assembly

/-!
# Steps and recordings in their normal form

Steps and recordings are read leniently and written strictly. What was read is in a normal form: it
is what is read again when it was written.

* `Step.reads_toJson`, `Viewport.reads_toJson`, `Recording.reads_toJson`: what is written of each
  is read again.
* `Recording.decoded_normal`: all steps and all recordings that can be read are in normal form.
-/

namespace SessionReplay

open Json

/-! ## Values that are read leniently -/

namespace Json.Node

theorem reads_asLenientText (s : String) : Reads asLenientText (.string s) (some s) :=
  reads_map (reads_toJson (w := .string s) trivial) lenientText?

theorem itemsOrdered_strings (group : List String) : ItemsOrdered (group.map .string) := by
  induction group with
  | nil => trivial
  | cons s rest ih => exact ⟨trivial, ih⟩

theorem asStrings?_strings (group : List String) :
    asStrings? (.array (group.map .string)) = some group := by
  unfold asStrings?
  induction group with
  | nil => rfl
  | cons s rest ih =>
    simp only [List.map_cons, List.mapM_cons, asString?, Option.bind_eq_bind, Option.bind_some, ih]
    rfl

theorem reads_asSelectorGroup (group : List String) :
    Reads asSelectorGroup (.array (group.map .string)) group := by
  intro node hShown
  have hGroup : selectorGroup? (.array (group.map .string)) = some group :=
    asStrings?_strings group
  refine bind_eq_ok.2 ⟨_, toJson_of_shown hShown (itemsOrdered_strings group), ?_⟩
  rw [hGroup]

theorem reads_asPixels (n : UInt32) : Reads asPixels (.ofWord n.toUInt64) (some n) := by
  have hPixels : pixels? (.ofWord n.toUInt64) = some n := by
    have hSize := n.toNat_lt
    have hMin : min n.toNat 4294967295 = n.toNat := by omega
    simp [pixels?, ofWord, pixels, hMin]
  have hRead := reads_map (reads_toJson (w := .ofWord n.toUInt64) trivial) pixels?
  rwa [hPixels] at hRead

end Json.Node

/-! ## Members that may be left out -/

section Members

variable {α : Type} {name : String} {write : α → Json} {members : List (String × Json)}

theorem member?_member (name other : String) (write : α → Json) (o : Option α) :
    member? name (Step.member other write o) = if other = name then o.map write else none := by
  cases o <;> by_cases hName : other = name <;> simp [Step.member, member?, hName]

theorem member?_listMember (name other : String) (write : α → Json) (as : List α) :
    member? name (Step.listMember other write as) =
      if other = name ∧ as ≠ [] then some (.array (as.map write)) else none := by
  cases as <;> by_cases hName : other = name <;> simp [Step.listMember, member?, hName]

theorem names_member (name : String) (write : α → Json) (o : Option α) :
    ((Step.member name write o).map (·.1)).Sublist [name] := by
  cases o <;> simp [Step.member]

theorem names_listMember (name : String) (write : α → Json) (as : List α) :
    ((Step.listMember name write as).map (·.1)).Sublist [name] := by
  cases as <;> simp [Step.listMember]

theorem writes_member {o : Option α} {read : Node → Except Fault (Option α)}
    (hMember : member? name members = o.map write)
    (hRead : ∀ a, Node.Reads read (write a) (some a)) :
    (Fields.withDefault name read none).Writes members o := by
  refine Fields.writes_field (fun w hThere => ?_) fun hMissing => ?_
  · rw [hMember, Option.map_eq_some_iff] at hThere
    obtain ⟨a, rfl, rfl⟩ := hThere
    exact hRead a
  · rw [hMember, Option.map_eq_none_iff] at hMissing
    rw [hMissing]

theorem writes_listMember {as : List α} {read : Node → Except Fault α}
    (hMember : member? name members = if as ≠ [] then some (.array (as.map write)) else none)
    (hRead : ∀ a, Node.Reads read (write a) a) :
    (Fields.withDefault name (Node.asListOrNull read) []).Writes members as := by
  refine Fields.writes_field (fun w hThere => ?_) fun hMissing => ?_
  · rw [hMember, Option.ite_none_right_eq_some] at hThere
    obtain rfl := Option.some.inj hThere.2
    exact Node.reads_asListOrNull fun a _ => hRead a
  · rw [hMember] at hMissing
    simp_all

end Members

/-! ## Steps -/

theorem StepKind.name_ofName (name : String) : (ofName name).name = name := by
  unfold ofName
  split <;> rfl

theorem ScrollOffset.reads_toJson (o : ScrollOffset) : Node.Reads decode o.toJson o := by
  let members : List (String × Json) := [("x", .number (.real o.x)), ("y", .number (.real o.y))]
  have hX : Fields.Writes (.withDefault "x" Node.asDouble (.zero false)) members o.x :=
    Fields.writes_present (by simp [members, member?]) (Node.reads_asDouble o.x)
  have hY : Fields.Writes (.withDefault "y" Node.asDouble (.zero false)) members o.y :=
    Fields.writes_present (by simp [members, member?]) (Node.reads_asDouble o.y)
  exact Fields.reads_record (.refl _) (by decide) (by decide)
    (Fields.writes_seq (Fields.writes_map hX ScrollOffset.mk) hY) "ScrollPosition"

namespace Step

/-- The members of a step that is written. -/
def written (s : Step) : List (String × Json) :=
  match s.toJson with
  | .object members => members
  | _ => []

theorem toJson_eq (s : Step) : s.toJson = .object s.written := rfl

/-- The names of the members. -/
def names : List String :=
  ["type", "url", "target", "value", "key", "selectors", "scrollPosition", "frame", "assertion",
    "width", "height"]

theorem written_names (s : Step) : (s.written.map (·.1)).Sublist names := by
  simp only [written, toJson, List.map_append]
  exact ((((((((((List.Sublist.refl ["type"]).append (names_member ..)).append
    (names_member ..)).append (names_member ..)).append (names_member ..)).append
    (names_listMember ..)).append (names_member ..)).append (names_listMember ..)).append
    (names_member ..)).append (names_member ..)).append (names_member ..)

theorem member?_written (s : Step) (name : String) :
    member? name s.written =
      ((((((((((((if "type" = name then some (.string s.kind.name) else none).or
        (if "url" = name then s.url.map .string else none)).or
        (if "target" = name then s.target.map .string else none)).or
        (if "value" = name then s.value.map .string else none)).or
        (if "key" = name then s.key.map .string else none)).or
        (if "selectors" = name ∧ s.selectors ≠ [] then
          some (.array (s.selectors.map fun group => .array (group.map .string))) else none)).or
        (if "scrollPosition" = name then s.scroll.map ScrollOffset.toJson else none)).or
        (if "frame" = name ∧ s.frame ≠ [] then some (.array (s.frame.map ofWord)) else none)).or
        (if "assertion" = name then s.assertion.map .string else none)).or
        (if "width" = name then s.width.map (fun w => ofWord w.toUInt64) else none)).or
        (if "height" = name then s.height.map (fun h => ofWord h.toUInt64) else none))) := by
  simp only [written, toJson, member?_append, member?_member, member?_listMember, member?_singleton]

theorem writes_fields {s : Step} (hKind : StepKind.ofName s.kind.name = s.kind) :
    fields.Writes s.written s := by
  have hType : (Fields.required "type" fun node => StepKind.ofName <$> node.asString).Writes
      s.written s.kind := by
    have hRead := Node.reads_map (Node.reads_asString s.kind.name) StepKind.ofName
    rw [hKind] at hRead
    exact Fields.writes_present (by simp [member?_written]) hRead
  have hText (name : String) (o : Option String)
      (hMember : member? name s.written = o.map .string) :
      (Fields.optional name Node.asString).Writes s.written o :=
    writes_member hMember fun text => Node.reads_asOption (Node.reads_asString text) (by simp)
  have hLenient (name : String) (o : Option String)
      (hMember : member? name s.written = o.map .string) :
      (Fields.withDefault name Node.asLenientText none).Writes s.written o :=
    writes_member hMember Node.reads_asLenientText
  have hPixels (name : String) (o : Option UInt32)
      (hMember : member? name s.written = o.map fun n => ofWord n.toUInt64) :
      (Fields.withDefault name Node.asPixels none).Writes s.written o :=
    writes_member hMember Node.reads_asPixels
  have hSelectors : (Fields.withDefault "selectors" (Node.asListOrNull Node.asSelectorGroup)
      []).Writes s.written s.selectors :=
    writes_listMember (by simp [member?_written]) Node.reads_asSelectorGroup
  have hScroll : (Fields.optional "scrollPosition" ScrollOffset.decode).Writes s.written s.scroll :=
    writes_member (by simp [member?_written]) fun o =>
      Node.reads_asOption o.reads_toJson (by simp [ScrollOffset.toJson])
  have hFrame : (Fields.withDefault "frame" (Node.asListOrNull (Node.asWord "usize")) []).Writes
      s.written s.frame :=
    writes_listMember (by simp [member?_written]) (Node.reads_asWord "usize")
  exact Fields.writes_seq (Fields.writes_seq (Fields.writes_seq (Fields.writes_seq
    (Fields.writes_seq (Fields.writes_seq (Fields.writes_seq (Fields.writes_seq (Fields.writes_seq
      (Fields.writes_seq (Fields.writes_map hType Step.mk)
        (hText "url" s.url (by simp [member?_written])))
        (hLenient "target" s.target (by simp [member?_written])))
        (hLenient "value" s.value (by simp [member?_written])))
        (hLenient "key" s.key (by simp [member?_written])))
        hSelectors)
        hScroll)
        hFrame)
        (hText "assertion" s.assertion (by simp [member?_written])))
        (hPixels "width" s.width (by simp [member?_written])))
        (hPixels "height" s.height (by simp [member?_written]))

theorem isSome_check {name : String} (hMem : name ∈ names) : (fields.check name).isSome := by
  simp only [names, List.mem_cons, List.not_mem_nil, or_false] at hMem
  rcases hMem with rfl | rfl | rfl | rfl | rfl | rfl | rfl | rfl | rfl | rfl | rfl <;> rfl

/-- What is written of a step is read again, whatever the order of its members. -/
theorem reads_toJson {s : Step} {w : Json} (hKind : StepKind.ofName s.kind.name = s.kind)
    (hSame : Rearranged s.toJson w) : Node.Reads decode w s := by
  rw [toJson_eq] at hSame
  obtain ⟨hPerm⟩ := hSame
  have hNodup : (s.written.map (·.1)).Nodup := s.written_names.nodup (by decide)
  refine Fields.reads_decode ((hPerm.map _).nodup_iff.1 hNodup) (fun e hMem => ?_)
    ((writes_fields hKind).perm hNodup hPerm) "Step"
  exact isSome_check (s.written_names.subset (List.mem_map_of_mem (hPerm.mem_iff.2 hMem)))

/-- An unknown kind that was read has no name of a known one. -/
theorem kind_of_decode {node : Node} {s : Step} (h : decode node = .ok s) :
    StepKind.ofName s.kind.name = s.kind := by
  have hType : (Fields.required "type" fun node => StepKind.ofName <$> node.asString).Ensures
      fun kind => StepKind.ofName kind.name = kind := by
    intro slots kind hBuild
    obtain ⟨node, hRead⟩ | hNone | hNone := Fields.read_or_absent hBuild
    · obtain ⟨name, -, rfl⟩ := map_eq_ok.1 hRead
      rw [StepKind.name_ofName]
    · contradiction
    · contradiction
  refine Fields.ensures_decode (fun s : Step => StepKind.ofName s.kind.name = s.kind) ?_ h
  -- the kind is what the first of the fields makes of its value, whatever the others hold
  iterate 10 refine Fields.ensures_seq ?_ (Fields.ensures_any _)
  exact Fields.ensures_map fun slots kind hBuild => by simpa using hType slots kind hBuild

end Step

/-! ## Recordings -/

theorem Viewport.reads_toJson (v : Viewport) : Node.Reads decode v.toJson v := by
  let members : List (String × Json) :=
    [("width", .ofWord v.width.toUInt64), ("height", .ofWord v.height.toUInt64)]
  have hDimension (n : UInt32) : Node.Reads asDimension (.ofWord n.toUInt64) n :=
    Node.reads_map (Node.reads_asPixels n) (·.getD 0)
  have hWidth : Fields.Writes (.withDefault "width" asDimension 0) members v.width :=
    Fields.writes_present (by simp [members, member?]) (hDimension v.width)
  have hHeight : Fields.Writes (.withDefault "height" asDimension 0) members v.height :=
    Fields.writes_present (by simp [members, member?]) (hDimension v.height)
  exact Fields.reads_record (.refl _) (by decide) (by decide)
    (Fields.writes_seq (Fields.writes_map hWidth Viewport.mk) hHeight) "Viewport"

namespace Recording

/-- The members of a recording that is written. -/
def written (r : Recording) : List (String × Json) :=
  match r.toJson with
  | .object members => members
  | _ => []

theorem member?_written (r : Recording) (name : String) :
    member? name r.written =
      ((if "title" = name then r.title.map .string else none).or
        (if "viewport" = name then r.viewport.map Viewport.toJson else none)).or
        (if "steps" = name then some (.array r.steps) else none) := by
  simp only [written, toJson, member?_append, member?_member, member?_singleton]

/-- What is written of a recording is read again if its steps are values that were read. -/
theorem reads_toJson {r : Recording} (hSteps : ∀ v ∈ r.steps, v.Ordered) :
    Node.Reads decode r.toJson r := by
  have hNames : (r.written.map (·.1)).Sublist ["title", "viewport", "steps"] := by
    simp only [written, toJson, List.map_append]
    exact ((names_member ..).append (names_member ..)).append (List.Sublist.refl ["steps"])
  have hTitle : (Fields.optional "title" Node.asString).Writes r.written r.title :=
    writes_member (by simp [member?_written]) fun text =>
      Node.reads_asOption (Node.reads_asString text) (by simp)
  have hViewport : (Fields.optional "viewport" Viewport.decode).Writes r.written r.viewport :=
    writes_member (by simp [member?_written]) fun v =>
      Node.reads_asOption v.reads_toJson (by simp [Viewport.toJson])
  have hList : (Fields.withDefault "steps" (Node.asListOrNull Node.toJson) []).Writes r.written
      r.steps := by
    have hRead : Node.Reads (Node.asListOrNull Node.toJson) (.array (r.steps.map id)) r.steps :=
      Node.reads_asListOrNull fun v hMem => Node.reads_toJson (hSteps v hMem)
    rw [List.map_id] at hRead
    exact Fields.writes_present (by simp [member?_written]) hRead
  exact Fields.reads_record hNames (by decide) (by decide)
    (Fields.writes_seq (Fields.writes_seq (Fields.writes_map hTitle Recording.mk) hViewport) hList)
    "Recording"

theorem ordered_of_decode {node : Node} {r : Recording} (h : decode node = .ok r) :
    ∀ v ∈ r.steps, v.Ordered := by
  have hSteps : (Fields.withDefault "steps" (Node.asListOrNull Node.toJson) []).Ensures
      fun steps => ∀ v ∈ steps, v.Ordered := by
    intro slots steps hBuild
    obtain ⟨node, hRead⟩ | hNone | hNone := Fields.read_or_absent hBuild
    · exact Node.forall_of_asListOrNull (fun _ _ => Node.ordered_of_toJson) hRead
    · contradiction
    · obtain rfl := Absence.default.inj hNone
      simp
  refine Fields.ensures_decode (fun r : Recording => ∀ v ∈ r.steps, v.Ordered) ?_ h
  have hOthers := Fields.ensures_any (Fields.optional "viewport" Viewport.decode)
  refine Fields.ensures_seq (Fields.ensures_seq (Fields.ensures_map ?_) hOthers) hSteps
  exact fun _ _ _ _ _ _ hOrdered => hOrdered

/-- A text that is read as a value from its beginning to its end. -/
def Prints (text : String) (v : Json) : Prop :=
  v.isShownBy (Document.ofText text).root = true ∧ (Document.ofText text).trailing = none

/-- What a reader makes of a value, it makes of the text of the value. -/
theorem decodeText_of_prints {α : Type} {read : Node → Except Fault α} {text : String} {v : Json}
    {a : α} (hPrints : Prints text v) (hReads : Node.Reads read v a) :
    decodeText read text = .ok a := by
  obtain ⟨hShown, hTrailing⟩ := hPrints
  simp only [decodeText, Document.decode, hReads _ hShown, hTrailing, bind, Except.bind]

/-- **What was read is in normal form.** A step that was read is read again from what is written of
it, in whatever order its members come to stand, and becomes the same block of a script. A recording
that was read is read again from the text that is written of it, if the text is one of the value
that was written. -/
theorem decoded_normal :
    (∀ v s w, decodeValue Step.decode v = .ok s → Rearranged s.toJson w →
      decodeValue Step.decode w = .ok s ∧
        ∀ index, Script.stepBlock index w = Script.stepBlock index v) ∧
    (∀ text r (print : Json → String), ofText text = .ok r → Prints (print r.toJson) r.toJson →
      ofText (print r.toJson) = .ok r) := by
  constructor
  · intro v s w hDecode hSame
    have hAgain : decodeValue Step.decode w = .ok s :=
      Step.reads_toJson (Step.kind_of_decode hDecode) hSame _ (Node.isShownBy_ofJson w)
    exact ⟨hAgain, fun index => by simp only [Script.stepBlock, hAgain, hDecode]⟩
  · intro text r print hRead hPrints
    obtain ⟨r', hRoot, hTrailing⟩ := bind_eq_ok.1 hRead
    split at hTrailing
    · contradiction
    · obtain rfl := Except.ok.inj hTrailing
      exact decodeText_of_prints hPrints (reads_toJson (ordered_of_decode hRoot))

deriving instance DecidableEq for Recording

/-- A fractional width, a number for a target and a step of an unknown kind. -/
theorem decoded_normal_lenient :
    let text := "\x7b\"viewport\":\x7b\"width\":1279.6,\"height\":null\x7d,\"steps\":[" ++
      "\x7b\"type\":\"click\",\"target\":5,\"selectors\":[\"#a\"]\x7d," ++
      "\x7b\"type\":\"leap\"\x7d]\x7d"
    let click : Json := .object [("selectors", .array [.string "#a"]),
      ("target", .number (.natural 5)), ("type", .string "click")]
    let r : Recording := ⟨none, some ⟨1280, 0⟩, [click, .object [("type", .string "leap")]]⟩
    let s : Step := { kind := .click, target := some "5", selectors := [["#a"]] }
    decodeValue Step.decode click = .ok s ∧ decodeValue Step.decode s.toJson = .ok s ∧
      ofText text = .ok r ∧ Prints r.toJson.compact r.toJson ∧ ofText r.toJson.compact = .ok r := by
  intro text click r s
  have hStep : decodeValue Step.decode click = .ok s := by decide +kernel
  have hRead : ofText text = .ok r := by decide +kernel
  have hPrints : Prints r.toJson.compact r.toJson := ⟨by decide +kernel, by decide +kernel⟩
  exact ⟨hStep, (decoded_normal.1 click s s.toJson hStep (.intro (.refl _))).1, hRead, hPrints,
    decoded_normal.2 text r Json.compact hRead hPrints⟩

end Recording
end SessionReplay
