import SessionReplay.Proofs.Json.Reading
import SessionReplay.Proofs.Text.Lines

/-!
# Faults stand on one line

Whatever a text holds, no fault that is noted in its document has a line feed in its message. What
a message takes over from a document it quotes, and all else in it is fixed.

* `Cause.repeats`: the texts that a message takes over as they are.
* `Fault.OneLine`: none of them goes on to a new line; `Tells`: so it is if a reading fails.
* `Node.OneLine`: so it is with every fault in a document.
* `Document.oneLine`: so it is with every document that was read from a text.
-/

namespace SessionReplay

namespace Json

open Text Node

/-! ## Faults -/

theorem isLine_found (found : Found) : IsLine found.message := by
  cases found with
  | null | sequence | map => decide
  | bool b => cases b <;> decide
  | string s => exact isLine_append.2 ⟨by decide, isLine_quoted s⟩
  | number n =>
    have hTick : IsLine "`" := by decide
    have hReal : IsLine "floating point `" := by decide
    have hInteger : IsLine "integer `" := by decide
    have hText := isLine_number n
    cases n with
    | real x => exact isLine_append.2 ⟨isLine_append.2 ⟨hReal, hText⟩, hTick⟩
    | natural n | negative n =>
      exact isLine_append.2 ⟨isLine_append.2 ⟨hInteger, hText⟩, hTick⟩

/-- The texts that the message of a cause takes over as they are. -/
def Cause.takenOver : Cause → List String
  | grammar _ => []
  | invalidType _ wanted | invalidValue _ wanted | invalidLength _ wanted => [wanted]
  | unknownVariant name known => name :: known
  | missingField name | duplicateField name => [name]
  | refused reason => [reason]

theorem repeats_names (known : List String) :
    Repeats (String.intercalate ", " (known.map fun a => "`" ++ a ++ "`")) known := by
  have hTick : IsLine "`" := by decide
  have hComma : IsLine ", " := by decide
  induction known with
  | nil => rfl
  | cons a known ih =>
    have hName : Repeats ("`" ++ a ++ "`") [a] :=
      ((Repeats.of_isLine hTick).append (.self a)).append (.of_isLine hTick)
    cases known with
    | nil => simpa using hName
    | cons b known =>
      rw [List.map_cons, List.map_cons, String.intercalate_cons_cons]
      exact (hName.append (.of_isLine hComma)).append ih

theorem repeats_listKnown (known : List String) : Repeats (listKnown known) known := by
  have hTick : IsLine "`" := by decide
  have hName (a : String) : Repeats ("`" ++ a ++ "`") [a] :=
    ((Repeats.of_isLine hTick).append (.self a)).append (.of_isLine hTick)
  unfold listKnown
  split
  · exact .of_isLine (by decide)
  · exact hName _
  · next a b =>
    have hOr : IsLine "` or `" := by decide
    exact ((((Repeats.of_isLine hTick).append (.self a)).append (.of_isLine hOr)).append
      (.self b)).append (.of_isLine hTick)
  · exact (Repeats.of_isLine (by decide)).append (repeats_names known)

/-- The message of a cause goes on to a new line as often as the texts that it takes over. -/
theorem Cause.repeats (cause : Cause) : Repeats cause.message cause.takenOver := by
  have hExpected : Repeats ", expected " [] := .of_isLine (by decide)
  have hTick : Repeats "`" [] := .of_isLine (by decide)
  cases cause with
  | grammar g => exact .of_isLine (by cases g <;> decide +kernel)
  | invalidType found wanted =>
    have hType : Repeats "invalid type: " [] := .of_isLine (by decide)
    exact ((hType.append (.of_isLine (isLine_found found))).append hExpected).append (.self wanted)
  | invalidValue found wanted =>
    have hValue : Repeats "invalid value: " [] := .of_isLine (by decide)
    exact ((hValue.append (.of_isLine (isLine_found found))).append hExpected).append (.self wanted)
  | invalidLength length wanted =>
    have hLength : Repeats "invalid length " [] := .of_isLine (by decide)
    exact ((hLength.append (.of_isLine (isLine_nat length))).append hExpected).append (.self wanted)
  | unknownVariant name known =>
    have hVariant : Repeats "unknown variant `" [] := .of_isLine (by decide)
    have hKnown : Repeats "`, expected " [] := .of_isLine (by decide)
    exact ((hVariant.append (.self name)).append hKnown).append (repeats_listKnown known)
  | missingField name =>
    have hField : Repeats "missing field `" [] := .of_isLine (by decide)
    exact (hField.append (.self name)).append hTick
  | duplicateField name =>
    have hField : Repeats "duplicate field `" [] := .of_isLine (by decide)
    exact (hField.append (.self name)).append hTick
  | refused reason => exact .self reason

/-- A fault whose message stands on one line. -/
def Fault.OneLine (f : Fault) : Prop := ∀ text ∈ f.cause.takenOver, IsLine text

theorem Fault.OneLine.message {f : Fault} (h : f.OneLine) : IsLine f.message := by
  have hCause := f.cause.repeats.isLine_iff.2 h
  unfold Fault.message
  split
  · exact hCause
  · next p _ =>
    have hLine : IsLine " at line " := by decide
    have hColumn : IsLine " column " := by decide
    simp only [isLine_append]
    exact ⟨hCause, ⟨⟨hLine, isLine_nat p.line⟩, hColumn⟩, isLine_nat p.column⟩

theorem oneLine_grammar (g : Grammar) (place : Option Place) :
    (Fault.grammar g place).OneLine := nofun

theorem oneLine_invalidType (found : Found) {wanted : String} (h : IsLine wanted)
    (place : Option Place) : Fault.OneLine ⟨.invalidType found wanted, place, []⟩ :=
  List.forall_mem_singleton.2 h

theorem oneLine_invalidValue (found : Found) {wanted : String} (h : IsLine wanted)
    (place : Option Place) : Fault.OneLine ⟨.invalidValue found wanted, place, []⟩ :=
  List.forall_mem_singleton.2 h

/-! ## Readings that fail -/

/-- If a reading fails, its fault is told on one line. -/
def Tells {α : Type} (result : Except Fault α) : Prop := ∀ f, result = .error f → f.OneLine

section Results

variable {α β : Type} {result : Except Fault α}

theorem tells_ok (a : α) : Tells (.ok a : Except Fault α) := fun _ h => nomatch h

theorem tells_error {f : Fault} (h : f.OneLine) : Tells (.error f : Except Fault α) := by
  rintro _ ⟨⟩
  exact h

theorem tells_grammar (g : Grammar) (place : Option Place) :
    Tells (.error (.grammar g place) : Except Fault α) :=
  tells_error (oneLine_grammar g place)

theorem Tells.bind (h : Tells result) {next : α → Except Fault β}
    (hNext : ∀ a, result = .ok a → Tells (next a)) : Tells (result >>= next) := by
  cases result with
  | error f => exact tells_error (h f rfl)
  | ok a => exact hNext a rfl

theorem Tells.map (h : Tells result) (g : α → β) : Tells (g <$> result) := by
  cases result with
  | error f => exact tells_error (h f rfl)
  | ok a => exact tells_ok (g a)

/-- A fault keeps its cause on its way out of a document. -/
theorem Tells.mapError (h : Tells result) {change : Fault → Fault}
    (hCause : ∀ f, (change f).cause = f.cause) : Tells (result.mapError change) := by
  cases result with
  | ok a => exact tells_ok a
  | error f =>
    refine tells_error ?_
    rw [Fault.OneLine, hCause]
    exact h f rfl

theorem Tells.within (h : Tells result) (segment : Segment) :
    Tells (result.mapError (·.within segment)) :=
  h.mapError fun _ => rfl

theorem Tells.placedAt (h : Tells result) (place : Option Place) :
    Tells (result.mapError (·.placedAt place)) :=
  h.mapError fun _ => rfl

theorem Tells.ofItem (h : Tells result) (place : Option Place) (index : Nat) :
    Tells (result.mapError fun f => (f.placedAt place).within (.item index)) :=
  h.mapError fun _ => rfl

end Results

/-! ## Documents -/

def Close.OneLine (close : Close) : Prop := ∀ f, close.fault = some f → f.OneLine

theorem Close.oneLine_of_none {close : Close} (h : close.fault = none) : close.OneLine := by
  simp [OneLine, h]

def Tail.OneLine : Tail → Prop
  | .closed _ => True
  | .broken read skipped => read.OneLine ∧ skipped.OneLine

namespace Node

mutual

/-- Every fault in a document is told on one line. -/
def OneLine : Node → Prop
  | .broken _ read skipped => read.OneLine ∧ skipped.OneLine
  | .number value _ _ => Tells value
  | .string value _ _ => Tells value
  | .array _ _ first items tail => first.OneLine ∧ ItemsOneLine items ∧ tail.OneLine
  | .object _ _ lead members tail =>
    (∀ f, lead = some f → f.OneLine) ∧ MembersOneLine members ∧ tail.OneLine
  | .missing .. | .null .. | .bool .. => True

def ItemsOneLine : List (Node × Close) → Prop
  | [] => True
  | (node, close) :: rest => OneLine node ∧ close.OneLine ∧ ItemsOneLine rest

def MembersOneLine : List (Member Node) → Prop
  | [] => True
  | ⟨name, _, _, .error f, _⟩ :: rest => Tells name ∧ f.OneLine ∧ MembersOneLine rest
  | ⟨name, _, _, .ok node, _⟩ :: rest => Tells name ∧ OneLine node ∧ MembersOneLine rest

end

theorem oneLine_kindFault {node : Node} (h : node.OneLine) {wanted : String}
    (hWanted : IsLine wanted) : (node.kindFault wanted).OneLine := by
  unfold kindFault
  split
  · exact oneLine_grammar _ _
  · exact h.1
  · exact oneLine_invalidType _ hWanted _
  · exact oneLine_invalidType _ hWanted _
  · exact oneLine_invalidType _ hWanted _
  · exact h _ rfl
  · exact oneLine_invalidType _ hWanted _
  · exact h _ rfl
  · exact oneLine_invalidType _ hWanted _
  · exact oneLine_invalidType _ hWanted _

end Node

/-! ## Words -/

theorem tells_readName (more : List Char) (c : Cursor) : Tells (readName more c) := by
  induction more generalizing c with
  | nil => exact tells_ok c
  | cons x more ih =>
    unfold readName
    split
    · exact tells_grammar _ _
    · split
      · exact ih _
      · exact tells_grammar _ _

theorem tells_wholeDigits (atEnd : Grammar) (c : Cursor) : Tells (wholeDigits atEnd c) := by
  unfold wholeDigits
  split
  · exact tells_grammar _ _
  · split
    · split
      · exact tells_grammar _ _
      · exact tells_ok _
    · exact tells_ok _
  · split
    · exact tells_ok _
    · exact tells_grammar _ _

theorem tells_fractionDigits (atEnd : Grammar) (c : Cursor) : Tells (fractionDigits atEnd c) := by
  unfold fractionDigits
  split
  · dsimp only
    split
    · exact tells_grammar _ _
    · exact tells_ok _
  · exact tells_ok _

theorem tells_exponentDigits (atEnd : Grammar) (c : Cursor) : Tells (exponentDigits atEnd c) := by
  unfold exponentDigits
  split
  · split
    · dsimp only
      split
      · exact tells_grammar _ _
      · split
        · exact tells_ok _
        · exact tells_grammar _ _
    · exact tells_ok _
  · exact tells_ok _

theorem tells_readNumber (negative : Bool) (c : Cursor) : Tells (readNumber negative c) := by
  refine (tells_wholeDigits _ _).bind fun whole _ => ?_
  refine (tells_fractionDigits _ _).bind fun fraction _ => ?_
  refine (tells_exponentDigits _ _).bind fun exponent _ => ?_
  dsimp only
  split
  · split
    · exact tells_ok _
    · exact tells_grammar _ _
  · split
    · split
      · exact tells_ok _
      · exact tells_grammar _ _
    · split
      · exact tells_ok _
      · exact tells_grammar _ _

theorem tells_skipNumber (c : Cursor) : Tells (skipNumber c) :=
  (tells_wholeDigits _ _).bind fun _ _ =>
    (tells_fractionDigits _ _).bind fun _ _ => (tells_exponentDigits _ _).bind fun _ _ => tells_ok _

theorem tells_hexFault {α : Type} (p : Place) (rest : List Char) :
    Tells (.error (hexFault p rest) : Except Fault α) := by
  unfold hexFault
  split <;> exact tells_grammar _ _

theorem tells_readString (done : List Char) (p : Place) (cs : List Char) :
    Tells (readString done p cs) := by
  fun_induction readString done p cs
  all_goals first
    | assumption
    | exact tells_ok _
    | exact tells_grammar _ _
    | exact tells_hexFault _ _

theorem tells_skipString (p : Place) (cs : List Char) : Tells (skipString p cs) := by
  fun_induction skipString p cs
  all_goals first
    | assumption
    | exact tells_ok _
    | exact tells_grammar _ _
    | exact tells_hexFault _ _

theorem oneLine_closeList (c : Cursor) : c.closeList.OneLine := by
  unfold Cursor.closeList
  dsimp only
  split
  · rintro _ ⟨⟩
    exact oneLine_grammar _ _
  · exact Close.oneLine_of_none rfl
  · split <;> rintro _ ⟨⟩ <;> exact oneLine_grammar _ _
  · rintro _ ⟨⟩
    exact oneLine_grammar _ _

theorem oneLine_readNamed (c : Cursor) (more : List Char) {node : Option Place → Node}
    (h : ∀ stop, (node stop).OneLine) : (readNamed c more node).value.OneLine := by
  unfold readNamed
  split
  · exact h _
  · next f hName => exact ⟨tells_readName _ _ f hName, tells_readName _ _ f hName⟩

theorem oneLine_readNumeral (c first : Cursor) (negative : Bool) :
    (readNumeral c first negative).value.OneLine := by
  have hValue := tells_readNumber negative first
  unfold readNumeral
  dsimp only
  split
  · exact hValue.map _
  · next skipped hSkipped =>
    have hSkip := tells_skipNumber first skipped hSkipped
    split
    · next read hRead => exact ⟨hValue read hRead, hSkip⟩
    · exact ⟨hSkip, hSkip⟩

/-- A text between quotes, or the faults that end it. -/
theorem oneLine_readQuoted (c : Cursor) :
    match readQuoted c with
    | .ok (value, _) => Tells value
    | .error (read, skipped) => read.OneLine ∧ skipped.OneLine := by
  have hValue := tells_readString [] c.next.place c.next.rest
  have hSkip := tells_skipString c.next.place c.next.rest
  unfold readQuoted
  dsimp only
  cases hEnd : skipString c.next.place c.next.rest with
  | ok after => exact hValue.map _
  | error skipped =>
    cases hRead : readString [] c.next.place c.next.rest with
    | error read => exact ⟨hValue read hRead, hSkip skipped hEnd⟩
    | ok _ => exact ⟨hSkip skipped hEnd, hSkip skipped hEnd⟩

/-! ## Texts -/

theorem oneLine_broken {c : Cursor} {g g' : Grammar} :
    (Tail.broken (c.peekFault g) (c.peekFault g')).OneLine :=
  ⟨oneLine_grammar _ _, oneLine_grammar _ _⟩

/-- What is read with a count of steps has its faults on one line. -/
structure ReadOneLine (fuel : Nat) : Prop where
  node : ∀ depth c, (readNode fuel depth c).value.OneLine
  items : ∀ depth first c, ItemsOneLine (readItems fuel depth first c).value.1 ∧
    (readItems fuel depth first c).value.2.OneLine
  item : ∀ depth c, ItemsOneLine (readItem fuel depth c).value.1 ∧
    (readItem fuel depth c).value.2.OneLine
  members : ∀ depth first c, MembersOneLine (readMembers fuel depth first c).value.1 ∧
    (readMembers fuel depth first c).value.2.OneLine
  member : ∀ depth c, MembersOneLine (readMember fuel depth c).value.1 ∧
    (readMember fuel depth c).value.2.OneLine

theorem readOneLine_zero : ReadOneLine 0 where
  node _ _ := by rw [readNode]; trivial
  items _ _ _ := by rw [readItems]; exact ⟨trivial, oneLine_broken⟩
  item _ _ := by rw [readItem]; exact ⟨trivial, oneLine_broken⟩
  members _ _ _ := by rw [readMembers]; exact ⟨trivial, oneLine_broken⟩
  member _ _ := by rw [readMember]; exact ⟨trivial, oneLine_broken⟩

namespace ReadOneLine

variable {fuel : Nat}

theorem readNode_succ (h : ReadOneLine fuel) (depth : Nat) (c : Cursor) :
    (readNode (fuel + 1) depth c).value.OneLine := by
  rw [readNode]
  dsimp only
  split
  · trivial
  · exact oneLine_readNamed _ _ fun _ => trivial
  · exact oneLine_readNamed _ _ fun _ => trivial
  · exact oneLine_readNamed _ _ fun _ => trivial
  · have hQuoted := oneLine_readQuoted c.skipSpace
    split
    · next hName =>
      rw [hName] at hQuoted
      exact hQuoted
    · next hName =>
      rw [hName] at hQuoted
      exact hQuoted
  · exact ⟨oneLine_closeList _, h.items _ _ _⟩
  · refine ⟨fun f hLead => ?_, h.members _ _ _⟩
    -- what stands in place of a name is taken for one
    split at hLead
    · contradiction
    · obtain rfl := Option.some.inj hLead
      exact oneLine_kindFault (h.node _ _) (by decide)
  · exact oneLine_readNumeral _ _ _
  · split
    · exact oneLine_readNumeral _ _ _
    · exact ⟨oneLine_grammar _ _, oneLine_grammar _ _⟩

theorem readItems_succ (h : ReadOneLine fuel) (depth : Nat) (first : Bool) (c : Cursor) :
    ItemsOneLine (readItems (fuel + 1) depth first c).value.1 ∧
      (readItems (fuel + 1) depth first c).value.2.OneLine := by
  have hRead := itemsRead fuel depth first c
  generalize readItems (fuel + 1) depth first c = part at hRead ⊢
  cases hRead with
  | closed => exact ⟨trivial, trivial⟩
  | item here => exact h.item _ _
  | broken here read skipped => exact ⟨trivial, oneLine_broken⟩

theorem readItem_succ (h : ReadOneLine fuel) (depth : Nat) (c : Cursor) :
    ItemsOneLine (readItem (fuel + 1) depth c).value.1 ∧
      (readItem (fuel + 1) depth c).value.2.OneLine := by
  rw [readItem]
  dsimp only
  split
  · exact ⟨⟨h.node _ _, Close.oneLine_of_none rfl, trivial⟩, trivial⟩
  · next after _ =>
    obtain ⟨hItems, hTail⟩ := h.items depth false after
    exact ⟨⟨h.node _ _, oneLine_closeList after, hItems⟩, hTail⟩

theorem readMembers_succ (h : ReadOneLine fuel) (depth : Nat) (first : Bool) (c : Cursor) :
    MembersOneLine (readMembers (fuel + 1) depth first c).value.1 ∧
      (readMembers (fuel + 1) depth first c).value.2.OneLine := by
  have hRead := membersRead fuel depth first c
  generalize readMembers (fuel + 1) depth first c = part at hRead ⊢
  cases hRead with
  | closed => exact ⟨trivial, trivial⟩
  | member here => exact h.member _ _
  | broken here read skipped => exact ⟨trivial, oneLine_broken⟩

theorem readMember_succ (h : ReadOneLine fuel) (depth : Nat) (c : Cursor) :
    MembersOneLine (readMember (fuel + 1) depth c).value.1 ∧
      (readMember (fuel + 1) depth c).value.2.OneLine := by
  have hQuoted := oneLine_readQuoted c
  have hRead := memberRead fuel depth c
  generalize readMember (fuel + 1) depth c = part at hRead ⊢
  cases hRead with
  | unnamed hName =>
    rw [hName] at hQuoted
    exact ⟨trivial, hQuoted⟩
  | bare hName colon g =>
    rw [hName] at hQuoted
    exact ⟨⟨hQuoted, oneLine_grammar _ _, trivial⟩, trivial⟩
  | last hName here =>
    rw [hName] at hQuoted
    exact ⟨⟨hQuoted, h.node _ _, trivial⟩, trivial⟩
  | more hName here behind =>
    rw [hName] at hQuoted
    obtain ⟨hMembers, hTail⟩ := h.members depth false behind
    exact ⟨⟨hQuoted, h.node _ _, hMembers⟩, hTail⟩

end ReadOneLine

theorem readOneLine (fuel : Nat) : ReadOneLine fuel := by
  induction fuel with
  | zero => exact readOneLine_zero
  | succ fuel ih =>
    exact ⟨ih.readNode_succ, ih.readItems_succ, ih.readItem_succ, ih.readMembers_succ,
      ih.readMember_succ⟩

end Json

open Json

/-- **Every fault in a document that was read from a text stands on one line.** -/
theorem Document.oneLine (text : String) : (Document.ofText text).root.OneLine :=
  (readOneLine _).node _ _

theorem Document.oneLine_trailing {text : String} {f : Fault}
    (h : (Document.ofText text).trailing = some f) : f.OneLine := by
  simp only [Document.ofText, Option.bind_eq_some_iff] at h
  obtain ⟨c, -, hRest⟩ := h
  split at hRest
  · contradiction
  · obtain rfl := Option.some.inj hRest
    exact oneLine_grammar _ _

end SessionReplay
