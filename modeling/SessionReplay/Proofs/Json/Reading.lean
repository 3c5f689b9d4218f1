import SessionReplay.Json.Reader
import SessionReplay.Json.Record

/-!
# What reading comes to

The items of an array are read one by one, and so are the members of an object.

* `ItemsRead`, `itemsRead`: what there is of an array from a cursor on.
* `MembersRead`, `membersRead`: what there is of an object.
* `MemberRead`, `memberRead`: what there is where a member has to begin.
* `Fields.check_of_seq`: a field of two lists of fields is a field of one of them.
-/

namespace SessionReplay.Json

/-! ## Texts -/

/-- What there is of an array from a cursor on: its bracket, an item and all that stands behind it,
or nothing, where the text breaks off. -/
inductive ItemsRead (fuel depth : Nat) (c : Cursor) : Part (List (Node × Close) × Tail) → Prop
  | closed {rest : List Char} (hBracket : c.skipSpace.rest = ']' :: rest) (after : Cursor) :
    ItemsRead fuel depth c ⟨([], .closed (some after.place)), some after⟩
  | item (here : Cursor) : ItemsRead fuel depth c (readItem fuel depth here)
  | broken (here : Cursor) (read skipped : Grammar) :
    ItemsRead fuel depth c (.brokenEither here read skipped)

theorem itemsRead (fuel depth : Nat) (first : Bool) (c : Cursor) :
    ItemsRead fuel depth c (readItems (fuel + 1) depth first c) := by
  rw [readItems]
  dsimp only
  split
  · exact .broken _ _ _
  · next hBracket => exact .closed hBracket _
  · split
    · exact .item _
    · split
      · split
        · exact .broken _ _ _
        · exact .broken _ _ _
        · exact .item _
      · exact .broken _ _ _

/-- What there is of an object from a cursor on: its bracket, a member and all that stands behind
it, or nothing, where the text breaks off. -/
inductive MembersRead (fuel depth : Nat) : Part (List (Member Node) × Tail) → Prop
  | closed (after : Cursor) :
    MembersRead fuel depth ⟨([], .closed (some after.place)), some after⟩
  | member (here : Cursor) : MembersRead fuel depth (readMember fuel depth here)
  | broken (here : Cursor) (read skipped : Grammar) :
    MembersRead fuel depth (.brokenEither here read skipped)

theorem membersRead (fuel depth : Nat) (first : Bool) (c : Cursor) :
    MembersRead fuel depth (readMembers (fuel + 1) depth first c) := by
  rw [readMembers]
  dsimp only
  split
  · exact .broken _ _ _
  · exact .closed _
  · split
    · split
      · exact .member _
      · exact .broken _ _ _
    · split
      · split
        · exact .broken _ _ _
        · exact .member _
        · exact .broken _ _ _
        · exact .broken _ _ _
      · exact .broken _ _ _

/-- What there is where a member has to begin: no name, or a name with no value behind it, with a
value that the text breaks off in, or with a value and other members. -/
inductive MemberRead (fuel depth : Nat) (c : Cursor) : Part (List (Member Node) × Tail) → Prop
  | unnamed {read skipped : Fault} (hName : readQuoted c = .error (read, skipped)) :
    MemberRead fuel depth c (.stuck ([], .broken read skipped))
  | bare {name : Except Fault String} {after : Cursor} (hName : readQuoted c = .ok (name, after))
    (colon : Cursor) (g : Grammar) :
    MemberRead fuel depth c (.stuck
      ([⟨name, some after.place, after.closeObject, .error (colon.peekFault g), none⟩],
        .closed none))
  | last {name : Except Fault String} {after : Cursor} (hName : readQuoted c = .ok (name, after))
    (here : Cursor) :
    MemberRead fuel depth c (.stuck
      ([⟨name, some after.place, after.closeObject, .ok (readNode fuel depth here).value, none⟩],
        .closed none))
  | more {name : Except Fault String} {after : Cursor} (hName : readQuoted c = .ok (name, after))
    (here behind : Cursor) :
    MemberRead fuel depth c
      ⟨(⟨name, some after.place, after.closeObject, .ok (readNode fuel depth here).value,
            some behind.skipSpace.place⟩ :: (readMembers fuel depth false behind).value.1,
          (readMembers fuel depth false behind).value.2),
        (readMembers fuel depth false behind).after⟩

theorem memberRead (fuel depth : Nat) (c : Cursor) :
    MemberRead fuel depth c (readMember (fuel + 1) depth c) := by
  rw [readMember]
  split
  · next hName => exact .unnamed hName
  · next hName =>
    dsimp only
    split
    · exact .bare hName _ _
    · split
      · exact .last hName _
      · exact .more hName _ _
    · exact .bare hName _ _

/-! ## Records -/

theorem Fields.check_of_seq {α β : Type} {fs : Fields (α → β)} {gs : Fields α} {name : String}
    {check : Node → Except Fault Unit} (h : (fs <*> gs).check name = some check) :
    fs.check name = some check ∨ gs.check name = some check := by
  change (fs.check name <|> gs.check name) = some check at h
  cases hFirst : fs.check name with
  | some first => exact .inl (by simpa [hFirst] using h)
  | none => exact .inr (by simpa [hFirst] using h)

end SessionReplay.Json
