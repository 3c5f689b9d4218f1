import SessionReplay.Proofs.Decimal.Rounding
import SessionReplay.Proofs.Json.Viewing
import SessionReplay.Proofs.Recording.Acceptance
import SessionReplay.Proofs.Recording.Normal

/-!
# Dimensions

Whatever stands in the place of a width or a height, it is decoded: a number to the pixels that it
comes to when it is rounded, as long as it is not negative then, and anything else to none.

* `Json.size?`: the dimension that a value stands for.
* `pixels_toNat`: numbers are decoded to this dimension.
* `pixels_toDouble`: the double next to a number is decoded to the same.
* `pixels_mono`: larger numbers are decoded to larger dimensions.
* `Viewport.Sized`, `Step.Sized`: viewports and steps have the dimensions that stand under their
  names.
* `Recording.exists_ofText_iff`, `Step.exists_decodeValue_insert`: dimensions are never refused.
-/

namespace SessionReplay

open Json

/-! ## Numbers -/

/-- The dimension that a value stands for: a number, rounded with a half going away from zero and
cut to 32 bits, unless it is negative then. -/
def Json.size? : Json → Option ℕ
  | .number n =>
    if 0 ≤ roundAway n.toRat then some (min (roundAway n.toRat).toNat (2 ^ 32 - 1)) else none
  | _ => none

theorem roundAway_natCast (n : ℕ) : roundAway n = n := by
  rw [roundAway, if_pos (Nat.cast_nonneg n), round_natCast]

theorem toNat_cut (n : ℕ) : (min n 4294967295).toUInt32.toNat = min n (2 ^ 32 - 1) := by
  have hSize : UInt32.size = 4294967296 := rfl
  exact UInt32.toNat_ofNat_of_lt' (by omega)

theorem size?_of_natCast {n : Number} {k : ℕ} (h : roundAway n.toRat = k) :
    size? (.number n) = some (min k (2 ^ 32 - 1)) := by
  rw [size?, h, if_pos (by omega), Int.toNat_natCast]

theorem size?_of_neg {n : Number} (h : roundAway n.toRat < 0) : size? (.number n) = none :=
  if_neg (by omega)

/-- A double stands for no dimension where it is negative and more than a half. -/
theorem pixels_real (x : Double) : pixels (.real x) =
    if x.negative ∧ x.roundHalfAway ≠ 0 then none
    else some (min x.roundHalfAway 4294967295).toUInt32 := rfl

/-- Numbers are decoded to the dimension that they stand for. -/
theorem pixels_toNat (n : Number) : (pixels n).map UInt32.toNat = size? (.number n) := by
  cases n with
  | natural n =>
    have hRounded : roundAway (Number.natural n).toRat = n.toNat := roundAway_natCast n.toNat
    rw [size?_of_natCast hRounded, pixels, Option.map_some, toNat_cut]
  | negative n =>
    have hRounded : roundAway (Number.negative n).toRat = -(n.val + 1 : ℤ) := by
      have hOwn := roundAway_natCast (n.val + 1)
      push_cast at hOwn
      rw [Number.toRat, roundAway_neg, hOwn]
    rw [size?_of_neg (by omega)]
    rfl
  | real x =>
    have hRounded : roundAway (Number.real x).toRat = if x.negative then -(x.roundHalfAway : ℤ)
      else x.roundHalfAway := x.roundAway_toRat
    rw [pixels_real]
    split
    · next hNone =>
      rw [if_pos hNone.1] at hRounded
      rw [size?_of_neg (by omega)]
      rfl
    · next hSome =>
      -- a negative double that is not more than a half is rounded to zero
      have hKept : roundAway (Number.real x).toRat = x.roundHalfAway := by
        split at hRounded
        · next hSign =>
          have hZero : x.roundHalfAway = 0 := by
            by_contra hRest
            exact hSome ⟨hSign, hRest⟩
          omega
        · exact hRounded
      rw [size?_of_natCast hKept, Option.map_some, toNat_cut]

/-- An integer is decoded to the same dimension as the double that is next to it. -/
theorem pixels_toDouble (n : Number) : pixels (.real n.toDouble) = pixels n := by
  rw [pixels_real]
  cases n with
  | natural n =>
    have hBits : (n.toNat : ℤ).natAbs ≤ 2 ^ 64 := n.toNat_lt.le
    obtain ⟨hSign, hRounded⟩ := Double.ofInt_rounded hBits
    have hPositive : ¬ ((Number.natural n).toDouble.negative ∧
        (Number.natural n).toDouble.roundHalfAway ≠ 0) := by
      rintro ⟨hNegative, -⟩
      have hBelow := of_decide_eq_true (hSign.symm.trans hNegative)
      omega
    have hCut : min (Number.natural n).toDouble.roundHalfAway 4294967295 =
        min n.toNat 4294967295 := by
      rw [Int.natAbs_natCast] at hRounded
      rw [Number.toDouble]
      omega
    rw [if_neg hPositive, hCut, pixels]
  | negative n =>
    have hBits : (-(n.val + 1 : ℤ)).natAbs ≤ 2 ^ 64 := by
      have hRange : n.val < 2 ^ 63 := n.isLt
      omega
    obtain ⟨hSign, hRounded⟩ := Double.ofInt_rounded hBits
    refine if_pos ⟨?_, ?_⟩
    · rw [Number.toDouble, hSign, decide_eq_true_eq]
      omega
    · rw [Number.toDouble]
      omega
  | real x => rfl

theorem pixels_mono {m n : Number} (hSign : 0 ≤ m.toRat) (h : m.toRat ≤ n.toRat) :
    ∃ a b, pixels m = some a ∧ pixels n = some b ∧ a ≤ b := by
  have hLow : 0 ≤ roundAway m.toRat := roundAway_nonneg hSign
  have hStep : roundAway m.toRat ≤ roundAway n.toRat := roundAway_mono h
  have hOwn := pixels_toNat m
  have hOther := pixels_toNat n
  rw [size?, if_pos hLow, Option.map_eq_some_iff] at hOwn
  rw [size?, if_pos (hLow.trans hStep), Option.map_eq_some_iff] at hOther
  obtain ⟨a, ha, hSize⟩ := hOwn
  obtain ⟨b, hb, hSize'⟩ := hOther
  refine ⟨a, b, ha, hb, ?_⟩
  rw [UInt32.le_iff_toNat_le, hSize, hSize']
  omega

/-! ## Values -/

namespace Json.Node

/-- The dimension that a document stands for. -/
def size? (node : Node) : Option ℕ := node.toJson.toOption.bind Json.size?

/-- The dimension that stands under the name of a field. -/
def sizeUnder (names : List String) (node : Node) (name : String) : Option ℕ :=
  (node.under names name).bind size?

theorem pixels?_toNat (w : Json) : (pixels? w).map UInt32.toNat = Json.size? w := by
  cases w with
  | number n => exact pixels_toNat n
  | _ => rfl

/-- A dimension is decoded from every value. -/
theorem asPixels_of_toJson {node : Node} {w : Json} (h : node.toJson = .ok w) :
    ∃ o, node.asPixels = .ok o ∧ Viewport.asDimension node = .ok (o.getD 0) ∧
      o.map UInt32.toNat = Json.size? w := by
  have hPixels : node.asPixels = .ok (pixels? w) := by
    rw [asPixels, h]
    rfl
  refine ⟨_, hPixels, ?_, pixels?_toNat w⟩
  rw [Viewport.asDimension, hPixels]
  rfl

theorem yields_asPixels : Yields asPixels fun node => node.toJson.toOption.bind pixels? := by
  intro node o hRead
  obtain ⟨w, hValue, rfl⟩ := map_eq_ok.1 hRead
  change pixels? w = node.toJson.toOption.bind pixels?
  rw [hValue]
  rfl

theorem yields_asDimension :
    Yields Viewport.asDimension fun node => (node.toJson.toOption.bind pixels?).getD 0 := by
  intro node n hRead
  obtain ⟨o, hPixels, rfl⟩ := map_eq_ok.1 hRead
  rw [yields_asPixels node o hPixels]

/-- What a dimension is decoded to, seen from what stands under its name. -/
theorem elim_pixels?_toNat (l : Option Node) :
    (l.elim none fun node => node.toJson.toOption.bind pixels?).map UInt32.toNat =
      l.bind size? := by
  cases l with
  | none => rfl
  | some node =>
    change (node.toJson.toOption.bind pixels?).map UInt32.toNat = node.toJson.toOption.bind _
    cases node.toJson.toOption with
    | none => rfl
    | some w => exact pixels?_toNat w

end Json.Node

/-! ## Viewports -/

namespace Viewport

def names : List String := ["width", "height"]

/-- A viewport has the dimensions that stand under its names, and zero for those that do not. -/
structure Sized (node : Node) (v : Viewport) : Prop where
  width : v.width.toNat = (node.sizeUnder names "width").getD 0
  height : v.height.toNat = (node.sizeUnder names "height").getD 0

theorem toNat_elim (l : Option Node) :
    (l.elim 0 fun node => (node.toJson.toOption.bind pixels?).getD 0).toNat =
      (l.bind Node.size?).getD 0 := by
  rw [← Node.elim_pixels?_toNat]
  cases l with
  | none => rfl
  | some node =>
    change ((node.toJson.toOption.bind pixels?).getD 0).toNat =
      ((node.toJson.toOption.bind pixels?).map UInt32.toNat).getD 0
    cases node.toJson.toOption.bind pixels? <;> rfl

/-- The viewport that is seen in a document. -/
def seen (node : Node) : Viewport where
  width := (node.under names "width").elim 0 fun w => (w.toJson.toOption.bind pixels?).getD 0
  height := (node.under names "height").elim 0 fun h => (h.toJson.toOption.bind pixels?).getD 0

theorem sized_seen (node : Node) : (seen node).Sized node := ⟨toNat_elim _, toNat_elim _⟩

theorem yields_decode : Node.Yields decode seen := by
  have hDimension (name : String) := Fields.yields_withDefault name Node.yields_asDimension 0
  exact Fields.yields_decode (Fields.yields_seq
    (Fields.yields_map (hDimension "width") Viewport.mk) (hDimension "height")) "Viewport"

end Viewport

/-! ## Recordings -/

namespace Recording

def names : List String := ["title", "viewport", "steps"]

/-- The viewport of a recording has the dimensions that stand under its names. -/
theorem sized_of_decode {node : Node} {r : Recording} (h : decode node = .ok r) {v : Viewport}
    (hViewport : r.viewport = some v) :
    ∃ inner, node.under names "viewport" = some inner ∧ v.Sized inner := by
  have hTitle := Fields.yields_withDefault "title"
    (Node.yields_self (Node.asOption Node.asString) none) none
  have hInner := Fields.yields_optional "viewport" (Node.yields_asOption Viewport.yields_decode)
  have hSteps := Fields.yields_withDefault "steps"
    (Node.yields_self (Node.asListOrNull Node.toJson) []) []
  have hOwn := Fields.yields_decode (Fields.yields_seq (Fields.yields_seq
    (Fields.yields_map hTitle Recording.mk) hInner) hSteps) "Recording" node r h
  rw [hOwn] at hViewport
  obtain ⟨inner, hUnder, hGiven⟩ := Option.bind_eq_some_iff.1 hViewport
  obtain ⟨given, hSame, rfl⟩ := Option.map_eq_some_iff.1 hGiven
  have hGivenSelf : given = inner := by
    cases inner <;> simp_all [Node.given?]
  exact ⟨inner, hUnder, hGivenSelf ▸ Viewport.sized_seen given⟩

/-- Whether a recording is read does not depend on the dimensions of its viewport. -/
theorem exists_ofText_iff {text : String} {members : List (String × Json)} {w : Json}
    (hValue : Json.parse text = .ok (.object members))
    (hDistinct : (Document.ofText text).root.isDistinct = true)
    (hViewport : member? "viewport" members = some w) (hAccepts : Viewport.Accepts w) :
    (∃ r, ofText text = .ok r) ↔ BlankOr IsText (member? "title" members) ∧
      BlankOr (fun w => ∃ ws, w = .array ws) (member? "steps" members) := by
  simp only [ofText_eq_ok hValue hDistinct, exists_made]
  constructor
  · intro h
    exact ⟨h.title, h.steps⟩
  · rintro ⟨hTitle, hSteps⟩
    refine ⟨hTitle, ?_, hSteps⟩
    rw [hViewport]
    exact .there hAccepts

end Recording

/-! ## Steps -/

namespace Step

/-- A step has the dimensions that stand under its names. -/
structure Sized (node : Node) (s : Step) : Prop where
  width : s.width.map UInt32.toNat = node.sizeUnder names "width"
  height : s.height.map UInt32.toNat = node.sizeUnder names "height"

theorem sized_of_decode {node : Node} {s : Step} (h : decode node = .ok s) : s.Sized node := by
  have hKind := Fields.yields_required "type"
    (Node.yields_self (fun node => StepKind.ofName <$> node.asString) .click) .click
  have hOther {α : Type} (name : String) (read : Node → Except Fault α) (default : α) :=
    Fields.yields_withDefault name (Node.yields_self read default) default
  have hText (name : String) := hOther name (Node.asOption Node.asString) none
  have hLenient (name : String) := hOther name Node.asLenientText none
  have hPixels (name : String) := Fields.yields_withDefault name Node.yields_asPixels none
  have hOwn := Fields.yields_decode (Fields.yields_seq (Fields.yields_seq (Fields.yields_seq
    (Fields.yields_seq (Fields.yields_seq (Fields.yields_seq (Fields.yields_seq
      (Fields.yields_seq (Fields.yields_seq (Fields.yields_seq
        (Fields.yields_map hKind Step.mk)
        (hText "url"))
        (hLenient "target"))
        (hLenient "value"))
        (hLenient "key"))
        (hOther "selectors" (Node.asListOrNull Node.asSelectorGroup) []))
        (hOther "scrollPosition" (Node.asOption ScrollOffset.decode) none))
        (hOther "frame" (Node.asListOrNull (Node.asWord "usize")) []))
        (hText "assertion"))
        (hPixels "width"))
        (hPixels "height")) "Step" node s h
  rw [hOwn]
  exact ⟨Node.elim_pixels?_toNat _, Node.elim_pixels?_toNat _⟩

/-- Whether a step is decoded does not depend on its dimensions. -/
theorem exists_decodeValue_insert {members : List (String × Json)}
    (hOrdered : MembersOrdered members) {name : String} (hName : name ∈ ["width", "height"])
    {w : Json} (hValue : w.Ordered) :
    (∃ s, decodeValue decode (.object (insert name w members)) = .ok s) ↔
      ∃ s, decodeValue decode (.object members) = .ok s := by
  rw [exists_decodeValue hOrdered, exists_decodeValue (membersOrdered_insert hOrdered hValue)]
  refine Accepts.congr fun other hOther => member?_insert_of_ne ?_
  rintro rfl
  have hApart : ∀ name ∈ ["width", "height"], name ∉ strictNames := by simp [strictNames]
  exact hApart other hName hOther

end Step

end SessionReplay
