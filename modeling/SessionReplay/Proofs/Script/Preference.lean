import SessionReplay.Script.Selector
import Mathlib.Data.List.Basic

/-!
# The best candidate

The candidates for an element are gone through once for each style. The one that is chosen is also
the first among those of the best rank, and this is all that counts.

* `rank`: how a candidate is preferred, the smaller the better.
* `Foremost`: what is least in its rank, and among equals in its position.
* `foremost_of_findSome?`: going through a list once for each of several tests finds the element
  that is foremost by the first test that it passes.
* `choose_foremost`: the candidate that is chosen is the foremost one.
-/

namespace SessionReplay.Script

/-! ## Elements that are foremost -/

section Foremost

variable {α : Type} {P : α → Prop} {key : α → Nat} {all : List α} {i j : Nat} {a b : α}

/-- The element at a position is the first of those with the property whose key is least. -/
structure Foremost (P : α → Prop) (key : α → Nat) (all : List α) (i : Nat) (a : α) : Prop where
  there : all[i]? = some a
  holds : P a
  least : ∀ j b, all[j]? = some b → P b → key a < key b ∨ key a = key b ∧ i ≤ j

/-- There is one foremost element at most. -/
theorem Foremost.unique (h : Foremost P key all i a) (h' : Foremost P key all j b) : a = b := by
  have hLe := h.least j b h'.there h'.holds
  have hGe := h'.least i a h.there h.holds
  have hSame : i = j := by omega
  subst hSame
  exact Option.some.inj (h.there.symm.trans h'.there)

/-- Elements of no better key may be put behind the foremost one. -/
theorem Foremost.insert {before after more : List α}
    (h : Foremost P key (before ++ after) i a) (hBehind : i < before.length)
    (hMore : ∀ b ∈ more, P b → key a ≤ key b) :
    Foremost P key (before ++ more ++ after) i a where
  there := by
    have hThere := h.there
    rw [List.getElem?_append_left hBehind] at hThere
    rw [List.append_assoc, List.getElem?_append_left hBehind, hThere]
  holds := h.holds
  least j b hAt hHolds := by
    by_cases hBefore : j < before.length
    · rw [List.append_assoc, List.getElem?_append_left hBefore] at hAt
      exact h.least j b (by rw [List.getElem?_append_left hBefore, hAt]) hHolds
    · by_cases hAmong : j < (before ++ more).length
      · rw [List.getElem?_append_left hAmong, List.getElem?_append_right (by omega)] at hAt
        have hKey := hMore b (List.mem_of_getElem? hAt) hHolds
        omega
      · rw [List.getElem?_append_right (by omega)] at hAt
        rw [List.length_append] at hAmong hAt
        -- it stood as many positions further in front as there are new elements
        have hOld : (before ++ after)[j - more.length]? = some b := by
          rw [List.getElem?_append_right (by omega), ← hAt]
          congr 1
          omega
        have hLeast := h.least _ b hOld hHolds
        omega

end Foremost

/-! ## One search for each test -/

section Tests

variable {α : Type} {p : α → Bool} {tests : List (α → Bool)} {all : List α} {a : α}

/-- The first element that passes the earliest test is foremost by the number of the first test that
an element passes. -/
theorem foremost_of_findSome?
    (h : tests.findSome? (fun test => all.find? fun a => p a && test a) = some a) :
    ∃ i, Foremost (p · = true) (fun a => tests.findIdx (· a)) all i a := by
  induction tests with
  | nil => simp at h
  | cons test tests ih =>
    rw [List.findSome?_cons] at h
    cases hFind : all.find? fun a => p a && test a with
    | some found =>
      rw [hFind] at h
      obtain rfl := Option.some.inj h
      obtain ⟨hPasses, i, hi, rfl, hFirst⟩ := List.find?_eq_some_iff_getElem.1 hFind
      rw [Bool.and_eq_true] at hPasses
      refine ⟨i, List.getElem?_eq_getElem hi, hPasses.1, fun j b hAt hHolds => ?_⟩
      rw [List.findIdx_cons, List.findIdx_cons, hPasses.2]
      by_cases hTest : test b = true
      · refine .inr ⟨by simp [hTest], ?_⟩
        by_contra hBefore
        obtain ⟨hj, rfl⟩ := List.getElem?_eq_some_iff.1 hAt
        have hFails := hFirst j (by omega)
        simp [hHolds, hTest] at hFails
      · simp [hTest]
    | none =>
      rw [hFind] at h
      obtain ⟨i, hi⟩ := ih h
      -- nobody passes the first test, and all numbers are one more than without it
      have hKey (b : α) (j : Nat) (hAt : all[j]? = some b) (hHolds : p b = true) :
          (test :: tests).findIdx (· b) = tests.findIdx (· b) + 1 := by
        have hFails := List.find?_eq_none.1 hFind b (List.mem_of_getElem? hAt)
        have hTest : test b = false := by simpa [hHolds] using hFails
        rw [List.findIdx_cons, hTest]
        rfl
      refine ⟨i, hi.there, hi.holds, fun j b hAt hHolds => ?_⟩
      rw [hKey a i hi.there hi.holds, hKey b j hAt hHolds]
      have hLeast := hi.least j b hAt hHolds
      omega

end Tests

/-! ## Ranks -/

/-- The rank of a candidate: that of the first style it begins with, behind these a rank for texts
of four characters or fewer, and behind it one for all others. -/
def rank (c : String) : Nat :=
  if "#".toList <+: c.toList then 0
  else if "xpath/".toList <+: c.toList then 1
  else if "aria/".toList <+: c.toList then 2
  else if "pierce/".toList <+: c.toList then 3
  else if "text/".toList <+: c.toList then 4
  else if c.length ≤ 4 then 5
  else 6

/-- Whether a candidate is so short that it is taken before the first one. -/
def isShort (c : String) : Bool := c.length ≤ shortLength

/-- The tests that the candidates are gone through with, one after the other. -/
def passes : List (String → Bool) := preferredStyles.map beginsWith ++ [isShort, fun _ => true]

theorem findIdx_passes (c : String) : passes.findIdx (· c) = rank c := by
  simp only [passes, preferredStyles, List.map_cons, List.map_nil, List.cons_append,
    List.nil_append, List.findIdx_cons, List.findIdx_nil, beginsWith, isShort, shortLength, rank,
    Bool.cond_eq_ite, List.isPrefixOf_iff_prefix]
  repeat' split
  all_goals simp_all

/-- The choice is one search of all candidates for each test. -/
theorem choose_eq (groups : List (List String)) :
    choose groups = passes.findSome? fun test =>
      groups.flatten.find? fun c => !c.isEmpty && test c := by
  have hFind (test : String → Bool) : (groups.flatten.find? fun c => !c.isEmpty && test c) =
      (candidates groups).find? test := by
    rw [candidates, List.find?_filter]
    simp only [Bool.decide_and, Bool.decide_eq_true]
  have hHead : (candidates groups).find? (fun _ => true) = (candidates groups).head? := by
    cases candidates groups <;> rfl
  have hLast : [isShort, fun _ => true].findSome? (fun test => (candidates groups).find? test) =
      ((candidates groups).find? isShort).or (candidates groups).head? := by
    simp only [List.findSome?_cons, List.findSome?_nil, hHead]
    cases (candidates groups).find? isShort <;> cases (candidates groups).head? <;> rfl
  calc choose groups
      = (preferredStyles.findSome? fun style => (candidates groups).find? (beginsWith style)).or
          (((candidates groups).find? isShort).or (candidates groups).head?) := by
        simp only [choose, Option.orElse_eq_orElse, Option.orElse_eq_or]
        rfl
    _ = passes.findSome? fun test => (candidates groups).find? test := by
        rw [passes, List.findSome?_append, List.findSome?_map, hLast]
        rfl
    _ = _ := by simp only [hFind]

/-! ## The choice -/

theorem choose_eq_none_iff (groups : List (List String)) :
    choose groups = none ↔ ∀ c ∈ groups.flatten, c = "" := by
  rw [choose_eq, List.findSome?_eq_none_iff]
  constructor
  · intro h c hMem
    have hLast := h (fun _ => true) (by simp [passes])
    simpa using List.find?_eq_none.1 hLast c hMem
  · intro h test _
    rw [List.find?_eq_none]
    intro c hMem
    simp [h c hMem]

theorem choose_eq_some_iff (groups : List (List String)) (c : String) :
    choose groups = some c ↔ ∃ i, Foremost (· ≠ "") rank groups.flatten i c := by
  have hForemost (d : String) (h : choose groups = some d) :
      ∃ i, Foremost (· ≠ "") rank groups.flatten i d := by
    rw [choose_eq] at h
    have hFound := foremost_of_findSome? h
    simpa only [findIdx_passes, Bool.not_eq_true', String.isEmpty_eq_false_iff] using hFound
  constructor
  · exact hForemost c
  · rintro ⟨i, hi⟩
    cases hChoose : choose groups with
    | none =>
      have hEmpty := (choose_eq_none_iff groups).1 hChoose c (List.mem_of_getElem? hi.there)
      exact absurd hEmpty hi.holds
    | some d =>
      obtain ⟨j, hj⟩ := hForemost d hChoose
      rw [hj.unique hi]

/-- Only the candidates that are not empty count, in whatever groups they come. -/
theorem choose_congr {groups groups' : List (List String)}
    (h : groups'.flatten.filter (· ≠ "") = groups.flatten.filter (· ≠ "")) :
    choose groups' = choose groups := by
  have hCandidates (groups : List (List String)) :
      candidates groups = groups.flatten.filter (· ≠ "") := by
    rw [candidates]
    congr 1
    funext c
    by_cases hc : c = "" <;> simp [hc]
  simp only [choose, hCandidates, h]

/-- **The best candidate is chosen, and the earliest of the best.** There is no choice exactly if all
candidates are empty. Else the one is chosen that is least in its rank, and among those of its rank
in its position. So neither the groups count nor the candidates that are empty, and what is put
behind the chosen one and has no better rank does not change the choice. -/
theorem choose_foremost (groups : List (List String)) :
    (choose groups = none ↔ ∀ group ∈ groups, ∀ c ∈ group, c = "") ∧
    (∀ c, choose groups = some c ↔ ∃ i, Foremost (· ≠ "") rank groups.flatten i c) ∧
    (∀ groups', groups'.flatten.filter (· ≠ "") = groups.flatten.filter (· ≠ "") →
      choose groups' = choose groups) ∧
    ∀ i c before after more groups', groups.flatten = before ++ after →
      Foremost (· ≠ "") rank (before ++ after) i c → i < before.length →
      (∀ d ∈ more, d ≠ "" → rank c ≤ rank d) → groups'.flatten = before ++ more ++ after →
      choose groups = some c ∧ choose groups' = some c := by
  refine ⟨?_, choose_eq_some_iff groups, fun groups' => choose_congr, ?_⟩
  · rw [choose_eq_none_iff]
    constructor
    · intro h group hGroup c hc
      exact h c (List.mem_flatten_of_mem hGroup hc)
    · intro h c hc
      obtain ⟨group, hGroup, hMem⟩ := List.mem_flatten.1 hc
      exact h group hGroup c hMem
  · intro i c before after more groups' hBefore hi hBehind hMore hAfter
    have hNew := hi.insert hBehind hMore
    constructor
    · rw [choose_eq_some_iff, hBefore]
      exact ⟨i, hi⟩
    · rw [choose_eq_some_iff, hAfter]
      exact ⟨i, hNew⟩

/-- An identifier behind a path and an empty candidate, and then more candidates behind it. -/
theorem choose_foremost_identifier :
    Foremost (· ≠ "") rank ["div > p", "", "#a", "text/Save"] 2 "#a" ∧
      (∀ d ∈ ["#save", "", "p"], d ≠ "" → rank "#a" ≤ rank d) ∧
      choose [["div > p", ""], ["#a", "text/Save"]] = some "#a" ∧
      choose [["div > p"], ["", "#a", "#save", ""], ["p", "text/Save"]] = some "#a" := by
  have hRank : rank "#a" = 0 := rfl
  have hForemost : Foremost (· ≠ "") rank ["div > p", "", "#a", "text/Save"] 2 "#a" := by
    refine ⟨rfl, by decide, ?_⟩
    intro j b hAt hHolds
    match j with
    | 0 =>
      obtain rfl : "div > p" = b := by simpa using hAt
      exact .inl (by decide)
    | 1 =>
      obtain rfl : "" = b := by simpa using hAt
      exact absurd rfl hHolds
    | j + 2 => omega
  have hMore : ∀ d ∈ ["#save", "", "p"], d ≠ "" → rank "#a" ≤ rank d := by
    intro d _ _
    omega
  exact ⟨hForemost, hMore, (choose_foremost _).2.2.2 2 "#a" ["div > p", "", "#a"] ["text/Save"] _ _
    rfl hForemost (by decide) hMore rfl⟩

end SessionReplay.Script
