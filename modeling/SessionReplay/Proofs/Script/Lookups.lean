import SessionReplay.Proofs.Script.Framing
import SessionReplay.Proofs.Script.Quoting

/-!
# Lookups

A lookup is a call whose first argument is a literal. From the call and the value of the literal it
can be told which selector it looks for, but for the slashes in front of a path.

* `call?`: the function that a text calls, and the value of its first argument, if that is a
  literal.
* `Finds`: the function and the argument of the lookup of a selector.
* `call?_lookup`: a lookup is a call of this function with this argument.
* `lookup_faithful`: which selectors have the same lookup.
-/

namespace SessionReplay.Script

/-! ## Calls -/

/-- A call whose first argument is a literal: the name before its opening bracket, the code units of
the literal, and the text behind that. -/
def call? (cs : List Char) : Option (String × List UInt16 × List Char) :=
  (literal? ((cs.dropWhile (· != '(')).drop 1)).map fun (value, rest) =>
    (String.ofList (cs.takeWhile (· != '(')), value, rest)

theorem call?_quote {function : String} (hName : '(' ∉ function.toList) (text rest : String) :
    call? (function ++ "(" ++ quote text ++ rest).toList =
      some (function, unitsOfChars text.toList, rest.toList) := by
  have hPlain : ∀ c ∈ function.toList, (c != '(') = true := by
    intro c hMem
    rw [bne_iff_ne]
    rintro rfl
    exact hName hMem
  have hCall : (function ++ "(" ++ quote text ++ rest).toList =
      function.toList ++ '(' :: (quoteChars text.toList ++ rest.toList) := by
    simp [quote]
  simp only [call?, hCall, List.takeWhile_append_of_pos hPlain,
    List.dropWhile_append_of_pos hPlain]
  simp [literal?_quoteChars]

/-! ## Selectors -/

/-- A text without the slashes in front of it. -/
def withoutSlashes (text : String) : String :=
  String.ofList (text.toList.dropWhile (· == '/'))

/-- What stands behind the first argument of a lookup. -/
def lookupEnd : String := ", " ++ lookupOptions ++ ")"

/-- The function and the argument that find the element of a selector. A path may begin anywhere in
the document; any other selector is taken as it is. -/
inductive Finds : String → String → String → Prop
  | path (rest : String) : Finds ("xpath/" ++ rest) "cy.xpath" ("//" ++ withoutSlashes rest)
  | query {selector : String} (h : ∀ rest, selector ≠ "xpath/" ++ rest) :
    Finds selector "cy.get" selector

theorem begins_iff {start text : String} : Begins start text ↔ ∃ rest, text = start ++ rest := by
  constructor
  · rintro ⟨rest, hText⟩
    refine ⟨String.ofList rest, String.toList_injective ?_⟩
    rw [String.toList_append, String.toList_ofList, hText]
  · rintro ⟨rest, rfl⟩
    exact (Begins.self start).append rest

theorem xpath?_path (rest : String) :
    xpath? ("xpath/" ++ rest) = some ("//" ++ withoutSlashes rest) := by
  have hBegins : beginsWith "xpath/" ("xpath/" ++ rest) = true :=
    beginsWith_iff.2 (begins_iff.2 ⟨rest, rfl⟩)
  have hRest : ("xpath/" ++ rest).toList.drop 6 = rest.toList := by simp
  rw [xpath?, if_pos hBegins, hRest, withoutSlashes]
  refine congrArg some (String.toList_injective ?_)
  simp

theorem xpath?_query {selector : String} (h : ∀ rest, selector ≠ "xpath/" ++ rest) :
    xpath? selector = none := by
  refine if_neg fun hBegins => ?_
  obtain ⟨rest, hRest⟩ := begins_iff.1 (beginsWith_iff.1 hBegins)
  exact h rest hRest

/-- Every selector is found by one function with one argument. -/
theorem exists_finds (selector : String) : ∃ function argument,
    Finds selector function argument ∧ lookup selector =
      function ++ "(" ++ quote argument ++ lookupEnd := by
  have hCall (function argument : String) :
      function ++ "(" ++ quote argument ++ ", " ++ lookupOptions ++ ")" =
        function ++ "(" ++ quote argument ++ lookupEnd := by
    simp only [lookupEnd, String.append_assoc]
  by_cases hPath : ∃ rest, selector = "xpath/" ++ rest
  · obtain ⟨rest, rfl⟩ := hPath
    refine ⟨_, _, .path rest, ?_⟩
    rw [← hCall, lookup, xpath?_path]
    rfl
  · have hQuery : ∀ rest, selector ≠ "xpath/" ++ rest := fun rest hRest => hPath ⟨rest, hRest⟩
    refine ⟨_, _, .query hQuery, ?_⟩
    rw [← hCall, lookup, xpath?_query hQuery]
    rfl

theorem Finds.unique {selector function argument function' argument' : String}
    (h : Finds selector function argument) (h' : Finds selector function' argument') :
    function = function' ∧ argument = argument' := by
  cases h with
  | path rest =>
    generalize hSelector : "xpath/" ++ rest = selector at h'
    cases h' with
    | path rest' =>
      obtain rfl : rest = rest' := by simpa using hSelector
      exact ⟨rfl, rfl⟩
    | query hQuery => exact absurd hSelector.symm (hQuery rest)
  | query hQuery =>
    cases h' with
    | path rest => exact absurd rfl (hQuery rest)
    | query => exact ⟨rfl, rfl⟩

theorem call?_lookup {selector function argument : String} (h : Finds selector function argument) :
    call? (lookup selector).toList =
      some (function, unitsOfChars argument.toList, lookupEnd.toList) := by
  obtain ⟨function', argument', hFinds, hLookup⟩ := exists_finds selector
  obtain ⟨rfl, rfl⟩ := h.unique hFinds
  rw [hLookup]
  refine call?_quote ?_ _ _
  cases h <;> decide

/-- Lookups are the same exactly if they are calls of one function with one argument. -/
theorem lookup_eq_iff {a b f g x y : String} (ha : Finds a f x) (hb : Finds b g y) :
    lookup a = lookup b ↔ f = g ∧ x = y := by
  constructor
  · intro hSame
    have hCall := call?_lookup ha
    rw [hSame, call?_lookup hb] at hCall
    obtain ⟨hFunction, hArgument⟩ := Prod.mk.inj (Option.some.inj hCall)
    have hUnits := (Prod.mk.inj hArgument).1
    exact ⟨hFunction.symm, (String.toList_injective (unitsOfChars_injective hUnits)).symm⟩
  · rintro ⟨rfl, rfl⟩
    obtain ⟨f', x', hFinds, hLookup⟩ := exists_finds a
    obtain ⟨g', y', hFinds', hLookup'⟩ := exists_finds b
    obtain ⟨rfl, rfl⟩ := ha.unique hFinds
    obtain ⟨rfl, rfl⟩ := hb.unique hFinds'
    rw [hLookup, hLookup']

/-- One function with one argument finds two different selectors only if both are paths. -/
theorem Finds.same_iff {a b f g x y : String} (ha : Finds a f x) (hb : Finds b g y) :
    f = g ∧ x = y ↔ a = b ∨
      ∃ p q, a = "xpath/" ++ p ∧ b = "xpath/" ++ q ∧ withoutSlashes p = withoutSlashes q := by
  constructor
  · rintro ⟨rfl, rfl⟩
    generalize hFunction : f = g at hb
    generalize hArgument : x = y at hb
    cases ha with
    | path p =>
      cases hb with
      | path q => exact .inr ⟨p, q, rfl, rfl, by simpa using hArgument⟩
      | query => exact absurd hFunction (by decide)
    | query =>
      cases hb with
      | path => exact absurd hFunction (by decide)
      | query => exact .inl hArgument
  · rintro (rfl | ⟨p, q, rfl, rfl, hRest⟩)
    · exact ha.unique hb
    · obtain ⟨rfl, rfl⟩ := ha.unique (.path p)
      obtain ⟨rfl, rfl⟩ := hb.unique (.path q)
      exact ⟨rfl, by rw [hRest]⟩

/-- **Lookups identify their selectors.** Two selectors have the same lookup exactly if they are
equal, or if both are paths that differ in no more than the slashes in front. Every lookup is a call
of `cy.xpath` or of `cy.get` whose first argument is a literal: the former exactly for the paths,
with two slashes and the path without those in front of it for an argument, and the latter with the
selector as it is. -/
theorem lookup_faithful (a b : String) :
    (lookup a = lookup b ↔ a = b ∨ ∃ p q, a = "xpath/" ++ p ∧ b = "xpath/" ++ q ∧
      withoutSlashes p = withoutSlashes q) ∧
    ∃ function argument, call? (lookup a).toList =
        some (function, unitsOfChars argument.toList, lookupEnd.toList) ∧
      ((∃ p, a = "xpath/" ++ p) ∧ function = "cy.xpath" ∧
          (∀ p, a = "xpath/" ++ p → argument = "//" ++ withoutSlashes p) ∨
        (∀ p, a ≠ "xpath/" ++ p) ∧ function = "cy.get" ∧ argument = a) := by
  obtain ⟨f, x, ha, -⟩ := exists_finds a
  obtain ⟨g, y, hb, -⟩ := exists_finds b
  refine ⟨?_, f, x, call?_lookup ha, ?_⟩
  · rw [lookup_eq_iff ha hb, ha.same_iff hb]
  · cases ha with
    | path rest =>
      refine .inl ⟨⟨rest, rfl⟩, rfl, fun p hPath => ?_⟩
      obtain rfl : rest = p := by simpa using hPath
      rfl
    | query hQuery => exact .inr ⟨hQuery, rfl, rfl⟩

end SessionReplay.Script
