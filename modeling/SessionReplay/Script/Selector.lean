import SessionReplay.Script.Literal

/-!
# Selectors

A step comes with several candidates for the element it acts on, in groups as the recorder made
them. One of them is chosen, the most specific style first, and rendered as a lookup.

* `choose`: the first candidate of the best style.
* `lookup`: the expression that finds the element.
-/

namespace SessionReplay.Script

/-- Whether a text begins with these characters. -/
def beginsWith (start : String) (s : String) : Bool := start.toList.isPrefixOf s.toList

/-- The styles in the order of preference. -/
def preferredStyles : List String := ["#", "xpath/", "aria/", "pierce/", "text/"]

/-- A candidate of so few characters is taken before the first one. -/
def shortLength : Nat := 4

/-- The candidates of all groups in order; an empty one is none. -/
def candidates (groups : List (List String)) : List String :=
  groups.flatten.filter fun c => !c.isEmpty

def choose (groups : List (List String)) : Option String :=
  let all := candidates groups
  preferredStyles.findSome? (fun style => all.find? (beginsWith style))
    <|> all.find? (fun c => c.length ≤ shortLength)
    <|> all.head?

/-! ## Lookups -/

/-- The options of a lookup: how many milliseconds to wait for the element. -/
def lookupOptions : String := "\x7b timeout: 10000 \x7d"

/-- The path of an `xpath/` selector, anchored anywhere in the document. -/
def xpath? (selector : String) : Option String :=
  if beginsWith "xpath/" selector then
    some (String.ofList ('/' :: '/' :: (selector.toList.drop 6).dropWhile (· == '/')))
  else none

def lookup (selector : String) : String :=
  match xpath? selector with
  | some path => "cy.xpath(" ++ quote path ++ ", " ++ lookupOptions ++ ")"
  | none => "cy.get(" ++ quote selector ++ ", " ++ lookupOptions ++ ")"

end SessionReplay.Script
