import SessionReplay.Net.Url
import Mathlib.Data.List.TakeWhile

/-!
# What makes a text an address

A text is an address if it has a scheme that is known and a host. What stands behind the host does
not count.

* `Url.isSome_ofText?`: the parts of a text that decide.
* `Url.isSome_ofText?_below`: the addresses under `/api/` of a service are addresses all together,
  or none of them is.
-/

namespace SessionReplay.Net.Url

variable {c : Char} {p : Char → Bool}

/-! ## The parts that decide -/

/-- What stands before the first colon, in small letters. -/
def schemePart (cs : List Char) : String :=
  String.ofList ((cs.takeWhile (· != ':')).map Char.toLower)

def endsHost (c : Char) : Bool := isSlash c || c == '?' || c == '#'

/-- What stands behind the first colon and the slashes that follow it, up to what ends a host. -/
def hostPart (cs : List Char) : List Char :=
  ((((cs.dropWhile (· != ':')).drop 1).dropWhile isSlash).takeWhile fun c => !endsHost c)

/-- A known scheme and a host. -/
def IsAddress (cs : List Char) : Prop :=
  ∃ usual host, usualPort? (schemePart cs) = some usual ∧ host? usual (hostPart cs) = some host

theorem isSome_ofText? (text : String) :
    (ofText? text).isSome ↔ IsAddress (tidy text.toList) := by
  simp only [ofText?, Option.isSome_iff_exists, Option.bind_eq_bind, Option.bind_eq_some_iff,
    Option.some.injEq, IsAddress]
  constructor
  · rintro ⟨_, usual, hUsual, host, hHost, _⟩
    exact ⟨usual, host, hUsual, hHost⟩
  · rintro ⟨usual, host, hUsual, hHost⟩
    exact ⟨_, usual, hUsual, host, hHost, rfl⟩

/-! ## Ends that do not count -/

theorem takeWhile_stop (hStop : p c = false) (front rest : List Char) :
    (front ++ c :: rest).takeWhile p = front.takeWhile p := by
  induction front with
  | nil => simp [hStop]
  | cons first _ ih => by_cases hFirst : p first <;> simp [hFirst, ih]

theorem dropWhile_stop (hStop : p c = false) (front rest : List Char) :
    (front ++ c :: rest).dropWhile p = front.dropWhile p ++ c :: rest := by
  induction front with
  | nil => simp [hStop]
  | cons first _ ih => by_cases hFirst : p first <;> simp [hFirst, ih]

/-- What is tidied in front of `/api/` does not depend on what stands behind it. -/
theorem tidy_api (front : List Char) :
    ∃ start, ∀ rest, ∃ back,
      tidy (front ++ ("/api/".toList ++ rest)) = start ++ ("/api/".toList ++ back) := by
  let isEdge (c : Char) : Bool := c.toNat ≤ 0x20
  let stays (c : Char) : Bool := c != '\t' && c != '\n' && c != '\r'
  refine ⟨(front.dropWhile isEdge).filter stays, fun rest =>
    ⟨(rest.reverse.dropWhile isEdge).reverse.filter stays, ?_⟩⟩
  have hFront : (front ++ ("/api/".toList ++ rest)).dropWhile isEdge =
      front.dropWhile isEdge ++ ("/api/".toList ++ rest) :=
    dropWhile_stop (by decide) front _
  have hBack (front : List Char) : (front ++ ("/api/".toList ++ rest)).reverse.dropWhile isEdge =
      rest.reverse.dropWhile isEdge ++ ("/api/".toList.reverse ++ front.reverse) := by
    simpa using dropWhile_stop (p := isEdge) (c := '/') (by decide) rest.reverse
      ("/api".toList.reverse ++ front.reverse)
  have hApi : "/api/".toList.filter stays = "/api/".toList := by decide
  change (((((front ++ ("/api/".toList ++ rest)).dropWhile isEdge).reverse.dropWhile
    isEdge).reverse).filter stays) = _
  rw [hFront, hBack]
  simp only [List.reverse_append, List.reverse_reverse, List.filter_append, hApi,
    List.append_assoc]

/-! ## Addresses under `/api/` -/

/-- The scheme of an address stands before its first slash. -/
theorem mem_of_usualPort? {front rest : List Char} {usual : Nat}
    (hUsual : usualPort? (schemePart (front ++ '/' :: rest)) = some usual) : ':' ∈ front := by
  by_contra hColon
  have hPart : '/' ∈ ((front ++ '/' :: rest).takeWhile (· != ':')).map Char.toLower := by
    refine List.mem_map.2 ⟨'/', ?_, by decide⟩
    rw [List.takeWhile_append_of_pos
      (fun c hMem => by simpa using fun hEq : c = ':' => hColon (hEq ▸ hMem))]
    simp
  have hScheme {name : String} (hName : '/' ∉ name.toList)
      (hEq : schemePart (front ++ '/' :: rest) = name) : False := by
    rw [← hEq, schemePart, String.toList_ofList] at hName
    exact hName hPart
  unfold usualPort? at hUsual
  split at hUsual
  · next hHttp => exact hScheme (by decide) hHttp
  · split at hUsual
    · next hHttps => exact hScheme (by decide) hHttps
    · cases hUsual

theorem dropWhile_append_of_mem {front : List Char} (hMem : c ∈ front) (hStop : p c = false)
    (rest : List Char) : (front ++ rest).dropWhile p = front.dropWhile p ++ rest ∧
      (front ++ rest).takeWhile p = front.takeWhile p ∧ front.dropWhile p ≠ [] := by
  obtain ⟨before, after, rfl⟩ := List.append_of_mem hMem
  rw [List.append_assoc, List.cons_append]
  simp [dropWhile_stop hStop, takeWhile_stop hStop]

/-- Where a host is read, it ends before the slash behind `/api`, at the latest. -/
theorem isAddress_below (front first second : List Char)
    (hAddress : IsAddress (front ++ ("/api/".toList ++ first))) :
    IsAddress (front ++ ("/api/".toList ++ second)) := by
  obtain ⟨usual, host, hUsual, hHost⟩ := hAddress
  have hColon := mem_of_usualPort? hUsual
  have hDrop (rest) := (dropWhile_append_of_mem (p := (· != ':')) hColon (by decide) rest).1
  have hTake (rest) := (dropWhile_append_of_mem (p := (· != ':')) hColon (by decide) rest).2.1
  have hKept := (dropWhile_append_of_mem (p := (· != ':')) hColon (by decide) []).2.2
  have hHostPart (rest) : hostPart (front ++ ("/api/".toList ++ rest)) =
      ((((front.dropWhile (· != ':')).drop 1 ++ ['/']).dropWhile isSlash ++ "api".toList).takeWhile
        fun c => !endsHost c) := by
    have hList : (front.dropWhile (· != ':')).drop 1 ++ ("/api/".toList ++ rest) =
        ((front.dropWhile (· != ':')).drop 1 ++ ['/']) ++ 'a' :: ("pi/".toList ++ rest) := by
      simp
    rw [hostPart, hDrop, List.drop_append_of_le_length (List.length_pos_iff.2 hKept), hList,
      dropWhile_stop (by decide)]
    simpa using takeWhile_stop (p := fun c => !endsHost c) (c := '/') (by decide)
      (((front.dropWhile (· != ':')).drop 1 ++ ['/']).dropWhile isSlash ++ "api".toList) rest
  refine ⟨usual, host, ?_, ?_⟩
  · simpa only [schemePart, hTake] using hUsual
  · simpa only [hHostPart] using hHost

/-- If one path of a service has an address, every path has. -/
theorem isSome_ofText?_below {service : String} (first second : String)
    (hFirst : (ofText? (service ++ "/api/" ++ first)).isSome) :
    (ofText? (service ++ "/api/" ++ second)).isSome := by
  rw [isSome_ofText?] at hFirst ⊢
  obtain ⟨start, hTidy⟩ := tidy_api service.toList
  obtain ⟨firstBack, hFirstTidy⟩ := hTidy first.toList
  obtain ⟨secondBack, hSecondTidy⟩ := hTidy second.toList
  simp only [String.toList_append, List.append_assoc] at hFirst ⊢
  rw [hFirstTidy] at hFirst
  rw [hSecondTidy]
  exact isAddress_below start firstBack secondBack hFirst

end SessionReplay.Net.Url
