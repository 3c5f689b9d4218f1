import SessionReplay.Proofs.Storage.Locate
import Mathlib.Data.List.DropRight

/-!
# Paths and the paths above them

Empty pieces and single dots lead nowhere. Up to such pieces at their ends, a path has one piece
more than the path above it, and that piece counts.

* `Path.isIdle`, `Path.core`: pieces that lead nowhere, and what is left without those at the end.
* `Path.core_trimEnd`: a path is trimmed by such pieces only.
* `Path.IsTrimmed`: a path with nothing to be trimmed.
* `Path.Ascent`, `Path.ascent`: how the pieces of a path and of the one above it are related.
* `Path.above_eq`: the paths above a path, one after the other.
-/

namespace SessionReplay.Path

open Storage

/-! ## Pieces that lead nowhere -/

def isIdle (piece : String) : Bool := (partOf piece).isNone

/-- The pieces without those at the end that lead nowhere. -/
def core (pieces : List String) : List String := pieces.rdropWhile isIdle

theorem core_concat_of_isIdle (before : List String) {piece : String}
    (h : isIdle piece = true) : core (before ++ [piece]) = core before :=
  List.rdropWhile_concat_pos _ _ _ h

theorem core_concat (before : List String) {piece : String} (h : isIdle piece = false) :
    core (before ++ [piece]) = before ++ [piece] :=
  List.rdropWhile_concat_neg _ _ _ (by simp [h])

theorem core_append_of_isIdle (before : List String) {trail : List String}
    (h : ∀ piece ∈ trail, isIdle piece = true) : core (before ++ trail) = core before := by
  induction trail using List.reverseRecOn with
  | nil => rw [List.append_nil]
  | append_singleton trail piece ih =>
    rw [← List.append_assoc, core_concat_of_isIdle _ (h piece (by simp))]
    exact ih fun other hMem => h other (List.mem_append_left _ hMem)

/-- Pieces are their core and pieces behind it that lead nowhere. -/
theorem core_append_trail (pieces : List String) :
    ∃ trail, pieces = core pieces ++ trail ∧ ∀ piece ∈ trail, isIdle piece = true :=
  ⟨pieces.rtakeWhile isIdle, List.rdropWhile_append_rtakeWhile.symm,
    fun _ hMem => List.mem_rtakeWhile_imp hMem⟩

/-! ## Trimming -/

theorem pieces_ofList_append (cs : List Char) (name : List Char) (h : '/' ∉ name) :
    pieces (String.ofList (cs ++ '/' :: name)) =
      pieces (String.ofList cs) ++ [String.ofList name] := by
  simp [pieces, splitSlashes_append h]

theorem pieces_ofList {name : List Char} (h : '/' ∉ name) :
    pieces (String.ofList name) = [String.ofList name] := by
  simp [pieces, splitSlashes_eq_singleton h]

/-- Only pieces that lead nowhere are trimmed. -/
theorem core_trimEnd (reversed : List Char) :
    core (pieces (String.ofList (trimEnd reversed).reverse)) =
      core (pieces (String.ofList reversed.reverse)) := by
  induction reversed using trimEnd.induct with
  | case1 c rest ih =>
    have hPieces := pieces_ofList_append (c :: rest).reverse [] (by simp)
    rw [trimEnd, ih, List.reverse_cons (a := '/'), hPieces, core_concat_of_isIdle _ rfl]
  | case2 rest ih =>
    have hDot := pieces_ofList_append rest.reverse ['.'] (by simp)
    have hSlash := pieces_ofList_append rest.reverse [] (by simp)
    have hReverse : ('.' :: '/' :: rest).reverse = rest.reverse ++ '/' :: ['.'] := by simp
    rw [trimEnd, ih, List.reverse_cons, hSlash, hReverse, hDot, core_concat_of_isIdle _ rfl,
      core_concat_of_isIdle _ rfl]
  | case3 reversed hSlash hDot => rw [trimEnd.eq_3 _ hSlash hDot]

theorem trimEnd_suffix (reversed : List Char) : trimEnd reversed <:+ reversed := by
  induction reversed using trimEnd.induct with
  | case1 c rest ih =>
    rw [trimEnd]
    exact ih.trans (List.suffix_cons _ _)
  | case2 rest ih =>
    rw [trimEnd]
    exact ih.trans (List.suffix_cons _ _)
  | case3 reversed hSlash hDot =>
    simp only [trimEnd.eq_3 _ hSlash hDot, List.suffix_refl]

theorem trimEnd_ne_nil {reversed : List Char} (h : reversed ≠ []) : trimEnd reversed ≠ [] := by
  induction reversed using trimEnd.induct with
  | case1 c rest ih =>
    rw [trimEnd]
    exact ih (by simp)
  | case2 rest ih =>
    rw [trimEnd]
    exact ih (by simp)
  | case3 reversed hSlash hDot => rwa [trimEnd.eq_3 _ hSlash hDot]

/-- What is trimmed is a single slash, a single dot, nothing, or it ends with a piece that
leads somewhere. -/
inductive TrimmedChars : List Char → Prop
  | nothing : TrimmedChars []
  | slash : TrimmedChars ['/']
  | dot : TrimmedChars ['.']
  | only {name : List Char} (hSlash : '/' ∉ name) (hIdle : isIdle (String.ofList name) = false) :
    TrimmedChars name.reverse
  | behind {name : List Char} (rest : List Char) (hSlash : '/' ∉ name)
    (hIdle : isIdle (String.ofList name) = false) : TrimmedChars (name.reverse ++ '/' :: rest)

theorem isIdle_ofList {name : List Char} (hNe : name ≠ []) (hDot : name ≠ ['.']) :
    isIdle (String.ofList name) = false := by
  have hEmpty : String.ofList name ≠ "" := by
    intro h
    exact hNe (by simpa using congrArg String.toList h)
  have hHere : String.ofList name ≠ "." := by
    intro h
    exact hDot (by simpa using congrArg String.toList h)
  unfold isIdle partOf
  split
  · next h => simp [hEmpty, hHere] at h
  · split <;> rfl

theorem trimmedChars (reversed : List Char) : TrimmedChars (trimEnd reversed) := by
  induction reversed using trimEnd.induct with
  | case1 c rest ih =>
    rw [trimEnd]
    exact ih
  | case2 rest ih =>
    rw [trimEnd]
    exact ih
  | case3 reversed hSlash hDot =>
    rw [trimEnd.eq_3 _ hSlash hDot]
    have hSplit := List.takeWhile_append_dropWhile (p := (· != '/')) (l := reversed)
    have hPlain : '/' ∉ (reversed.takeWhile (· != '/')).reverse := by
      intro hMem
      simpa using List.mem_takeWhile_imp (List.mem_reverse.1 hMem)
    cases hRest : reversed.dropWhile (· != '/') with
    | nil =>
      rw [hRest, List.append_nil] at hSplit
      rw [hSplit] at hPlain
      by_cases hNil : reversed = []
      · rw [hNil]
        exact .nothing
      · by_cases hOne : reversed = ['.']
        · rw [hOne]
          exact .dot
        · have hIdle : isIdle (String.ofList reversed.reverse) = false :=
            isIdle_ofList (by simpa using hNil) (by simpa [List.reverse_eq_iff] using hOne)
          simpa using TrimmedChars.only hPlain hIdle
    | cons c rest =>
      obtain rfl : c = '/' := by
        simpa [hRest] using List.head?_dropWhile_not (· != '/') reversed
      rw [hRest] at hSplit
      cases hName : reversed.takeWhile (· != '/') with
      | nil =>
        rw [hName, List.nil_append] at hSplit
        cases rest with
        | nil =>
          rw [← hSplit]
          exact .slash
        | cons c rest => exact absurd hSplit.symm (hSlash c rest)
      | cons first name =>
        have hOne : (first :: name).reverse ≠ ['.'] := by
          intro hEq
          have hEq' : first :: name = ['.'] := List.reverse_eq_iff.1 hEq
          rw [hName, hEq'] at hSplit
          exact hDot rest hSplit.symm
        rw [hName] at hSplit hPlain
        have hIdle := isIdle_ofList (by simp) hOne
        have hBehind := TrimmedChars.behind rest hPlain hIdle
        rw [List.reverse_reverse, hSplit] at hBehind
        exact hBehind

/-! ## The path above a path -/

/-- A path that has nothing to be trimmed, as all paths above others are. -/
inductive IsTrimmed : String → Prop
  | nothing : IsTrimmed ""
  | slash : IsTrimmed "/"
  | dot : IsTrimmed "."
  | piece {path : String} {before : List String} {last : String}
    (hPieces : pieces path = before ++ [last]) (hLast : isIdle last = false) : IsTrimmed path

theorem isTrimmed_trimEnd (reversed : List Char) :
    IsTrimmed (String.ofList (trimEnd reversed).reverse) := by
  have h := trimmedChars reversed
  generalize trimEnd reversed = trimmed at h
  cases h with
  | nothing => exact .nothing
  | slash => exact .slash
  | dot => exact .dot
  | only hSlash hIdle =>
    rw [List.reverse_reverse]
    exact .piece ((pieces_ofList hSlash).trans (List.nil_append _).symm) hIdle
  | behind rest hSlash hIdle =>
    rw [List.reverse_append, List.reverse_reverse, List.reverse_cons, List.append_assoc,
      List.singleton_append]
    exact .piece (pieces_ofList_append rest.reverse _ hSlash) hIdle

theorem isIdle_of_core {pieces before : List String} {last : String}
    (hCore : core pieces = before ++ [last]) : isIdle last = false := by
  have hNe : core pieces ≠ [] := by simp [hCore]
  have hLast := List.rdropWhile_last_not isIdle pieces hNe
  change ¬ isIdle ((core pieces).getLast hNe) = true at hLast
  simpa [hCore] using hLast

/-- Nothing idle stands behind the last piece of a trimmed path that counts. -/
theorem IsTrimmed.trail_eq {path : String} (h : IsTrimmed path) {before trail : List String}
    {last : String} (hPieces : pieces path = before ++ last :: trail)
    (hLast : isIdle last = false) (hTrail : ∀ piece ∈ trail, isIdle piece = true) : trail = [] := by
  have hMem : last ∈ pieces path := by simp [hPieces]
  have hCounts : ∀ all : List String, last ∈ all → all.all isIdle = false := by
    intro all hAll
    rw [List.all_eq_false]
    exact ⟨last, hAll, by simp [hLast]⟩
  cases h with
  | nothing | slash | dot => exact absurd (hCounts _ hMem) (by decide)
  | @piece _ front other hFront hOther =>
    rcases List.eq_nil_or_concat trail with hNil | ⟨trail', final, rfl⟩
    · exact hNil
    · have hSame : front ++ [other] = (before ++ last :: trail') ++ [final] := by
        rw [← hFront, hPieces, List.concat_eq_append, List.append_assoc, List.cons_append]
      obtain ⟨-, hEnds⟩ := List.append_inj' hSame rfl
      rw [List.singleton_inj.1 hEnds, hTrail final (by simp)] at hOther
      contradiction

/-! ### Whether there is a path above -/

theorem head?_pieces (path : String) :
    (pieces path).head? = some "" ↔ path = "" ∨ isAbsolute path = true := by
  have hEmpty : path = "" ↔ path.toList = [] := by simp
  rw [hEmpty, isAbsolute, pieces]
  cases path.toList with
  | nil => simp [splitSlashes]
  | cons c cs =>
    by_cases hc : c = '/'
    · simp [hc, splitSlashes]
    · simp [splitSlashes_cons hc, hc]

theorem filterMap_partOf_eq_nil {pieces : List String} :
    pieces.filterMap partOf = [] ↔ core pieces = [] := by
  simp [core, List.rdropWhile_eq_nil_iff, isIdle]

theorem partOf_ne_root (piece : String) : partOf piece ≠ some .root := by
  unfold partOf
  split
  · simp
  · split <;> simp

/-- The parts of a path, by what it begins with. -/
theorem parts_cases {path : String} (h : path ≠ "") :
    isAbsolute path = true ∧ parts path = .root :: (pieces path).filterMap partOf ∨
      isAbsolute path = false ∧ (parts path = .here :: (pieces path).filterMap partOf ∨
        parts path = (pieces path).filterMap partOf ∧ (pieces path).filterMap partOf ≠ []) := by
  have hEmpty : path.isEmpty = false := by simpa using h
  have hHead := head?_pieces path
  simp only [h, false_or] at hHead
  unfold parts
  rw [hEmpty]
  simp only [Bool.false_eq_true, if_false]
  split
  · next rest hPieces => exact .inl ⟨hHead.1 (by rw [hPieces]; rfl), rfl⟩
  · next rest hPieces =>
    refine .inr ⟨?_, .inl rfl⟩
    rw [Bool.eq_false_iff, ne_eq, ← hHead, hPieces]
    simp
  · next hRoot hHere =>
    cases hPieces : pieces path with
    | nil => simp [pieces, splitSlashes_ne_nil] at hPieces
    | cons first rest =>
      have hFirst : first ≠ "" := by
        rintro rfl
        exact hRoot rest hPieces
      have hDot : first ≠ "." := by
        rintro rfl
        exact hHere rest hPieces
      refine .inr ⟨?_, .inr ⟨rfl, ?_⟩⟩
      · rw [Bool.eq_false_iff, ne_eq, ← hHead, hPieces]
        simpa using hFirst
      · have hPart : (partOf first).isSome = true := by
          unfold partOf
          rw [if_neg (by simp [hFirst, hDot])]
          split <;> rfl
        simp only [ne_eq, List.filterMap_eq_nil_iff, List.mem_cons, forall_eq_or_imp]
        rintro ⟨hNone, -⟩
        rw [hNone] at hPart
        contradiction

/-- Nothing is above a path that leads nowhere and begins with a slash. -/
theorem getLast?_parts {path : String} (h : path ≠ "") :
    (parts path).getLast? = none ∨ (parts path).getLast? = some .root ↔
      isAbsolute path = true ∧ core (pieces path) = [] := by
  have hInner : ((pieces path).filterMap partOf).getLast? ≠ some .root := by
    intro hLast
    obtain ⟨piece, -, hPart⟩ := List.mem_filterMap.1 (List.mem_of_getLast? hLast)
    exact partOf_ne_root piece hPart
  rw [← filterMap_partOf_eq_nil]
  rcases parts_cases h with ⟨hAbsolute, hParts⟩ | ⟨hAbsolute, hParts | ⟨hParts, hNe⟩⟩
  all_goals
    rw [hParts, hAbsolute]
    generalize (pieces path).filterMap partOf = inner at *
  · rcases List.eq_nil_or_concat inner with rfl | ⟨front, last, rfl⟩
    · simp
    · simpa [List.getLast?_cons] using hInner
  · rcases List.eq_nil_or_concat inner with rfl | ⟨front, last, rfl⟩
    · simp
    · simpa [List.getLast?_cons] using hInner
  · simpa [hNe] using hInner

theorem parent?_eq_none {path : String} (h : path ≠ "") :
    parent? path = none ↔ isAbsolute path = true ∧ core (pieces path) = [] := by
  rw [← getLast?_parts h]
  unfold parent?
  split <;> simp_all

theorem parent?_eq_some {path up : String} (h : parent? path = some up) :
    path ≠ "" ∧ ¬ (isAbsolute path = true ∧ core (pieces path) = []) ∧
      up = String.ofList
        (trimEnd ((trimEnd path.toList.reverse).dropWhile (· != '/'))).reverse := by
  have hNe : path ≠ "" := by
    rintro rfl
    contradiction
  refine ⟨hNe, ?_, ?_⟩
  · rw [← parent?_eq_none hNe, h]
    simp
  · unfold parent? at h
    split at h
    · contradiction
    · contradiction
    · exact (Option.some.inj h).symm

/-! ### What is above -/

/-- How a path and the one above it are related. -/
structure Ascent (path up : String) : Prop where
  trimmed : IsTrimmed up
  absolute : isAbsolute up = isAbsolute path
  above : up.toList <+: path.toList
  shorter : up.length < path.length
  core : core (pieces path) = [] ∧ up = "" ∨
    ∃ before last, core (pieces path) = before ++ [last] ∧ core (pieces up) = core before

theorem head?_reverse_of_suffix {cs ds : List Char} (hNe : cs ≠ []) (h : cs <:+ ds) :
    cs.reverse.head? = ds.reverse.head? := by
  obtain ⟨front, rfl⟩ := h
  rw [List.reverse_append, List.head?_append_of_ne_nil _ (by simpa using hNe)]

/-- Nothing but the folder that is there is above a path without slashes. -/
theorem ascent_empty {path : String} {body : List Char} (hBody : body <:+ path.toList.reverse)
    (hFull : body ≠ []) (hSlash : '/' ∉ body)
    (hCore : core (pieces path) = [] ∨ ∃ last, core (pieces path) = [last]) :
    Ascent path "" where
  trimmed := .nothing
  absolute := by
    have hHead := head?_reverse_of_suffix hFull hBody
    rw [List.reverse_reverse] at hHead
    have hNone : isAbsolute path = false := by
      rw [isAbsolute, beq_eq_false_iff_ne, ← hHead]
      intro hFirst
      exact hSlash (List.mem_reverse.1 (List.mem_of_head? hFirst))
    rw [hNone]
    rfl
  above := List.nil_prefix
  shorter := by
    have hLength := hBody.length_le
    have hPos := List.length_pos_iff.2 hFull
    rw [List.length_reverse, String.length_toList] at hLength
    have hZero : "".length = 0 := rfl
    omega
  core := by
    rcases hCore with hNone | ⟨last, hLast⟩
    · exact .inl ⟨hNone, rfl⟩
    · exact .inr ⟨[], last, hLast, rfl⟩

/-- What stands before the last slash, trimmed once more, is above a path. -/
theorem ascent_behind {path : String} {name rest : List Char}
    (hBody : name.reverse ++ '/' :: rest <:+ path.toList.reverse)
    (hSlash : '/' ∉ name) (hIdle : isIdle (String.ofList name) = false)
    (hCore : core (pieces (String.ofList (rest.reverse ++ '/' :: name))) = core (pieces path)) :
    Ascent path (String.ofList (trimEnd ('/' :: rest)).reverse) where
  trimmed := isTrimmed_trimEnd _
  absolute := by
    have hSuffix : trimEnd ('/' :: rest) <:+ path.toList.reverse :=
      (trimEnd_suffix _).trans ((List.suffix_append _ _).trans hBody)
    have hHead := head?_reverse_of_suffix (trimEnd_ne_nil (by simp)) hSuffix
    rw [List.reverse_reverse] at hHead
    simp only [isAbsolute, String.toList_ofList, hHead]
  above := by
    have hSuffix : trimEnd ('/' :: rest) <:+ path.toList.reverse :=
      (trimEnd_suffix _).trans ((List.suffix_append _ _).trans hBody)
    rw [String.toList_ofList, ← List.reverse_suffix, List.reverse_reverse]
    exact hSuffix
  shorter := by
    have hLength := (trimEnd_suffix ('/' :: rest)).length_le
    have hWhole := hBody.length_le
    have hName : name ≠ [] := by
      rintro rfl
      contradiction
    have hPos := List.length_pos_iff.2 hName
    simp only [List.length_append, List.length_reverse, List.length_cons,
      String.length_toList] at hLength hWhole
    rw [← String.length_toList, String.toList_ofList, List.length_reverse]
    omega
  core := by
    have hUp := core_trimEnd ('/' :: rest)
    have hBefore := pieces_ofList_append rest.reverse [] (by simp)
    rw [List.reverse_cons, hBefore, core_concat_of_isIdle _ rfl] at hUp
    rw [pieces_ofList_append _ _ hSlash, core_concat _ hIdle] at hCore
    exact .inr ⟨_, _, hCore.symm, hUp⟩

theorem ascent {path up : String} (h : parent? path = some up) : Ascent path up := by
  obtain ⟨hNe, hSome, rfl⟩ := parent?_eq_some h
  have hBody := trimEnd_suffix path.toList.reverse
  have hCore := core_trimEnd path.toList.reverse
  rw [List.reverse_reverse, String.ofList_toList] at hCore
  have hFull : trimEnd path.toList.reverse ≠ [] := trimEnd_ne_nil (by simpa using hNe)
  have hTrimmed := trimmedChars path.toList.reverse
  generalize trimEnd path.toList.reverse = body at *
  have hPlain : ∀ name : List Char, '/' ∉ name → ∀ c ∈ name.reverse, (c != '/') = true := by
    intro name hSlash c hMem
    rw [bne_iff_ne]
    rintro rfl
    exact hSlash (List.mem_reverse.1 hMem)
  cases hTrimmed with
  | nothing => exact absurd rfl hFull
  | slash =>
    -- the root has nothing above it
    refine absurd ⟨?_, hCore.symm⟩ hSome
    have hHead := head?_reverse_of_suffix hFull hBody
    rw [List.reverse_reverse] at hHead
    rw [isAbsolute, ← hHead]
    rfl
  | dot => exact ascent_empty hBody hFull (by decide) (.inl hCore.symm)
  | @only name hSlash hIdle =>
    have hNothing : name.reverse.dropWhile (· != '/') = [] :=
      List.dropWhile_eq_nil_iff.2 (hPlain name hSlash)
    rw [List.reverse_reverse, pieces_ofList hSlash] at hCore
    rw [hNothing]
    refine ascent_empty hBody hFull (by simpa using hSlash) (.inr ⟨String.ofList name, ?_⟩)
    rw [← hCore]
    exact core_concat [] hIdle
  | @behind name rest hSlash hIdle =>
    have hRest : (name.reverse ++ '/' :: rest).dropWhile (· != '/') = '/' :: rest := by
      rw [List.dropWhile_append_of_pos (hPlain name hSlash)]
      rfl
    rw [hRest]
    refine ascent_behind hBody hSlash hIdle ?_
    rw [← hCore]
    simp

/-! ## All paths above a path -/

theorem go_eq {n m : Nat} {path : String} (hn : path.length ≤ n) (hm : path.length ≤ m) :
    above.go n path = above.go m path := by
  induction n generalizing m path with
  | zero =>
    obtain rfl : path = "" := by simpa using hn
    cases m <;> rfl
  | succ n ih =>
    cases m with
    | zero =>
      obtain rfl : path = "" := by simpa using hm
      rfl
    | succ m =>
      unfold above.go
      cases hUp : parent? path with
      | none => rfl
      | some up =>
        have hShorter := (ascent hUp).shorter
        exact congrArg (up :: ·) (ih (by omega) (by omega))

/-- The paths above a path are the next one and those above that. -/
theorem above_eq (path : String) :
    above path = match parent? path with
      | none => []
      | some up => upwards up := by
  unfold above
  cases hLength : path.length with
  | zero =>
    obtain rfl : path = "" := by simpa using hLength
    rfl
  | succ n =>
    rw [above.go]
    cases hUp : parent? path with
    | none => rfl
    | some up =>
      have hShorter := (ascent hUp).shorter
      exact congrArg (up :: ·) (go_eq (by omega) (Nat.le_refl _))

/-- What holds of a path if it holds of the one above it holds of all paths. -/
theorem upInduction {motive : String → Prop}
    (step : ∀ path, (∀ up, parent? path = some up → motive up) → motive path) (path : String) :
    motive path := by
  induction hLength : path.length using Nat.strong_induction_on generalizing path with
  | _ n ih =>
    refine step path fun up hUp => ?_
    have hShorter := (ascent hUp).shorter
    exact ih up.length (by omega) up rfl

end SessionReplay.Path
