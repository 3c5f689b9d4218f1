import SessionReplay.Proofs.Json.Writing

/-!
# Records inside records are read again

The members of a record may stand among those of another one. A reader of both hands each member to
the record that has a field of its name: those of the outer record first, and the rest to the inner
one.

* `scanBoth_of_shown`, `scanCollected_of_shown`: each scan keeps the members of its own fields.
* `Fields.reads_decodeWith`: both records are read from the object that holds the members of both.
-/

namespace SessionReplay.Json

variable {α β : Type}

/-! ## Some of the members -/

theorem member?_filter (p : String → Bool) (name : String) (members : List (String × Json)) :
    member? name (members.filter fun e => p e.1) = if p name then member? name members else none := by
  induction members with
  | nil => simp [member?]
  | cons first rest ih =>
    obtain ⟨k, v⟩ := first
    by_cases hKeep : p k = true
    · rw [List.filter_cons, if_pos hKeep]
      by_cases hName : k = name
      · subst hName
        simp [member?, hKeep]
      · simpa [member?, hName] using ih
    · rw [List.filter_cons, if_neg hKeep, ih]
      by_cases hName : k = name
      · subst hName
        simp [hKeep]
      · simp [member?, hName]

/-- What is found among some of the members is found among all of them. -/
theorem Finds.of_filter {p : String → Bool} {members : List (String × Json)}
    {nodes : List (String × Node)} {name : String}
    (h : Finds nodes (members.filter fun e => p e.1) name) (hKeep : p name = true) :
    Finds nodes members name := by
  rwa [Finds, member?_filter, if_pos hKeep] at h

namespace Fields

/-! ## The fields of one record among other members -/

/-- The name is one of a field. -/
def holds (fs : Fields α) (name : String) : Bool := (fs.check name).isSome

section Scans

variable {fs : Fields α} {members : List (String × Json)}

theorem scanBoth_of_shown (seen others : List (String × Node)) {nodes : List (Member Node)}
    (hFields : ∀ e ∈ members, ∀ check, fs.check e.1 = some check → Node.Reads check e.2 ())
    (hOthers : ∀ e ∈ members, fs.check e.1 = none → e.2.Ordered)
    (hNodup : (members.map (·.1)).Nodup) (hNew : ∀ e ∈ members, seen.any (·.1 == e.1) = false)
    (hShown : membersShownBy members nodes = true) :
    ∃ own left, fs.scanBoth seen others nodes = .ok (seen.reverse ++ own, others.reverse ++ left) ∧
      Shows (members.filter fun e => fs.holds e.1) own ∧
      Shows (members.filter fun e => !fs.holds e.1) left := by
  induction members generalizing nodes seen others with
  | nil =>
    obtain rfl := members_eq_nil_of_shown hShown
    exact ⟨[], [], by simp [scanBoth], .nil, .nil⟩
  | cons e rest ih =>
    obtain ⟨k, v⟩ := e
    obtain ⟨stop, close, node, next, behind, rfl, hNode, hRest⟩ := membersShownBy_cons hShown
    rw [List.map_cons, List.nodup_cons] at hNodup
    obtain ⟨hFirst, hLater⟩ := List.forall_mem_cons.1 hNew
    obtain ⟨hReads, hPasses⟩ := List.forall_mem_cons.1 hFields
    obtain ⟨hOrdered, hSound⟩ := List.forall_mem_cons.1 hOthers
    cases hCheck : fs.check k with
    | none =>
      have hHeld : fs.holds k = false := by simp [holds, hCheck]
      have hValue : node.toJson = .ok v := Node.toJson_of_shown hNode (hOrdered hCheck)
      obtain ⟨own, left, hScan, hOwn, hLeft⟩ :=
        ih seen ((k, node) :: others) hPasses hSound hNodup.2 hLater hRest
      refine ⟨own, (k, node) :: left, ?_, ?_, ?_⟩
      · simp only [scanBoth, Except.mapError, bind, Except.bind, hCheck, hValue, hScan]
        simp
      · rwa [List.filter_cons, if_neg (by simp [hHeld])]
      · rw [List.filter_cons, if_pos (by simp [hHeld])]
        exact .cons hNode hLeft
    | some check =>
      have hHeld : fs.holds k = true := by simp [holds, hCheck]
      have hPass : check node = .ok () := hReads check hCheck node hNode
      have hSeen := any_seen_cons node hNodup.1 hLater
      obtain ⟨own, left, hScan, hOwn, hLeft⟩ :=
        ih ((k, node) :: seen) others hPasses hSound hNodup.2 hSeen hRest
      refine ⟨(k, node) :: own, left, ?_, ?_, ?_⟩
      · simp only [scanBoth, Except.mapError, bind, Except.bind, hCheck, hFirst,
          Bool.false_eq_true, if_false, hPass, hScan]
        simp
      · rw [List.filter_cons, if_pos hHeld]
        exact .cons hNode hOwn
      · rwa [List.filter_cons, if_neg (by simp [hHeld])]

theorem scanCollected_of_shown (seen : List (String × Node)) {nodes : List (String × Node)}
    (hFields : ∀ e ∈ members, ∀ check, fs.check e.1 = some check → Node.Reads check e.2 ())
    (hNodup : (members.map (·.1)).Nodup) (hNew : ∀ e ∈ members, seen.any (·.1 == e.1) = false)
    (hShows : Shows members nodes) :
    ∃ own, fs.scanCollected seen nodes = .ok (seen.reverse ++ own) ∧
      Shows (members.filter fun e => fs.holds e.1) own := by
  induction hShows generalizing seen with
  | nil => exact ⟨[], by simp [scanCollected], .nil⟩
  | @cons k v node rest behind hNode _ ih =>
    rw [List.map_cons, List.nodup_cons] at hNodup
    obtain ⟨hFirst, hLater⟩ := List.forall_mem_cons.1 hNew
    obtain ⟨hReads, hPasses⟩ := List.forall_mem_cons.1 hFields
    cases hCheck : fs.check k with
    | none =>
      obtain ⟨own, hScan, hOwn⟩ := ih seen hPasses hNodup.2 hLater
      refine ⟨own, ?_, ?_⟩
      · simp only [scanCollected, hCheck, hScan]
      · rwa [List.filter_cons, if_neg (by simp [holds, hCheck])]
    | some check =>
      have hPass : check node = .ok () := hReads check hCheck node hNode
      have hSeen := any_seen_cons node hNodup.1 hLater
      obtain ⟨own, hScan, hOwn⟩ := ih ((k, node) :: seen) hPasses hNodup.2 hSeen
      refine ⟨(k, node) :: own, ?_, ?_⟩
      · simp only [scanCollected, bind, Except.bind, hCheck, hFirst, Bool.false_eq_true, if_false,
          hPass, hScan]
        simp
      · rw [List.filter_cons, if_pos (by simp [holds, hCheck])]
        exact .cons hNode hOwn

end Scans

/-! ## Both records -/

section Both

variable {outer : Fields α} {inner : Fields β} {members : List (String × Json)} {a : α} {b : β}

theorem decodeCollected_of_shown {nodes : List (String × Node)} {p : String → Bool}
    (h : inner.Writes members b) (hNodup : (members.map (·.1)).Nodup)
    (hKeep : ∀ name, inner.holds name = true → p name = true)
    (hShows : Shows (members.filter fun e => p e.1) nodes) :
    inner.decodeCollected nodes = .ok b := by
  have hPart : ((members.filter fun e => p e.1).map (·.1)).Nodup :=
    hNodup.sublist (List.filter_sublist.map _)
  have hFields : ∀ e ∈ members.filter (fun e => p e.1), ∀ check, inner.check e.1 = some check →
      Node.Reads check e.2 () := fun e hMem => h.check_of_mem hNodup e (List.mem_filter.1 hMem).1
  obtain ⟨own, hScan, hOwn⟩ := scanCollected_of_shown [] hFields hPart (by simp) hShows
  refine bind_eq_ok.2 ⟨own, hScan, h.build own fun name hField => ?_⟩
  exact ((hOwn.finds name).of_filter hField).of_filter (hKeep name hField)

/-- **A record inside another one is read again with it**, if no field of the one has the name of a
field of the other. -/
theorem reads_decodeWith (hNodup : (members.map (·.1)).Nodup)
    (hOthers : ∀ e ∈ members, outer.check e.1 = none → e.2.Ordered)
    (hApart : ∀ name, inner.holds name = true → outer.holds name = false)
    (hOuter : outer.Writes members a) (hInner : inner.Writes members b) (record : String) :
    Node.Reads (decodeWith record outer inner) (.object members) (a, b) := by
  intro node hShown
  obtain ⟨start, depth, lead, nodes, stop, rfl, hEnter, hMembers⟩ := eq_object_of_shown hShown
  obtain ⟨own, left, hScan, hOwn, hLeft⟩ := scanBoth_of_shown [] []
    (hOuter.check_of_mem hNodup) hOthers hNodup (by simp) hMembers
  rw [List.reverse_nil, List.nil_append, List.nil_append] at hScan
  have hFirst : outer.build (.members own) = .ok a :=
    hOuter.build own fun name hField => (hOwn.finds name).of_filter hField
  have hSecond : inner.decodeCollected left = .ok b := by
    refine decodeCollected_of_shown (p := fun name => !outer.holds name) hInner hNodup ?_ hLeft
    intro name hField
    rw [hApart name hField]
    rfl
  refine bind_eq_ok.2 ⟨(), hEnter, bind_eq_ok.2 ⟨(own, left), hScan, ?_⟩⟩
  refine bind_eq_ok.2 ⟨a, mapError_eq_ok.2 hFirst, bind_eq_ok.2 ⟨b, mapError_eq_ok.2 hSecond, rfl⟩⟩

end Both

end Fields
end SessionReplay.Json
