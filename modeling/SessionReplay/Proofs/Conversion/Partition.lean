import SessionReplay.Proofs.Conversion.Stuck

/-!
# Converting a folder divides it

* `Sources`: recordings, each in a place of its own.
* `Progress`: what holds after some of them were converted or failed.
* `Progress.next`, `Progress.run`: the next one, and all of them.
-/

namespace SessionReplay

open Storage

/-- Recordings to be converted, each in a place of its own. -/
structure Sources (c : Converter) (d : Disk) (paths : List String) : Prop where
  source : ∀ path ∈ paths, Source c d path
  nodup : (paths.map d.locate).Nodup

namespace Sources

variable {c : Converter} {d : Disk} {done : List String} {path : String}

theorem init {more : List String} (h : Sources c d (done ++ more)) : Sources c d done where
  source other hMem := h.source other (List.mem_append_left _ hMem)
  nodup := by
    have hNodup := h.nodup
    rw [List.map_append] at hNodup
    exact (List.nodup_append.1 hNodup).1

/-- The place of one more recording is another one. -/
theorem apart (h : Sources c d (done ++ [path])) {other : String} (hOther : other ∈ done) :
    d.locate path ≠ d.locate other := by
  have hNodup := h.nodup
  rw [List.map_append, List.nodup_append] at hNodup
  exact Ne.symm (hNodup.2.2 _ (List.mem_map_of_mem hOther) _ (by simp))

end Sources

namespace Batch

def sources (batch : Batch) : List String := batch.converted.map (·.source)

def failures (batch : Batch) : List String := batch.failed.map (·.source)

/-- The places of the files that a batch changes. -/
def Touches (batch : Batch) (c : Converter) (d : Disk) (place : Place) : Prop :=
  place = d.locate c.log ∨
    ∃ x ∈ batch.converted, place = d.locate x.source ∨ place = d.locate x.script

/-- One more recording that is converted has two files of its own. -/
theorem touches_snoc {batch : Batch} {c : Converter} {d : Disk} {x : Converted} {place : Place} :
    Touches { batch with converted := batch.converted ++ [x] } c d place ↔
      batch.Touches c d place ∨ place = d.locate x.source ∨ place = d.locate x.script := by
  simp only [Touches, List.mem_append, List.mem_singleton, or_and_right, exists_or,
    exists_eq_left, or_assoc]

end Batch

/-- The script of a recording holds what that recording compiles to. -/
def Written (c : Converter) (d d' : Disk) (x : Converted) : Prop :=
  ∃ stem r, Compiles d x.source stem r ∧
    x = ⟨x.source, c.scriptPath stem, (Script.ofRecording r stem).diagnostics.length⟩ ∧
    d'.readText x.script = .ok (Script.ofRecording r stem).source

/-- What holds after some recordings were converted or failed. -/
structure Progress (c : Converter) (d : Disk) (done : List String) (batch : Batch) (d' : Disk) :
    Prop where
  converted : batch.sources.Sublist done
  failed : batch.failures.Sublist done
  divided : (batch.sources ++ batch.failures).Perm done
  named : ∀ x ∈ batch.converted, ∃ stem, x.script = c.scriptPath stem
  changes : d.ChangesOnly (batch.Touches c d) d'
  gone : ∀ x ∈ batch.converted, d'.has x.source = false
  stuck : ∀ x ∈ batch.failed, ∃ first again, x.message = first.message ∧
    Echoes c first again ∧ Stuck c d' x.source again
  /-- Once a recording is converted, the folder for scripts is there. -/
  ready : batch.converted ≠ [] → d'.makeFolders c.output = (.ok (), d')
  /-- Of the recordings that share a script, the last one is in it. -/
  written : ∀ before x after, batch.converted = before ++ x :: after →
    (∀ y ∈ after, y.script ≠ x.script) → Written c d d' x

namespace Progress

variable {c : Converter} {d d' d'' : Disk} {done : List String} {batch : Batch} {path : String}

theorem start (hLog : d.Rewrites (d.locate c.log) d') : Progress c d [] {} d' where
  converted := List.Sublist.refl _
  failed := List.Sublist.refl _
  divided := List.Perm.refl _
  named := by simp
  changes := hLog.changesOnly.mono fun _ => .inl
  gone := by simp
  stuck := by simp
  ready := by simp
  written := by simp

/-- What was converted and what failed stays so while other files change. -/
theorem carry {touched : Place → Prop} (hApart : c.Apart d) (hSources : Sources c d done)
    (h : Progress c d done batch d') (hPassage : Passage c touched d' d'')
    (hDone : ∀ path ∈ done, ¬ touched (d.locate path)) :
    (∀ x ∈ batch.converted, d''.has x.source = false) ∧
    (∀ x ∈ batch.failed, ∃ first again, x.message = first.message ∧
      Echoes c first again ∧ Stuck c d'' x.source again) ∧
    (batch.converted ≠ [] → d''.makeFolders c.output = (.ok (), d'')) ∧
    (∀ x ∈ batch.converted, Written c d d' x → ¬ touched (d.locate x.script) →
      Written c d d'' x) := by
  have hHome := h.changes.home
  have hEdits : ∀ x ∈ batch.converted, d''.makeFolders c.output = (.ok (), d'') ∧
      d'.Edits (fun place => place = d'.locate c.log ∨ touched place) d'' :=
    fun x hMem => ready_passage (h.ready (List.ne_nil_of_mem hMem)) hPassage
  have hFailed : ∀ x ∈ batch.failed, x.source ∈ done := fun x hMem =>
    h.failed.subset (List.mem_map_of_mem hMem)
  have hConverted : ∀ x ∈ batch.converted, x.source ∈ done := fun x hMem =>
    h.converted.subset (List.mem_map_of_mem hMem)
  refine ⟨?_, ?_, ?_, ?_⟩
  · intro x hMem
    refine Disk.not_has_edits (hEdits x hMem).2 (h.gone x hMem) ?_
    simp only [Disk.locate_eq_of_home hHome]
    rintro (hSame | hTouched)
    · exact (hSources.source _ (hConverted x hMem)).log hSame.symm
    · exact hDone _ (hConverted x hMem) hTouched
  · intro x hMem
    obtain ⟨first, again, hMessage, hEchoes, hStuck⟩ := h.stuck x hMem
    have hLog := (hSources.source _ (hFailed x hMem)).log
    have hOther := hDone _ (hFailed x hMem)
    simp only [← Disk.locate_eq_of_home hHome] at hLog hOther
    obtain ⟨third, hStuck', hEchoes'⟩ :=
      hStuck.passage (hApart.changes h.changes) hPassage hLog hOther
    exact ⟨first, third, hMessage, hEchoes.trans hEchoes', hStuck'⟩
  · intro hSome
    exact (ready_passage (h.ready hSome) hPassage).1
  · rintro x hMem ⟨stem, r, hCompiles, hEq, hRead⟩ hOther
    refine ⟨stem, r, hCompiles, hEq, Disk.readText_mono (hEdits x hMem).2.changesOnly hRead ?_⟩
    simp only [Disk.locate_eq_of_home hHome]
    rintro (hSame | hTouched)
    · obtain ⟨stem', hScript⟩ := h.named x hMem
      rw [hScript] at hSame
      exact hApart.script stem' hSame.symm
    · exact hOther hTouched

/-- The next recording is as it was. -/
theorem source_next (hSources : Sources c d (done ++ [path])) (h : Progress c d done batch d') :
    ¬ batch.Touches c d (d.locate path) := by
  have hSource := hSources.source path (by simp)
  rintro (hSame | ⟨x, hMem, hSame | hSame⟩)
  · exact hSource.log hSame.symm
  · have hDone := h.converted.subset (List.mem_map_of_mem hMem)
    exact hSources.apart hDone hSame
  · obtain ⟨stem, hScript⟩ := h.named x hMem
    rw [hScript] at hSame
    exact hSource.script stem hSame.symm

/-- One more recording that fails. -/
theorem next_failed {h h' : Host} {failure : ConversionFailure} (hApart : c.Apart d)
    (hSources : Sources c d (done ++ [path])) (hProgress : Progress c d done batch h.disk)
    (hConvert : c.convert path h = (.error failure, h')) :
    Progress c d (done ++ [path])
      { batch with failed := batch.failed ++ [⟨path, failure.message⟩] }
      (h'.log c.log failure.message).disk := by
  have hChanges := hProgress.changes
  have hSource := (hSources.source path (by simp)).changes hChanges
    (hProgress.source_next hSources)
  obtain ⟨hPassage, again, hStuck, hEchoes⟩ :=
    Converter.stuck_of_convert (hApart.changes hChanges) hSource hConvert
  have hLogOnly : ∀ place, c.LogOnly h.disk place → place = d.locate c.log := by
    intro place hPlace
    rwa [Converter.LogOnly, Disk.locate_eq_of_home hChanges.home] at hPlace
  obtain ⟨hGone, hFailed, hReady, hWritten⟩ := hProgress.carry hApart hSources.init hPassage
    fun other hMem hPlace => (hSources.source other (by simp [hMem])).log (hLogOnly _ hPlace).symm
  refine ⟨hProgress.converted.trans (List.sublist_append_left _ _), ?_, ?_, hProgress.named, ?_,
    hGone, ?_, hReady, ?_⟩
  · simpa [Batch.failures] using hProgress.failed.append (List.Sublist.refl [path])
  · have hPerm := hProgress.divided.append_right [path]
    simpa [Batch.failures, Batch.sources] using hPerm
  · refine hChanges.trans (hPassage.changesOnly.mono fun place hPlace => ?_)
    rcases hPlace with hPlace | hPlace
    · exact .inl (hLogOnly place hPlace)
    · exact .inl (hLogOnly place hPlace)
  · intro x hMem
    rcases List.mem_append.1 hMem with hMem | hMem
    · exact hFailed x hMem
    · obtain rfl := List.mem_singleton.1 hMem
      exact ⟨failure, again, rfl, hEchoes, hStuck⟩
  · intro before x after hSplit hLast
    have hMem : x ∈ batch.converted := by
      change batch.converted = _ at hSplit
      rw [hSplit]
      simp
    refine hWritten x hMem (hProgress.written before x after hSplit hLast) fun hPlace => ?_
    obtain ⟨stem, hScript⟩ := hProgress.named x hMem
    have hSame := hLogOnly _ hPlace
    rw [hScript] at hSame
    exact hApart.script stem hSame.symm

/-- One more script that is written replaces no other but the one of its own name. -/
theorem written_snoc (h : Progress c d done batch d') {converted : Converted}
    (hNew : Written c d d'' converted)
    (hOld : ∀ x ∈ batch.converted, Written c d d' x → converted.script ≠ x.script →
      Written c d d'' x)
    {before after : List Converted} {x : Converted}
    (hSplit : batch.converted ++ [converted] = before ++ x :: after)
    (hLast : ∀ y ∈ after, y.script ≠ x.script) : Written c d d'' x := by
  rcases List.eq_nil_or_concat after with rfl | ⟨after, y, rfl⟩
  · obtain ⟨-, hSame⟩ := List.append_inj' hSplit rfl
    obtain rfl := List.singleton_inj.1 hSame
    exact hNew
  · rw [List.concat_eq_append, ← List.cons_append, ← List.append_assoc] at hSplit
    obtain ⟨hBefore, hSame⟩ := List.append_inj' hSplit rfl
    obtain rfl := List.singleton_inj.1 hSame
    have hMem : x ∈ batch.converted := by rw [hBefore]; simp
    have hWritten := h.written before x after hBefore fun z hz => hLast z (by simp [hz])
    exact hOld x hMem hWritten (hLast converted (by simp))

/-- One more recording that is converted. -/
theorem next_converted {h h' : Host} {converted : Converted} (hApart : c.Apart d)
    (hSources : Sources c d (done ++ [path])) (hProgress : Progress c d done batch h.disk)
    (hConvert : c.convert path h = (.ok converted, h')) :
    Progress c d (done ++ [path]) { batch with converted := batch.converted ++ [converted] }
      h'.disk := by
  have hChanges := hProgress.changes
  have hUntouched := hProgress.source_next hSources
  have hSource := hSources.source path (by simp)
  obtain ⟨stem, r, hCompiles, hEq, hPassage, hRead, hGone', hReady'⟩ :=
    Converter.gone_of_convert (hApart.changes hChanges) (hSource.changes hChanges hUntouched)
      hConvert
  have hPath : converted.source = path := by rw [hEq]
  have hScript : converted.script = c.scriptPath stem := by rw [hEq]
  have hCompiled := hCompiles.before hChanges hSource hUntouched
  have hTouches : ∀ place, Converter.Touches c h.disk path (c.scriptPath stem) place →
      Converter.Touches c d path (c.scriptPath stem) place := by
    intro place hPlace
    simpa only [Converter.Touches, Disk.locate_eq_of_home hChanges.home] using hPlace
  obtain ⟨hGone, hFailed, -, hWritten⟩ := hProgress.carry hApart hSources.init hPassage (by
    intro other hMem hPlace
    have hOther := hSources.source other (by simp [hMem])
    rcases hTouches _ hPlace with hSame | hSame | hSame
    · exact hOther.log hSame.symm
    · exact hSources.apart hMem hSame.symm
    · exact hOther.script stem hSame.symm)
  refine ⟨?_, hProgress.failed.trans (List.sublist_append_left _ _), ?_, ?_, ?_, ?_, hFailed,
    fun _ => hReady', ?_⟩
  · simpa [Batch.sources, hPath] using hProgress.converted.append (List.Sublist.refl [path])
  · have hPerm := hProgress.divided.append_right [path]
    refine List.Perm.trans ?_ hPerm
    simp only [Batch.sources, Batch.failures, List.map_append, List.map_cons, List.map_nil,
      List.append_assoc, hPath]
    exact List.perm_append_comm.append_left _
  · intro x hMem
    rcases List.mem_append.1 hMem with hMem | hMem
    · exact hProgress.named x hMem
    · obtain rfl := List.mem_singleton.1 hMem
      exact ⟨stem, hScript⟩
  · refine (hChanges.mono fun place hPlace => Batch.touches_snoc.2 (.inl hPlace)).trans
      (hPassage.changesOnly.mono fun place hPlace => Batch.touches_snoc.2 ?_)
    rcases hPlace with hSame | hPlace
    · exact .inl (.inl (hSame.trans (Disk.locate_eq_of_home hChanges.home _)))
    · rcases hTouches place hPlace with hSame | hSame
      · exact .inl (.inl hSame)
      · rw [← hPath, ← hScript] at hSame
        exact .inr hSame
  · intro x hMem
    rcases List.mem_append.1 hMem with hMem | hMem
    · exact hGone x hMem
    · obtain rfl := List.mem_singleton.1 hMem
      rwa [hPath]
  · intro before x after hSplit hLast
    have hNew : Written c d h'.disk converted := by
      rw [← hPath] at hCompiled hEq
      rw [← hScript] at hRead
      exact ⟨stem, r, hCompiled, hEq, hRead⟩
    refine hProgress.written_snoc hNew (fun x hMem hOld hOther => ?_) hSplit hLast
    refine hWritten x hMem hOld fun hPlace => ?_
    obtain ⟨stem', hScript'⟩ := hProgress.named x hMem
    rw [hScript, hScript'] at hOther
    rw [hScript'] at hPlace
    rcases hTouches _ hPlace with hSame | hSame | hSame
    · exact hApart.script stem' hSame.symm
    · exact hSource.script stem' hSame
    · exact hOther (c.scriptPath_inj d hSame).symm

/-- **One more recording.** -/
theorem next {state : Batch × Host} (hApart : c.Apart d) (hSources : Sources c d (done ++ [path]))
    (h : Progress c d done state.1 state.2.disk) :
    Progress c d (done ++ [path]) (c.convertNext state path).1
      (c.convertNext state path).2.disk := by
  obtain ⟨batch, host⟩ := state
  cases hConvert : c.convert path host with
  | mk result host' =>
    cases result with
    | error failure =>
      simp only [Converter.convertNext, hConvert]
      exact h.next_failed hApart hSources hConvert
    | ok converted =>
      simp only [Converter.convertNext, hConvert]
      exact h.next_converted hApart hSources hConvert

/-- **All recordings, one after the other.** -/
theorem run (state : Batch × Host) {todo : List String} (hApart : c.Apart d)
    (hSources : Sources c d (done ++ todo)) (h : Progress c d done state.1 state.2.disk) :
    Progress c d (done ++ todo) (todo.foldl c.convertNext state).1
      (todo.foldl c.convertNext state).2.disk := by
  induction todo generalizing done state with
  | nil => simpa using h
  | cons path todo ih =>
    rw [List.append_cons] at hSources ⊢
    exact ih _ hSources (h.next hApart hSources.init)

end Progress
end SessionReplay
