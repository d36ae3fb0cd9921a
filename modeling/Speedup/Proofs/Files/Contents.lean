import Speedup.Proofs.Files.Writing

/-!
# What a run leaves at a place

A run that is not stopped has written all its documents. At every place it leaves the last one that
was put there, and where none was put the file from before (`fileAt?_run`). So the files after such
a run are known from its documents and their paths (`Step.documents`) alone, and two runs can be
compared without following either of them. A text is printed only by a step that prints it
(`printed_run_of_silent`). The log only grows, and holds nothing but the notes of the run and what
it has written (`mem_log_run`).
-/

namespace Speedup

open Files Ordered

/-! ## Documents of steps -/

namespace Step

def document? : Step → Option (List Path × Document)
  | .write within document => some (within, document)
  | _ => none

/-- The documents that steps write, each with its path seen from where the work is done. -/
def documents (steps : List Step) : List (List Path × Document) := steps.filterMap document?

@[simp] theorem documents_append (xs ys : List Step) :
    documents (xs ++ ys) = documents xs ++ documents ys := List.filterMap_append

@[simp] theorem documents_flatMap {β : Type} (f : β → List Step) (xs : List β) :
    documents (xs.flatMap f) = xs.flatMap fun x => documents (f x) := List.filterMap_flatMap

theorem documents_map_eq_nil {β : Type} {f : β → Step} (h : ∀ x, (f x).document? = none)
    (xs : List β) : documents (xs.map f) = [] := by
  simp [documents, List.filterMap_map, h]

theorem map_fst_documents (steps : List Step) : (documents steps).map (·.1) = written steps := by
  rw [documents, List.map_filterMap, written]
  refine List.filterMap_congr fun step _ => ?_
  cases step <;> rfl

def print? : Step → Option String
  | .print text => some text
  | _ => none

def prints (steps : List Step) : List String := steps.filterMap print?

@[simp] theorem prints_append (xs ys : List Step) : prints (xs ++ ys) = prints xs ++ prints ys :=
  List.filterMap_append

@[simp] theorem prints_flatMap {β : Type} (f : β → List Step) (xs : List β) :
    prints (xs.flatMap f) = xs.flatMap fun x => prints (f x) := List.filterMap_flatMap

theorem prints_map_eq_nil {β : Type} {f : β → Step} (h : ∀ x, (f x).print? = none) (xs : List β) :
    prints (xs.map f) = [] := by
  simp [prints, List.filterMap_map, h]

variable {t t' : Files.Tree Document} {root : Path} {place : Place} {steps : List Step}

/-- The documents that steps put at a place, in their order. -/
def documentsAt (t : Files.Tree Document) (root : Path) (place : Place) (steps : List Step) :
    List Document :=
  ((documents steps).filter fun d => t.placeOf (Path.below root d.1) = place).map (·.2)

theorem documentsAt_append (xs ys : List Step) : documentsAt t root place (xs ++ ys) =
    documentsAt t root place xs ++ documentsAt t root place ys := by
  simp [documentsAt]

theorem documentsAt_flatMap {β : Type} (f : β → List Step) (xs : List β) :
    documentsAt t root place (xs.flatMap f) =
      xs.flatMap fun x => documentsAt t root place (f x) := by
  simp only [documentsAt, documents_flatMap, List.filter_flatMap, List.map_flatMap]

theorem documentsAt_eq_nil_iff :
    documentsAt t root place steps = [] ↔ place ∉ places t root steps := by
  rw [documentsAt, List.map_eq_nil_iff, List.filter_eq_nil_iff, places, ← map_fst_documents,
    List.map_map]
  simp

theorem documentsAt_congr {changed : List Place} (same : Tree.SameUpTo changed t t')
    (steps : List Step) : documentsAt t' root place steps = documentsAt t root place steps := by
  simp only [documentsAt, same.placeOf]

end Step

/-! ## One document -/

theorem Files.Tree.fileAt?_bare {α : Type} (working place : Place) :
    (bare working : Tree α).fileAt? place = none := by
  apply Tree.fileAt?_eq_none_of
  intro content found
  unfold Tree.at? at found
  split at found
  · cases found
  · rw [bare, Table.get?_ofList] at found
    have there := List.mem_of_getLast? found
    simp [Table.valuesUnder] at there

theorem Files.Tree.fileAt?_put_file {α : Type} {t : Tree α} {place : Place}
    (no_folder : t.at? place ≠ some .folder) (content : α) (q : Place) :
    (t.put place (.file content)).fileAt? q = if q = place then some content else t.fileAt? q := by
  split
  next same =>
    subst same
    rw [Tree.fileAt?_eq_some_iff, Tree.at?_put_self]
    rintro rfl
    exact no_folder rfl
  next other => exact (Tree.SameUpTo.put_file no_folder content).file q (by simpa using other)

theorem Files.fileAt?_writeDocument {t : Files.Tree Document} {p : Path} {document : Document}
    (done : (writeDocument t p document).failure = none) (place : Place) :
    (writeDocument t p document).tree.fileAt? place =
      if place = t.placeOf p then some document else t.fileAt? place := by
  obtain ⟨made, same, ⟨_, failed⟩ | ⟨written, _⟩⟩ := writeDocument_cases t p document
  · exact absurd done failed
  · obtain ⟨_, _, no_folder, put⟩ := Tree.writeFile_eq_ok written
    rw [put, Tree.fileAt?_put_file no_folder, same.placeOf, same.file place List.not_mem_nil]

theorem Files.Tree.fits_of_walk {α : Type} {t : Tree α} {place q : Place} {segments : List String}
    (h : t.walk place segments = .ok q) : ∀ segment ∈ segments, Fits segment := by
  induction segments generalizing place with
  | nil => exact nofun
  | cons segment rest ih =>
      obtain ⟨next, first, later⟩ := walk_cons_eq_ok_iff.mp h
      exact List.forall_mem_cons.mpr ⟨(follow_eq_ok_iff.mp first).2.1, ih later⟩

/-- A document is written only under names that are not too long. -/
theorem Files.fits_of_writeDocument {t : Files.Tree Document} {p : Path} {document : Document}
    (done : (writeDocument t p document).failure = none) :
    ∀ segment ∈ p.segments, Tree.Fits segment := by
  obtain ⟨_, place, walked, _⟩ :=
    Tree.find_eq_ok_iff.mp (Tree.read_eq_ok_iff.mp (read_writeDocument done))
  exact Tree.fits_of_walk walked

/-! ## A run -/

namespace Progress

variable {root : Path} {p : Progress} {step : Step} {steps : List Step}

theorem failure_take_of_run (done : (p.run root (step :: steps)).failure = none) :
    (p.take root step).failure = none := by
  by_contra failed
  have stopped : (p.take root step).run root steps = p.take root step :=
    run_of_failure (Option.isSome_iff_ne_none.mpr failed) steps
  rw [show p.run root (step :: steps) = (p.take root step).run root steps from rfl, stopped] at done
  exact failed done

/-- A step that does not fail puts its document at its place and changes nothing else. -/
theorem fileAt?_take (ready : p.failure = none) (done : (p.take root step).failure = none)
    (place : Place) : (p.take root step).tree.fileAt? place =
      (Step.documentsAt p.tree root place [step]).getLast?.or (p.tree.fileAt? place) := by
  unfold take at *
  rw [if_neg (by simp [ready])] at *
  cases step with
  | note entry => rfl
  | print text => rfl
  | write within document =>
      have written : (p.write (Path.below root within) document).failure = none := done
      rw [failure_write] at written
      show (p.write (Path.below root within) document).tree.fileAt? place = _
      rw [tree_write, fileAt?_writeDocument written]
      by_cases here : p.tree.placeOf (Path.below root within) = place
      · simp [Step.documentsAt, Step.documents, Step.document?, here]
      · simp [Step.documentsAt, Step.documents, Step.document?, here, Ne.symm here]

/-- A run that does not fail leaves at every place the last document that was put there, or what
was there before. -/
theorem fileAt?_run (ready : p.failure = none) (done : (p.run root steps).failure = none)
    (place : Place) : (p.run root steps).tree.fileAt? place =
      (Step.documentsAt p.tree root place steps).getLast?.or (p.tree.fileAt? place) := by
  induction steps generalizing p with
  | nil => rfl
  | cons step rest ih =>
      have taken := failure_take_of_run done
      have later : Step.documentsAt (p.take root step).tree root place rest =
          Step.documentsAt p.tree root place rest :=
        Step.documentsAt_congr (take_sameUpTo root p step) rest
      have parts : Step.documentsAt p.tree root place (step :: rest) =
          Step.documentsAt p.tree root place [step] ++ Step.documentsAt p.tree root place rest :=
        Step.documentsAt_append [step] rest
      show ((p.take root step).run root rest).tree.fileAt? place = _
      rw [ih taken done, fileAt?_take ready taken, later, parts, List.getLast?_append,
        Option.or_assoc]

/-- A run that does not fail has no document with a name that is too long. -/
theorem fits_of_run (ready : p.failure = none) (done : (p.run root steps).failure = none)
    {within : List Path} (written : within ∈ Step.written steps) :
    ∀ segment ∈ (Path.below root within).segments, Tree.Fits segment := by
  induction steps generalizing p with
  | nil => cases written
  | cons step rest ih =>
      have taken := failure_take_of_run done
      cases step with
      | note entry => exact ih taken done written
      | print text => exact ih taken done written
      | write path document =>
          obtain rfl | later := List.mem_cons.mp written
          · unfold take at taken
            rw [if_neg (by simp [ready])] at taken
            exact fits_of_writeDocument ((failure_write p _ document).symm.trans taken)
          · exact ih taken done later

/-! ## What is printed -/

theorem printed_take_of_silent (silent : step.print? = none) (p : Progress) :
    (p.take root step).printed = p.printed := by
  unfold take
  split
  · rfl
  · cases step with
    | note entry => rfl
    | print text => cases silent
    | write within document =>
        simp only [write]
        split <;> rfl

theorem printed_run_of_silent (silent : Step.prints steps = []) (p : Progress) :
    (p.run root steps).printed = p.printed := by
  induction steps generalizing p with
  | nil => rfl
  | cons step rest ih =>
      have silent_step : step.print? = none :=
        List.filterMap_eq_nil_iff.mp silent step List.mem_cons_self
      have silent_rest : Step.prints rest = [] := by
        rwa [Step.prints, List.filterMap_cons_none silent_step] at silent
      exact (ih silent_rest _).trans (printed_take_of_silent silent_step p)

/-- A run that prints one text, right after a document, either fails without printing anything or
prints the text; then the document is there in the end, unless a later one takes its place. -/
theorem printed_run_of_once {before after : List Step} {within : List Path} {document : Document}
    {text : String} (parts : steps = before ++ .write within document :: .print text :: after)
    (silent : Step.prints before = []) (silent' : Step.prints after = [])
    {t : Files.Tree Document}
    (apart : t.placeOf (Path.below root within) ∉ Step.places t root after) :
    let q := (start t).run root steps
    (q.failure ≠ none ∧ q.printed = "") ∨
      (q.printed = text ∧ q.tree.read (Path.below root within) = .ok document) := by
  intro q
  set front := (start t).run root (before ++ [.write within document]) with front_def
  have rest : q = (front.take root (.print text)).run root after := by
    have split := run_append root (start t) (before ++ [.write within document])
      (.print text :: after)
    rwa [← List.append_cons, ← parts] at split
  have nothing_yet : front.printed = "" := by
    rw [front_def, run_concat, printed_take_of_silent rfl, printed_run_of_silent silent]
    rfl
  by_cases done : front.failure = none
  · refine .inr ⟨?_, ?_⟩
    · rw [rest, printed_run_of_silent silent', take, if_neg (by simp [done])]
      show front.printed ++ text = text
      rw [nothing_yet, String.empty_append]
    · show ((start t).run root steps).tree.read _ = _
      rw [parts]
      exact read_run done apart
  · have failed : front.failure.isSome := Option.isSome_iff_ne_none.mpr done
    have stays : front.take root (.print text) = front := by simp [take, failed]
    rw [rest, stays, run_of_failure failed]
    exact .inl ⟨done, nothing_yet⟩

theorem failure_eq_none_of_append {front back : List Step}
    (done : (p.run root (front ++ back)).failure = none) : (p.run root front).failure = none := by
  by_contra failed
  rw [run_append, run_of_failure (Option.isSome_iff_ne_none.mpr failed)] at done
  exact failed done

/-- Where all documents are kept, each of them can be read after a run that does not fail. -/
theorem KeepsAll.read_of_mem {t : Files.Tree Document} (kept : KeepsAll t root steps)
    (done : ((start t).run root steps).failure = none) {within : List Path} {document : Document}
    (mem : (within, document) ∈ Step.documents steps) :
    ((start t).run root steps).tree.read (Path.below root within) = .ok document := by
  obtain ⟨step, there, writes⟩ := List.mem_filterMap.mp mem
  cases step with
  | write within' document' =>
      cases writes
      obtain ⟨before, after, parts⟩ := List.append_of_mem there
      rw [parts, List.append_cons] at done
      exact kept.kept before within document after parts (failure_eq_none_of_append done)
  | note entry => cases writes
  | print text => cases writes

/-! ## The log and the failure -/

theorem take_note (ready : p.failure = none) (entry : Log.Entry) :
    p.take root (.note entry) = p.note entry := by
  simp [take, ready]

/-- Notes are logged one after the other, and nothing else happens. -/
theorem run_notes (ready : p.failure = none) (entries : List Log.Entry) :
    p.run root (entries.map .note) = { p with log := p.log ++ entries } := by
  induction entries generalizing p with
  | nil => simp [run]
  | cons entry rest ih =>
      show (p.take root (.note entry)).run root (rest.map .note) = _
      rw [take_note ready, ih (p := p.note entry) ready]
      simp [note]

theorem log_prefix_take (root : Path) (p : Progress) (step : Step) :
    p.log <+: (p.take root step).log := by
  unfold take
  split
  · exact List.prefix_rfl
  · cases step with
    | note entry => exact List.prefix_append _ _
    | print text => exact List.prefix_rfl
    | write within document =>
        simp only [write]
        split
        · exact List.prefix_rfl
        · exact List.prefix_append _ _

theorem log_prefix_run (root : Path) (p : Progress) (steps : List Step) :
    p.log <+: (p.run root steps).log := by
  induction steps generalizing p with
  | nil => exact List.prefix_rfl
  | cons step rest ih => exact (log_prefix_take root p step).trans (ih _)

theorem mem_log_take {entry : Log.Entry} (h : entry ∈ (p.take root step).log) :
    entry ∈ p.log ∨ step = .note entry ∨ ∃ path, entry = writtenNote path := by
  unfold take at h
  split at h
  · exact .inl h
  · cases step with
    | note other =>
        obtain before | same := List.mem_append.mp h
        · exact .inl before
        · exact .inr (.inl (by rw [List.mem_singleton.mp same]))
    | print text => exact .inl h
    | write within document =>
        simp only [write] at h
        split at h
        · exact .inl h
        · obtain before | same := List.mem_append.mp h
          · exact .inl before
          · exact .inr (.inr ⟨_, List.mem_singleton.mp same⟩)

/-- Besides its notes a run logs only what it has written. -/
theorem mem_log_run {entry : Log.Entry} (h : entry ∈ (p.run root steps).log) :
    entry ∈ p.log ∨ .note entry ∈ steps ∨ ∃ path, entry = writtenNote path := by
  induction steps generalizing p with
  | nil => exact .inl h
  | cons step rest ih =>
      obtain taken | later | written := ih h
      · obtain before | rfl | written := mem_log_take taken
        · exact .inl before
        · exact .inr (.inl List.mem_cons_self)
        · exact .inr (.inr written)
      · exact .inr (.inl (List.mem_cons_of_mem _ later))
      · exact .inr (.inr written)

end Progress

end Speedup
