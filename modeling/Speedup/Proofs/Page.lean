import Speedup.Calendar
import Speedup.Chart.Boxes
import Speedup.Page
import Speedup.Proofs.Text.Substitution

/-!
# What a page is made of

A page has four texts in the places of its marks, and what stands between them keeps the marks of
one text from reaching into the next (`replaceEach_laidOut`). So the marks of a page can be followed
text by text. Filled in one after the other, scripts, plot and time also come into the title, and
the time into the plot, wherever these have marks themselves; all of them are longer than their
marks. So the page is the template with all its marks replaced at once exactly where there are no
such marks (`fills_html`).
-/

namespace Speedup

theorem Calendar.length_padded (width n : Nat) : width ≤ (padded width n).length := by
  rw [padded, String.length_ofList, Text.zeroPadded, List.length_append, List.length_replicate]
  omega

namespace Page

/-- A page with four texts in the places of its marks. -/
def laidOut (title head plot time : String) : String :=
  "<!DOCTYPE html>\n<html>\n<head>\n    <meta charset=\"utf-8\">\n    <title>" ++ title ++
    "</title>\n    " ++ head ++ "\n</head>\n<body>\n    " ++ plot ++
    "\n    <p style=\"font-family: sans-serif; font-size: small; color: #444\">Generated " ++
    time ++ "</p>\n</body>\n</html>"

theorem template_eq_laidOut : template = laidOut titleMark headMark bodyMark timeMark := rfl

def marks : List String := [titleMark, headMark, bodyMark, timeMark]

def texts (title plot time : String) : List (String × String) :=
  [(titleMark, title), (headMark, head), (bodyMark, plot), (timeMark, time)]

/-- The template with its marks replaced at once. -/
def filledAtOnce (title plot time : String) : String :=
  Text.replaceEach (texts title plot time) template

variable {pairs : List (String × String)} {mark by' title plot time : String}

/-! ## Marks in the parts of a page -/

theorem opened_marks : ∀ m ∈ marks, ∃ rest, m.toList = '\x7b' :: rest := by
  simp only [marks, List.forall_mem_cons]
  exact ⟨⟨_, rfl⟩, ⟨_, rfl⟩, ⟨_, rfl⟩, ⟨_, rfl⟩, nofun⟩

theorem angle_not_mem_marks : ∀ m ∈ marks, '<' ∉ m.toList := by decide

theorem newline_not_mem_marks : ∀ m ∈ marks, '\n' ∉ m.toList := by decide

theorem not_occurs_marks : ∀ m ∈ marks, ∀ m' ∈ marks, m ≠ m' → ¬ Text.Occurs m m' := by decide

/-- What stands between the texts of a page separates their marks. -/
theorem replaceEach_laidOut (only : pairs.map (·.1) ⊆ marks) (title head plot time : String) :
    Text.replaceEach pairs (laidOut title head plot time) =
      laidOut (Text.replaceEach pairs title) (Text.replaceEach pairs head)
        (Text.replaceEach pairs plot) (Text.replaceEach pairs time) := by
  -- each piece begins with a character that no mark has, and no mark begins inside of it
  have angle {s : String} {rest : List Char} (parts : s.toList = '<' :: rest)
      (plain : '\x7b' ∉ s.toList) : Text.Divides '\x7b' (pairs.map (·.1)) s :=
    .of_subset ⟨opened_marks, plain, _, _, parts, angle_not_mem_marks⟩ only
  have newline {s : String} {rest : List Char} (parts : s.toList = '\n' :: rest)
      (plain : '\x7b' ∉ s.toList) : Text.Divides '\x7b' (pairs.map (·.1)) s :=
    .of_subset ⟨opened_marks, plain, _, _, parts, newline_not_mem_marks⟩ only
  unfold laidOut
  rw [Text.replaceEach_append_right (angle rfl (by decide)),
    Text.replaceEach_append (newline rfl (by decide)),
    Text.replaceEach_append (newline rfl (by decide)),
    Text.replaceEach_append (angle rfl (by decide)),
    Text.replaceEach_append_left (angle rfl (by decide))]

theorem filledAtOnce_eq (title plot time : String) :
    filledAtOnce title plot time = laidOut title head plot time := by
  have only : (texts title plot time).map (·.1) = marks := rfl
  have own {mark by' : String} (there : (mark, by') ∈ texts title plot time) :
      Text.replaceEach (texts title plot time) mark = by' := by
    have known : mark ∈ marks := only ▸ List.mem_map_of_mem there
    refine Text.replaceEach_mark ?_ there (only ▸ by decide) fun p hp => ?_
    · rintro rfl
      exact absurd known (by decide)
    · exact not_occurs_marks p.1 (only ▸ List.mem_map_of_mem hp) mark known
  rw [filledAtOnce, template_eq_laidOut, replaceEach_laidOut (only ▸ List.Subset.refl _)]
  congr 1 <;> exact own (by simp [texts])

/-! ## Marks filled in one after the other -/

/-- A title after the marks in it have been filled in as well. -/
def refilled (title plot time : String) : String :=
  Text.replaceAll timeMark time <|
    Text.replaceAll bodyMark plot <|
      Text.replaceAll headMark head title

theorem replaceAll_laidOut (known : mark ∈ marks) (by' title head plot time : String) :
    Text.replaceAll mark by' (laidOut title head plot time) =
      laidOut (Text.replaceAll mark by' title) (Text.replaceAll mark by' head)
        (Text.replaceAll mark by' plot) (Text.replaceAll mark by' time) := by
  simp only [Text.replaceAll_eq_replaceEach]
  exact replaceEach_laidOut (by simpa using known) title head plot time

theorem not_occurs_head : ∀ m ∈ marks, ¬ Text.Occurs m head := by
  intro m hm occurs
  obtain ⟨_, begins⟩ := opened_marks m hm
  have brace : '\x7b' ∈ m.toList := begins ▸ List.mem_cons_self
  have plain : '\x7b' ∉ head.toList := by decide +kernel
  exact plain (occurs.subset brace)

theorem fill_eq (title plot time : String) : fill title plot time =
    laidOut (refilled title plot time) head (Text.replaceAll timeMark time plot) time := by
  have own {m : String} (hm : m ∈ marks) (by' : String) : Text.replaceAll m by' m = by' := by
    refine Text.replaceAll_mark ?_ by'
    rintro rfl
    exact absurd hm (by decide)
  have other {m m' : String} (hm : m ∈ marks) (hm' : m' ∈ marks) (ne : m ≠ m') (by' : String) :
      Text.replaceAll m by' m' = m' :=
    Text.replaceAll_of_not_occurs (not_occurs_marks m hm m' hm' ne)
  have scripts {m : String} (hm : m ∈ marks) (by' : String) : Text.replaceAll m by' head = head :=
    Text.replaceAll_of_not_occurs (not_occurs_head m hm)
  have title_known : titleMark ∈ marks := by decide
  have head_known : headMark ∈ marks := by decide
  have body_known : bodyMark ∈ marks := by decide
  have time_known : timeMark ∈ marks := by decide
  have titled : Text.replaceAll titleMark title template =
      laidOut title headMark bodyMark timeMark := by
    rw [template_eq_laidOut, replaceAll_laidOut title_known, own title_known,
      other title_known head_known (by decide), other title_known body_known (by decide),
      other title_known time_known (by decide)]
  rw [fill, titled, replaceAll_laidOut head_known, own head_known,
    other head_known body_known (by decide), other head_known time_known (by decide),
    replaceAll_laidOut body_known, scripts body_known, own body_known,
    other body_known time_known (by decide),
    replaceAll_laidOut time_known, scripts time_known, own time_known, refilled]

/-! ## Marks in what is filled in -/

/-- The marks that are filled in behind the title. -/
def laterMarks : List String := [headMark, bodyMark, timeMark]

theorem refilled_of_not_occurs (h : ∀ m ∈ laterMarks, ¬ Text.Occurs m title) (plot time : String) :
    refilled title plot time = title := by
  have head_out := h headMark (by decide)
  have body_out := h bodyMark (by decide)
  have time_out := h timeMark (by decide)
  rw [refilled, Text.replaceAll_of_not_occurs head_out, Text.replaceAll_of_not_occurs body_out,
    Text.replaceAll_of_not_occurs time_out]

theorem length_head : headMark.length < head.length := by decide +kernel

theorem length_body (id plot : String) : bodyMark.length < (body id plot).length := by
  have ends : bodyMark.length < "<div id=\"".length + ");\n</script>".length := by decide
  unfold body
  repeat rw [String.length_append]
  omega

theorem length_time (moment : Int) : timeMark.length < (Calendar.text moment).length := by
  have mark : timeMark.length = 13 := by decide
  simp only [Calendar.text, String.length_append]
  grind [Calendar.length_padded]

section Lengths

variable (long_plot : bodyMark.length < plot.length) (long_time : timeMark.length < time.length)
include long_plot long_time

theorem length_le_refilled (title : String) :
    title.length ≤ (refilled title plot time).length :=
  calc title.length
      ≤ (Text.replaceAll headMark head title).length := Text.length_le_replaceAll length_head _
    _ ≤ _ := Text.length_le_replaceAll long_plot _
    _ ≤ _ := Text.length_le_replaceAll long_time _

/-- The first of the marks that occur in a title makes it longer, and none of the later ones makes
it shorter again. -/
theorem length_lt_refilled (hm : mark ∈ laterMarks) (occurs : Text.Occurs mark title) :
    title.length < (refilled title plot time).length := by
  have after_body (t : String) :=
    Text.length_le_replaceAll long_time (Text.replaceAll bodyMark plot t)
  by_cases scripts : Text.Occurs headMark title
  · have longer := Text.length_lt_replaceAll length_head (by decide) scripts
    have later := Text.length_le_replaceAll long_plot (Text.replaceAll headMark head title)
    exact (longer.trans_le later).trans_le (after_body _)
  · rw [refilled, Text.replaceAll_of_not_occurs scripts]
    by_cases drawn : Text.Occurs bodyMark title
    · exact (Text.length_lt_replaceAll long_plot (by decide) drawn).trans_le (after_body _)
    · rw [Text.replaceAll_of_not_occurs drawn]
      refine Text.length_lt_replaceAll long_time (by decide) ?_
      simp only [laterMarks, List.mem_cons, List.not_mem_nil, or_false] at hm
      rcases hm with rfl | rfl | rfl
      · exact absurd occurs scripts
      · exact absurd occurs drawn
      · exact occurs

end Lengths

theorem length_laidOut_eq_iff {title' plot' : String} :
    (laidOut title head plot time).length = (laidOut title' head plot' time).length ↔
      title.length + plot.length = title'.length + plot'.length := by
  unfold laidOut
  repeat rw [String.length_append]
  omega

/-! ## Pages of charts -/

/-- No text that is filled in has a mark that is filled in later. -/
structure Unmarked (title plot : String) : Prop where
  title : ∀ m ∈ laterMarks, ¬ Text.Occurs m title
  plot : ¬ Text.Occurs timeMark plot

theorem fill_eq_filledAtOnce_iff (long_plot : bodyMark.length < plot.length)
    (long_time : timeMark.length < time.length) (title : String) :
    fill title plot time = filledAtOnce title plot time ↔ Unmarked title plot := by
  rw [fill_eq, filledAtOnce_eq]
  constructor
  · -- a mark that is filled in makes its text longer, which no other text makes up for
    intro same
    have lengths := length_laidOut_eq_iff.mp (congrArg String.length same)
    have title_le := length_le_refilled long_plot long_time title
    have plot_le := Text.length_le_replaceAll long_time plot
    refine ⟨fun m hm occurs => ?_, fun occurs => ?_⟩
    · have longer := length_lt_refilled long_plot long_time hm occurs
      omega
    · have longer := Text.length_lt_replaceAll long_time (by decide) occurs
      omega
  · rintro ⟨unmarked, unmarked_plot⟩
    rw [refilled_of_not_occurs unmarked, Text.replaceAll_of_not_occurs unmarked_plot]

theorem refilled_eq_iff (long_plot : bodyMark.length < plot.length)
    (long_time : timeMark.length < time.length) (title : String) :
    refilled title plot time = title ↔ ∀ m ∈ laterMarks, ¬ Text.Occurs m title := by
  refine ⟨fun same m hm occurs => ?_, fun unmarked => refilled_of_not_occurs unmarked plot time⟩
  have longer := length_lt_refilled long_plot long_time hm occurs
  rw [same] at longer
  exact Nat.lt_irrefl _ longer

/-- How the page of a chart is filled. Scripts, plot and time are in their places, but wherever a
title or a plot has marks of its own these are filled in as well. -/
structure Fills (c : Chart) (id time : String) : Prop where
  atOnce : filledAtOnce c.title (body id c.plot.text) time =
    laidOut c.title head (body id c.plot.text) time
  page : html c id time = laidOut (refilled c.title (body id c.plot.text) time) head
    (Text.replaceAll timeMark time (body id c.plot.text)) time
  atOnce_iff : html c id time = filledAtOnce c.title (body id c.plot.text) time ↔
    Unmarked c.title (body id c.plot.text)
  title_iff : refilled c.title (body id c.plot.text) time = c.title ↔
    ∀ m ∈ laterMarks, ¬ Text.Occurs m c.title

/-- A page is its template with all marks replaced at once exactly if its texts have no marks. -/
theorem fills_html (c : Chart) (id : String) (moment : Int) :
    Fills c id (Calendar.text moment) where
  atOnce := filledAtOnce_eq _ _ _
  page := fill_eq _ _ _
  atOnce_iff := fill_eq_filledAtOnce_iff (length_body id _) (length_time moment) c.title
  title_iff := refilled_eq_iff (length_body id _) (length_time moment) c.title

/-- A benchmark named like a mark has its name replaced on the page. -/
theorem html_ne_filledAtOnce {metric : Metric} {bench : String} {rows : List Observation}
    {baseline : Option String} {c : Chart} (made : Chart.box? metric bench rows baseline = some c)
    (hm : mark ∈ laterMarks) (occurs : Text.Occurs mark bench) (id : String) (moment : Int) :
    html c id (Calendar.text moment) ≠
      filledAtOnce c.title (body id c.plot.text) (Calendar.text moment) := by
  have titled : c.title = Chart.benchTitle bench rows := by
    simp only [Chart.box?, Option.bind_eq_bind, Option.bind_eq_some_iff] at made
    obtain ⟨_, -, _, -, ⟨rfl⟩⟩ := made
    rfl
  have in_title : Text.Occurs mark c.title := by
    rw [titled, Chart.benchTitle, String.append_assoc, Text.Occurs, String.toList_append]
    exact occurs.trans (List.infix_append' [] _ _)
  rw [html, ne_eq, fill_eq_filledAtOnce_iff (length_body id _) (length_time moment)]
  exact fun unmarked => unmarked.title mark hm in_title

end Page

end Speedup
