import SceneLint.Project.Summary
import SceneLint.Proofs.Console.StyledLines

/-!
# Summaries on a terminal

`Summary.layout` is a summary as styled lines: the title with the root, the counts, the three
sections and the verdict. `Summary.seen_layout` says that printing a summary never fails and that a
reader sees this layout: the texts of the project, which are the root and the messages, stand at
the ends of their lines without any style, each as it is `legible` on its own.
-/

namespace SceneLint.Summary

open Console (IsFixed Line Span)

/-! ## The layout -/

/-- `blankRow` is an empty line. -/
def blankRow : Line :=
  ⟨[], none⟩

/-- `titleRow root` is the first line. -/
def titleRow (root : String) : Line :=
  ⟨[⟨some "bold cyan", "godotcheck"⟩, ⟨none, " "⟩], some root⟩

/-- `countsRow scripts scenes` says how many files were checked. -/
def countsRow (scripts scenes : Nat) : Line :=
  ⟨[⟨none, "Checked " ++ toString scripts ++ " scripts and " ++ toString scenes ++ " scenes"⟩],
    none⟩

/-- `problemRow p` is the line of a problem. -/
def problemRow (p : Problem) : Line :=
  ⟨[⟨none, "  "⟩, ⟨some "red", "✗"⟩, ⟨none, " "⟩], some p.message⟩

/-- `sectionRows title problems` is a section: that there are no problems, or how many, and one line
for each. -/
def sectionRows (title : String) (problems : List Problem) : List Line :=
  if problems.isEmpty then
    [blankRow, ⟨[⟨some "bold", title⟩, ⟨none, ": "⟩, ⟨some "green", "none"⟩], none⟩]
  else
    [blankRow, ⟨[⟨some "bold", title⟩, ⟨none, " (" ++ toString problems.length ++ "):"⟩], none⟩] ++
      problems.map problemRow

/-- `verdictRow s` is the last line. -/
def verdictRow (s : Summary) : Line :=
  if s.hasProblems then ⟨[⟨some "red", "Found " ++ toString s.total ++ " problems"⟩], none⟩
  else ⟨[⟨some "green", "No problems found"⟩], none⟩

/-- `layout s` is a summary as styled lines. -/
def layout (s : Summary) : List Line :=
  [titleRow s.root, countsRow s.scripts s.scenes] ++
    sectionRows "General problems" s.general ++
    sectionRows "Script problems" s.script ++
    sectionRows "Scene problems" s.scene ++
    [blankRow, s.verdictRow]

/-! ## The layout is what is written -/

/-- The lines of a section are written as its rows are. -/
theorem section_lines_eq (title : String) (problems : List Problem) :
    sectionLines title problems = (sectionRows title problems).map Line.markup := by
  have hproblem : ∀ p, bullet p = (problemRow p).markup := by
    intro p
    show "  [red]✗[/red] " ++ Console.escape p.message = _
    apply String.toList_inj.1
    simp [problemRow, Line.markup, Span.markup]
  rw [sectionLines, sectionRows]
  split
  · rw [List.map_cons, List.map_singleton]
    congr 2
    apply String.toList_inj.1
    simp [Line.markup, Span.markup]
  · rw [List.map_append, List.map_map, List.map_cons, List.map_singleton,
      List.map_congr_left fun p _ => hproblem p]
    congr 3
    apply String.toList_inj.1
    simp [Line.markup, Span.markup]

/-- The verdict is written as its row is. -/
theorem verdict_line_eq (s : Summary) : s.verdictLine = s.verdictRow.markup := by
  rw [verdictLine, verdictRow]
  apply String.toList_inj.1
  split <;> simp [Line.markup, Span.markup]

/-- A summary is written as its layout is. -/
theorem markup_eq (s : Summary) : s.markup = Console.markupOf s.layout := by
  have hlines : s.markupLines = s.layout.map Line.markup := by
    have htitle : "[bold cyan]godotcheck[/bold cyan] " ++ Console.escape s.root =
        (titleRow s.root).markup := by
      apply String.toList_inj.1
      simp [titleRow, Line.markup, Span.markup]
    have hcounts : "Checked " ++ toString s.scripts ++ " scripts and " ++ toString s.scenes ++
        " scenes" = (countsRow s.scripts s.scenes).markup := by
      apply String.toList_inj.1
      simp [countsRow, Line.markup, Span.markup]
    rw [markupLines, layout, htitle, hcounts, verdict_line_eq]
    simp only [section_lines_eq, List.map_append]
    rfl
  rw [markup, hlines, Console.markupOf]

/-! ## The layout is proper -/

/-- A numeral is fixed text. -/
theorem is_fixed_numeral (n : Nat) : IsFixed (toString n).toList := by
  intro c hc
  have hdigits : (toString n).toList = Nat.toDigits 10 n := by simp
  have hdigit : c.isDigit = true := by
    rw [hdigits] at hc
    exact Nat.isDigit_of_mem_toDigits (by decide) (by decide) hc
  refine ⟨?_, ?_, ?_⟩ <;> rintro rfl <;> exact absurd hdigit (by decide)

/-- Fixed text behind fixed text is fixed. -/
theorem is_fixed_append {a b : String} (ha : IsFixed a.toList) (hb : IsFixed b.toList) :
    IsFixed (a ++ b).toList := by
  intro c hc
  rw [String.toList_append, List.mem_append] at hc
  exact hc.elim (ha c) (hb c)

/-- A span without style is proper when its text is fixed. -/
theorem plain_proper {text : String} (h : IsFixed text.toList) : Span.Proper ⟨none, text⟩ :=
  ⟨h, by simp⟩

/-- A span in a style is proper when its text is fixed. -/
theorem styled_proper {name text : String} (hname : name ∈ Console.styleNames)
    (h : IsFixed text.toList) : Span.Proper ⟨some name, text⟩ := by
  refine ⟨h, ?_⟩
  intro other hother
  cases hother
  exact hname

/-- An empty line is proper. -/
theorem blank_row_proper : blankRow.Proper :=
  ⟨by simp [blankRow], by simp [blankRow]⟩

/-- The first line is proper, whatever the root. -/
theorem title_row_proper (root : String) : (titleRow root).Proper := by
  refine ⟨?_, fun _ => ⟨_, List.mem_cons_self, rfl⟩⟩
  simp only [titleRow, List.forall_mem_cons, List.not_mem_nil]
  exact ⟨styled_proper (by decide) (by decide), plain_proper (by decide), by simp⟩

/-- The line of a problem is proper, whatever its message. -/
theorem problem_row_proper (p : Problem) : (problemRow p).Proper := by
  refine ⟨?_, fun _ => ⟨_, List.mem_cons_of_mem _ List.mem_cons_self, rfl⟩⟩
  simp only [problemRow, List.forall_mem_cons, List.not_mem_nil]
  exact ⟨plain_proper (by decide), styled_proper (by decide) (by decide), plain_proper (by decide),
    by simp⟩

/-- The counts are proper. -/
theorem counts_row_proper (scripts scenes : Nat) : (countsRow scripts scenes).Proper := by
  refine ⟨?_, by simp [countsRow]⟩
  simp only [countsRow, List.forall_mem_cons, List.not_mem_nil]
  refine ⟨plain_proper ?_, by simp⟩
  exact is_fixed_append (is_fixed_append (is_fixed_append
    (is_fixed_append (by decide) (is_fixed_numeral scripts)) (by decide))
    (is_fixed_numeral scenes)) (by decide)

/-- The rows of a section under a fixed title are proper. -/
theorem section_rows_proper {title : String} (h : IsFixed title.toList) (problems : List Problem) :
    ∀ l ∈ sectionRows title problems, l.Proper := by
  rw [sectionRows]
  split
  · simp only [List.forall_mem_cons, List.not_mem_nil]
    refine ⟨blank_row_proper, ⟨?_, by simp⟩, by simp⟩
    simp only [List.forall_mem_cons, List.not_mem_nil]
    exact ⟨styled_proper (by decide) h, plain_proper (by decide),
      styled_proper (by decide) (by decide), by simp⟩
  · simp only [List.forall_mem_append, List.forall_mem_cons, List.not_mem_nil, List.forall_mem_map]
    refine ⟨⟨blank_row_proper, ⟨?_, by simp⟩, by simp⟩, fun p _ => problem_row_proper p⟩
    simp only [List.forall_mem_cons, List.not_mem_nil]
    refine ⟨styled_proper (by decide) h, plain_proper ?_, by simp⟩
    exact is_fixed_append (is_fixed_append (by decide) (is_fixed_numeral _)) (by decide)

/-- The verdict is proper. -/
theorem verdict_row_proper (s : Summary) : s.verdictRow.Proper := by
  rw [verdictRow]
  split
  · refine ⟨?_, by simp⟩
    simp only [List.forall_mem_cons, List.not_mem_nil]
    refine ⟨styled_proper (by decide) ?_, by simp⟩
    exact is_fixed_append (is_fixed_append (by decide) (is_fixed_numeral _)) (by decide)
  · refine ⟨?_, by simp⟩
    simp only [List.forall_mem_cons, List.not_mem_nil]
    exact ⟨styled_proper (by decide) (by decide), by simp⟩

/-- Every line of a layout is proper, whatever the texts of the project. -/
theorem layout_proper (s : Summary) : ∀ l ∈ s.layout, l.Proper := by
  simp only [layout, List.forall_mem_append, List.forall_mem_cons, List.not_mem_nil]
  exact ⟨⟨⟨⟨⟨title_row_proper s.root, counts_row_proper s.scripts s.scenes, by simp⟩,
    section_rows_proper (by decide) s.general⟩, section_rows_proper (by decide) s.script⟩,
    section_rows_proper (by decide) s.scene⟩, blank_row_proper, s.verdict_row_proper, by simp⟩

/-! ## What a reader sees -/

/-- A summary is printed as its layout reads. -/
theorem printed_markup (s : Summary) :
    Console.printed s.markup = .ok (Console.textOf s.layout) := by
  rw [markup_eq, Console.printed_lines s.layout_proper]

/-- Every terminal takes a summary. -/
theorem taken_markup (s : Summary) (t : Console.Terminal) : t.refusal? s.markup = none := by
  rw [markup_eq]
  exact t.takes_own _ (Console.own_tags_lines s.layout_proper 0)

/-- Printing a summary never fails. A reader sees its layout, each character in the styles that the
layout gives it and each text of the project as it is legible on its own, which is as it is when it
holds no backslash. -/
theorem seen_layout (s : Summary) :
    Console.seen [] (Console.tokens (.text 0) 0 s.markup.toList) = .ok (Console.cellsOf s.layout) ∧
      Console.printed s.markup = .ok (Console.textOf s.layout) ∧
      ∀ given : String, '\\' ∉ given.toList → Console.legible given = given := by
  refine ⟨?_, s.printed_markup, fun given h => Console.legible_of_not_mem h⟩
  rw [markup_eq, Console.seen_lines s.layout_proper]

/-- A root that starts a closing tag and a message that would complete it are printed as they are,
and the one does not swallow the other. -/
theorem seen_layout_brackets :
    '\\' ∉ "/p[/red".toList ∧ Console.legible "/p[/red" = "/p[/red" ∧
      Console.printed (markup ⟨"/p[/red", 1, 0, [], [⟨"]a.gd", "/p[/red/]a.gd", "class-name",
        "]a.gd doesn't have a class_name"⟩], []⟩) =
        .ok ("godotcheck /p[/red\nChecked 1 scripts and 0 scenes\n\nGeneral problems: none\n\n" ++
          "Script problems (1):\n  ✗ ]a.gd doesn't have a class_name\n\nScene problems: none\n\n" ++
          "Found 1 problems") := by
  obtain ⟨-, hprinted, hplain⟩ := seen_layout ⟨"/p[/red", 1, 0, [], [⟨"]a.gd", "/p[/red/]a.gd",
    "class-name", "]a.gd doesn't have a class_name"⟩], []⟩
  exact ⟨by decide, hplain _ (by decide), hprinted.trans (by decide +kernel)⟩

end SceneLint.Summary
