import SceneLint.Command.Run
import SceneLint.Proofs.Console.Outlines
import SceneLint.Proofs.Console.Verbatim
import SceneLint.Proofs.Settings.Sources

/-!
# Showing the settings

`config show` writes every value into markup as it is, and so not every value is shown as it is.
`config_show_values` is the main statement. The command prints a tree with what a reader sees of the
branch of each field, as long as each branch can be printed; otherwise the fault of one breaks it
off, and nothing is printed. Every branch can be printed on every terminal if no value holds an
opening bracket, and on a terminal that takes the branches if none closes a tag. Where the terminal
writes the branches as it gets them, the values are shown unchanged exactly if each `isVerbatim`. As
JSON, the same values are told unchanged.
-/

namespace SceneLint.Command

open Console (IsFixed IsStyleName NoClosing Outline Span Tagged Terminal isVerbatim printed)

variable {w : World} {t : Terminal} {s : Settings} {branches : Setting → String}

/-- `branchMarkup s f` is the branch of a field as it is written. -/
def branchMarkup (s : Settings) (f : Setting) : String :=
  f.key ++ ": " ++ Span.markup ⟨some "green", (valueOf s f).display⟩

/-- `plainBranch s f` is a field and its value. -/
def plainBranch (s : Settings) (f : Setting) : String :=
  f.key ++ ": " ++ (valueOf s f).display

/-- `branchColumn` is the column in which the branches start, below the title and a group. -/
def branchColumn : Nat := 2 * Outline.leadWidth

/-- `Branches t s branches` says what a reader sees of the branch of each field. -/
def Branches (t : Terminal) (s : Settings) (branches : Setting → String) : Prop :=
  ∀ f, t.print branchColumn (branchMarkup s f) = .ok (branches f)

/-- `WritesPlain t s f` says that a terminal takes the branch of a field, and writes what is printed
of it as it gets it. -/
def WritesPlain (t : Terminal) (s : Settings) (f : Setting) : Prop :=
  t.refusal? (branchMarkup s f) = none ∧
    ∀ text, printed (branchMarkup s f) = .ok text →
      t.written branchColumn (branchMarkup s f) text = text

/-- `titleMarkup` is the title of the tree as it is written. -/
def titleMarkup : String := "[bold cyan]godotcheck configuration[/bold cyan]"

/-- `headingMarkup name` is the heading of a group as it is written. -/
def headingMarkup (name : String) : String := "[bold]" ++ name ++ "[/bold]"

/-- `headed t` is the groups of fields with their headings as a terminal writes them. -/
def headed (t : Terminal) : List (String × List Setting) :=
  groups.map fun group =>
    (t.written Outline.leadWidth (headingMarkup group.1) group.1, group.2)

/-- `tree t branches` is the fields in their groups, each with its branch. -/
def tree (t : Terminal) (branches : Setting → String) : Outline :=
  .node (t.written 0 titleMarkup "godotcheck configuration")
    ((headed t).map (Outline.group branches))

/-! ## The branches -/

/-- The groups hold every field, in their order. -/
theorem groups_fields : groups.flatMap (·.2) = Setting.all := by
  rfl

/-- Every field is in a group. -/
theorem mem_groups (f : Setting) : ∃ group ∈ groups, f ∈ group.2 := by
  rw [← List.mem_flatMap, groups_fields]
  exact Settings.mem_all f

/-- The key of a field in front of its value is fixed text. -/
theorem key_fixed (f : Setting) : IsFixed (f.key ++ ": ").toList := by
  cases f <;> decide

/-- Values are shown in a style. -/
theorem green_proper : IsStyleName "green" :=
  Console.style_names_proper "green" (by decide)

/-- The line of a field is its branch. -/
theorem setting_leaf_eq (s : Settings) (f : Setting) :
    settingLeaf s f = Outline.leaf (branchMarkup s f) := by
  have hmarkup :
      f.key ++ ": [green]" ++ (valueOf s f).display ++ "[/green]" = branchMarkup s f := by
    apply String.toList_inj.1
    simp [branchMarkup, Span.markup]
  rw [settingLeaf, hmarkup, Outline.leaf]

/-- The value of a field is in the program's tags. -/
theorem tagged_branch {P : List Char → Prop} (hP : Console.Admits P) {f : Setting}
    (h : P (valueOf s f).display.toList) : Tagged P (branchMarkup s f) := by
  have htagged := Tagged.styled (key_fixed f) (show "green" ∈ Console.styleNames by decide) h
    (hP.fixed (show IsFixed "".toList by decide))
  rwa [String.append_empty] at htagged

/-- The branch of a field reads as it is meant exactly if its value is verbatim. -/
theorem printed_branch_iff (s : Settings) (f : Setting) :
    printed (branchMarkup s f) = .ok (plainBranch s f) ↔
      isVerbatim (valueOf s f).display = true :=
  Console.printed_styled_iff (key_fixed f) green_proper _

/-- On a terminal that writes the branch of a field as it gets it, the branch is printed as it is
meant exactly if the value is verbatim. -/
theorem print_branch_iff {f : Setting} (hplain : WritesPlain t s f) :
    t.print branchColumn (branchMarkup s f) = .ok (plainBranch s f) ↔
      isVerbatim (valueOf s f).display = true := by
  rw [← printed_branch_iff]
  obtain ⟨htaken, hwritten⟩ := hplain
  cases hprinted : printed (branchMarkup s f) with
  | error fault => simp [Terminal.print, htaken, hprinted]
  | ok text =>
      rw [Console.print_of_printed htaken hprinted, hwritten text hprinted]
      simp

/-- A branch can be printed if its value closes no tag, on a terminal that takes it. -/
theorem print_branch_of_no_closing {f : Setting} (htaken : t.refusal? (branchMarkup s f) = none)
    (h : NoClosing (valueOf s f).display.toList) :
    ∃ out, t.print branchColumn (branchMarkup s f) = .ok out :=
  Console.print_ok_iff.2
    ⟨htaken, Console.printed_of_tagged (tagged_branch Console.admits_no_closing h)⟩

/-- A branch can be printed on every terminal if its value holds no opening bracket. -/
theorem print_branch_of_not_mem_open (t : Terminal) {f : Setting}
    (h : '[' ∉ (valueOf s f).display.toList) :
    ∃ out, t.print branchColumn (branchMarkup s f) = .ok out :=
  print_branch_of_no_closing
    (Console.taken_of_tagged t (tagged_branch Console.admits_not_mem_open h))
    (Console.no_closing_of_not_mem h)

/-! ## The headings -/

/-- A verbatim text without brackets in a style of the program is printed as the terminal writes
it. -/
theorem print_heading {markup : String} (t : Terminal) (taken : Nat) (name text : String)
    (hname : name ∈ Console.styleNames) (htext : isVerbatim text = true) (hopen : '[' ∉ text.toList)
    (hmarkup : markup.toList = (Span.markup ⟨some name, text⟩).toList) :
    t.print taken markup = .ok (t.written taken markup text) := by
  have hempty : IsFixed "".toList := by decide
  have hprinted := (Console.printed_styled_iff hempty (Console.style_names_proper name hname)
    text).2 htext
  have htagged : Tagged (fun cs => '[' ∉ cs) ("" ++ Span.markup ⟨some name, text⟩ ++ "") :=
    .styled hempty hname hopen hempty.not_mem_open
  rw [String.empty_append, String.empty_append] at hprinted
  rw [String.empty_append, String.append_empty] at htagged
  rw [← String.toList_inj.1 hmarkup] at hprinted htagged
  exact Console.print_of_printed (Console.taken_of_tagged t htagged) hprinted taken

/-- The title of the tree can be printed on every terminal. -/
theorem print_title (t : Terminal) : t.print 0 titleMarkup =
    .ok (t.written 0 titleMarkup "godotcheck configuration") :=
  print_heading t 0 "bold cyan" _ (by decide) (by decide) (by decide) (by decide)

/-- The heading of a group can be printed on every terminal. -/
theorem print_group (t : Terminal) (taken : Nat) : ∀ group ∈ groups,
    t.print taken (headingMarkup group.1) =
      .ok (t.written taken (headingMarkup group.1) group.1) := by
  intro group hgroup
  have hverbatim : ∀ group ∈ groups, isVerbatim group.1 = true := by decide
  have hopen : ∀ group ∈ groups, '[' ∉ group.1.toList := by decide
  exact print_heading t taken "bold" group.1 (by decide) (hverbatim group hgroup)
    (hopen group hgroup) (by simp [headingMarkup, Span.markup])

/-! ## The tree -/

/-- Branches that can be printed are printed as a tree. -/
theorem printed_outline (h : Branches t s branches) :
    (outline s).printedLabels t 0 = .ok (tree t branches) := by
  rw [tree, headed, List.map_map]
  refine Outline.printed_labels_of_ok (print_title t) ?_
  refine Outline.printed_below_of_ok fun group hgroup => ?_
  refine Outline.printed_labels_of_ok (print_group t _ group hgroup) ?_
  refine Outline.printed_below_of_ok fun f _ => ?_
  rw [setting_leaf_eq]
  exact Outline.printed_labels_of_ok (h f) rfl

/-- The labels of the tree are its title, and the heading and the branches of each group. -/
theorem outline_labels (s : Settings) : (outline s).labels =
    titleMarkup :: groups.flatMap fun group =>
      headingMarkup group.1 :: group.2.map (branchMarkup s) := by
  have hleaves : ∀ fs : List Setting,
      Outline.labelsBelow (fs.map (settingLeaf s)) = fs.map (branchMarkup s) := by
    intro fs
    induction fs with
    | nil => rfl
    | cons f fs ih =>
        rw [List.map_cons, setting_leaf_eq, Outline.labelsBelow, ih]
        rfl
  rw [outline, Outline.labels, Outline.labels_below_eq, List.flatMap_map]
  simp only [Outline.labels, hleaves, titleMarkup, headingMarkup]

/-- The labels of the tree are headings, which can be printed, and the branches. -/
theorem label_cases (t : Terminal) {label : String} (h : label ∈ (outline s).labels) :
    (∃ out, t.print 0 label = .ok out) ∨ ∃ f, label = branchMarkup s f := by
  rw [outline_labels, List.mem_cons, List.mem_flatMap] at h
  obtain rfl | ⟨group, hgroup, h⟩ := h
  · exact .inl ⟨_, print_title t⟩
  · rw [List.mem_cons, List.mem_map] at h
    obtain rfl | ⟨f, -, rfl⟩ := h
    · exact .inl ⟨_, print_group t 0 group hgroup⟩
    · exact .inr ⟨f, rfl⟩

/-- Every branch is a label of the tree. -/
theorem branch_mem_labels (s : Settings) (f : Setting) :
    branchMarkup s f ∈ (outline s).labels := by
  obtain ⟨group, hgroup, hf⟩ := mem_groups f
  rw [outline_labels]
  refine List.mem_cons_of_mem _ (List.mem_flatMap.2 ⟨group, hgroup, ?_⟩)
  exact List.mem_cons_of_mem _ (List.mem_map_of_mem hf)

/-- The tree is printed if every branch can be; otherwise the fault of a branch stops it. -/
theorem outline_cases (t : Terminal) (s : Settings) :
    (∃ branches, Branches t s branches ∧ (outline s).shown t = .ok (tree t branches).text) ∨
      ∃ f fault, t.print branchColumn (branchMarkup s f) = .error fault ∧
        (outline s).shown t = .error fault := by
  have hexplained := Outline.explained_labels t 0 (outline s)
  rw [Outline.shown]
  cases hshown : (outline s).printedLabels t 0 with
  | error fault =>
      rw [hshown] at hexplained
      obtain ⟨label, hmem, hfault⟩ := hexplained
      right
      obtain ⟨out, hout⟩ | ⟨f, rfl⟩ := label_cases t hmem
      · rw [hout] at hfault
        cases hfault
      · exact ⟨f, fault, Console.print_error_congr hfault _, rfl⟩
  | ok seen =>
      rw [hshown] at hexplained
      left
      have hall : ∀ f, ∃ out, t.print branchColumn (branchMarkup s f) = .ok out := fun f =>
        Console.print_ok_iff.2 (Console.print_ok_iff.1 (hexplained _ (branch_mem_labels s f)))
      choose branches hbranches using hall
      rw [printed_outline hbranches] at hshown
      cases hshown
      exact ⟨branches, hbranches, rfl⟩

/-- The branches of a tree can be read back from its text. -/
theorem tree_text_injective {a b : Setting → String}
    (h : (tree t a).text = (tree t b).text) : a = b := by
  have hlines := Outline.all_lines_of_text h
  rw [tree, tree, Outline.allLines, Outline.allLines] at hlines
  have hbranches := Outline.lines_below_group_inj (List.append_cancel_left hlines)
  funext f
  obtain ⟨group, hgroup, hf⟩ := mem_groups f
  exact hbranches _ (List.mem_map_of_mem hgroup) f hf

/-! ## The command -/

/-- The object of the settings holds the value of every field. -/
theorem to_json_eq (s : Settings) :
    s.toJson = .object (Setting.all.map fun f => (f.key, (valueOf s f).toJson)) := by
  have htexts : ∀ texts : List String, (Data.ofTexts texts).toJson = .list (texts.map .text) := by
    intro texts
    rw [Data.ofTexts, Data.toJson]
    congr 1
    induction texts with
    | nil => rfl
    | cons text texts ih => rw [List.map_cons, List.map_cons, Data.toJsonItems, ih, Data.toJson]
  cases hfile : s.logFile <;>
    simp only [Settings.toJson, Setting.all, List.map_cons, List.map_nil, valueOf, htexts, hfile,
      Option.map_none, Option.map_some, Data.ofText?, Data.toJson]

/-- What the command prints is the tree of the settings, or the fault that stopped it. -/
theorem config_show_eq (config? : Option String)
    (h : Settings.forCommand w (config?.map FilePath.ofString) [] = .ok s) (log : LogState) :
    configShow w log ⟨config?, false⟩ =
      match (outline s).shown w.host.terminal with
      | .error fault => .crashed (.unprintable fault)
      | .ok text => ⟨0, text, "", none, []⟩ := by
  rw [configShow, h]
  rfl

/-- A fault of the tree breaks the command off. -/
theorem config_show_of_fault (config? : Option String)
    (h : Settings.forCommand w (config?.map FilePath.ofString) [] = .ok s)
    {fault : Console.PrintFault} (hshown : (outline s).shown w.host.terminal = .error fault)
    (log : LogState) : configShow w log ⟨config?, false⟩ = .crashed (.unprintable fault) := by
  rw [config_show_eq config? h, hshown]

/-- The command prints the branches if each can be printed. -/
theorem config_show_branches (config? : Option String)
    (h : Settings.forCommand w (config?.map FilePath.ofString) [] = .ok s)
    (hbranches : Branches w.host.terminal s branches) (log : LogState) :
    configShow w log ⟨config?, false⟩ =
      ⟨0, (tree w.host.terminal branches).text, "", none, []⟩ := by
  rw [config_show_eq config? h, Outline.shown, printed_outline hbranches]
  rfl

/-- The command shows every field with its value exactly if every value is verbatim, where the
terminal writes the branches as it gets them. -/
theorem config_show_plain_iff (config? : Option String)
    (h : Settings.forCommand w (config?.map FilePath.ofString) [] = .ok s)
    (hplain : ∀ f, WritesPlain w.host.terminal s f) (log : LogState) :
    configShow w log ⟨config?, false⟩ =
        ⟨0, (tree w.host.terminal (plainBranch s)).text, "", none, []⟩ ↔
      ∀ f, isVerbatim (valueOf s f).display = true := by
  constructor
  · intro hshow
    obtain ⟨branches, hbranches, hshown⟩ | ⟨f, fault, -, hshown⟩ :=
      outline_cases w.host.terminal s
    · rw [config_show_eq config? h, hshown] at hshow
      injection hshow with _ htext
      rw [tree_text_injective htext] at hbranches
      exact fun f => (print_branch_iff (hplain f)).1 (hbranches f)
    · rw [config_show_of_fault config? h hshown] at hshow
      cases hshow
  · intro hverbatim
    exact config_show_branches config? h
      (fun f => (print_branch_iff (hplain f)).2 (hverbatim f)) log

/-- What the command shows of the settings, on every terminal. Whatever a reader sees of the
branches is printed, group by group, as long as each can be printed; otherwise the fault of one
breaks the command off with nothing printed. Each can be printed if no value holds an opening
bracket, or if the terminal takes the branches and no value holds a closing tag. Where the terminal
writes what it gets, a branch is the field and its value exactly if the value is verbatim, and all
are exactly if all values are. As JSON the command always tells every field with its value. -/
theorem config_show_values {w : World} {s : Settings} (config? : Option String)
    (h : Settings.forCommand w (config?.map FilePath.ofString) [] = .ok s) (log : LogState) :
    (∀ branches, Branches w.host.terminal s branches →
      configShow w log ⟨config?, false⟩ =
        ⟨0, (tree w.host.terminal branches).text, "", none, []⟩) ∧
    ((¬ ∃ branches, Branches w.host.terminal s branches) →
      ∃ f fault, w.host.terminal.print branchColumn (branchMarkup s f) = .error fault ∧
        configShow w log ⟨config?, false⟩ = .crashed (.unprintable fault)) ∧
    ((∀ f, '[' ∉ (valueOf s f).display.toList) →
      ∃ branches, Branches w.host.terminal s branches) ∧
    ((∀ f, w.host.terminal.refusal? (branchMarkup s f) = none) →
      (∀ f, NoClosing (valueOf s f).display.toList) →
        ∃ branches, Branches w.host.terminal s branches) ∧
    (∀ f, WritesPlain w.host.terminal s f →
      (w.host.terminal.print branchColumn (branchMarkup s f) = .ok (plainBranch s f) ↔
        isVerbatim (valueOf s f).display = true)) ∧
    ((∀ f, WritesPlain w.host.terminal s f) →
      (configShow w log ⟨config?, false⟩ =
          ⟨0, (tree w.host.terminal (plainBranch s)).text, "", none, []⟩ ↔
        ∀ f, isVerbatim (valueOf s f).display = true)) ∧
    configShow w log ⟨config?, true⟩ =
      ⟨0, (Json.object (Setting.all.map fun f => (f.key, (valueOf s f).toJson))).document ++ "\n",
        "", none, []⟩ := by
  refine ⟨fun branches hbranches => config_show_branches config? h hbranches log, fun hnone => ?_,
    fun hopen => ?_, fun htaken hclosing => ?_, fun f hplain => print_branch_iff hplain,
    fun hplain => config_show_plain_iff config? h hplain log, ?_⟩
  · obtain ⟨branches, hbranches, -⟩ | ⟨f, fault, hfault, hshown⟩ :=
      outline_cases w.host.terminal s
    · exact absurd ⟨branches, hbranches⟩ hnone
    · exact ⟨f, fault, hfault, config_show_of_fault config? h hshown log⟩
  · choose branches hbranches using
      fun f => print_branch_of_not_mem_open w.host.terminal (hopen f)
    exact ⟨branches, hbranches⟩
  · choose branches hbranches using
      fun f => print_branch_of_no_closing (htaken f) (hclosing f)
    exact ⟨branches, hbranches⟩
  · rw [configShow, h, ← to_json_eq]
    rfl

/-- `startingWith start` gives the start of resource paths in its environment. -/
def startingWith (start : String) : World :=
  ⟨.directory [], [("HOME", "/"), ("GODOTCHECK_RESOURCE_PREFIX", start)], [], ⟨[], [], []⟩, .usual⟩

/-- `started start` is the settings that only the start of resource paths was given for. -/
def started (start : String) : Settings :=
  { Settings.default ⟨.root, []⟩ with resourceStart := start }

/-- The other values of these settings are verbatim. -/
theorem started_verbatim (start : String) {f : Setting} (h : f ≠ .resourceStart) :
    isVerbatim (valueOf (started start) f).display = true := by
  have hdefault : valueOf (started start) f = valueOf (Settings.default ⟨.root, []⟩) f := by
    cases f with
    | resourceStart => exact absurd rfl h
    | _ => rfl
  rw [hdefault]
  cases f <;> decide

/-- A plain terminal writes every branch as it gets it. -/
theorem writes_plain (s : Settings) (f : Setting) : WritesPlain .plain s f :=
  ⟨rfl, fun _ _ => rfl⟩

/-- A bracket that opens no tag is shown with the rest of its value. -/
theorem config_show_values_bracket :
    Settings.forCommand (startingWith "[X]/") none [] = .ok (started "[X]/") ∧
      configShow (startingWith "[X]/") ⟨30, .console, false, none, false⟩ ⟨none, false⟩ =
        ⟨0, (tree .plain (plainBranch (started "[X]/"))).text, "", none, []⟩ := by
  have hs : Settings.forCommand (startingWith "[X]/") none [] = .ok (started "[X]/") := rfl
  obtain ⟨-, -, -, -, -, hplain, -⟩ :=
    config_show_values none hs ⟨30, .console, false, none, false⟩
  refine ⟨hs, (hplain (writes_plain _)).2 ?_⟩
  intro f
  by_cases hf : f = .resourceStart
  · subst hf
    decide
  · exact started_verbatim "[X]/" hf

/-- Letters in brackets at the start of resource paths are lost, and a closing tag there breaks the
command off, though both are settings that can be had and the terminal writes what it gets. -/
theorem config_show_loses_brackets :
    Settings.forCommand (startingWith "[x]/") none [] = .ok (started "[x]/") ∧
      (∀ log, ∃ branches, branches .resourceStart = "resource_prefix: /" ∧
        configShow (startingWith "[x]/") log ⟨none, false⟩ =
          ⟨0, (tree .plain branches).text, "", none, []⟩ ∧
        (tree .plain branches).text ≠ (tree .plain (plainBranch (started "[x]/"))).text) ∧
      Settings.forCommand (startingWith "[/x]/") none [] = .ok (started "[/x]/") ∧
      ∀ log, ∃ fault, configShow (startingWith "[/x]/") log ⟨none, false⟩ =
        .crashed (.unprintable fault) := by
  have hlost : Terminal.plain.print branchColumn (branchMarkup (started "[x]/") .resourceStart) =
      .ok "resource_prefix: /" := by decide +kernel
  have hfault :
      Terminal.plain.print branchColumn (branchMarkup (started "[/x]/") .resourceStart) =
        .error (.tag (.unmatched "/x" 24)) := by decide +kernel
  have hs : Settings.forCommand (startingWith "[x]/") none [] = .ok (started "[x]/") := rfl
  have hs' : Settings.forCommand (startingWith "[/x]/") none [] = .ok (started "[/x]/") := rfl
  refine ⟨hs, fun log => ?_, hs', fun log => ?_⟩
  · obtain ⟨branches, hbranches, -⟩ | ⟨f, fault, hf, -⟩ := outline_cases .plain (started "[x]/")
    · have hstart : branches .resourceStart = "resource_prefix: /" := by
        rw [hbranches] at hlost
        exact Except.ok.inj hlost
      refine ⟨branches, hstart, config_show_branches none hs hbranches log, ?_⟩
      intro htext
      rw [tree_text_injective htext] at hstart
      exact absurd hstart (by decide)
    · by_cases hstart : f = .resourceStart
      · rw [hstart, hlost] at hf
        cases hf
      · rw [(print_branch_iff (writes_plain _ f)).2 (started_verbatim "[x]/" hstart)] at hf
        cases hf
  · obtain ⟨branches, hbranches, -⟩ | ⟨f, fault, -, hshown⟩ :=
      outline_cases .plain (started "[/x]/")
    · rw [hbranches] at hfault
      cases hfault
    · exact ⟨fault, config_show_of_fault none hs' hshown log⟩

end SceneLint.Command
