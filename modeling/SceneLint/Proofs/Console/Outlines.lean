import SceneLint.Console.Outline
import SceneLint.Proofs.Console.Terminals
import SceneLint.Proofs.Text.Search

/-!
# Outlines and their texts

An outline is printed if each of its labels can be; otherwise the fault of one of them stops the
printing (`explained_labels`).

Labels may hold line feeds, so the lines of an outline are not its labels. Yet leaves can be read
back from their lines (`lines_below_leaf_inj`, and in groups `lines_below_group_inj`): in a label of
several lines every line but the first has a lead with which no other label starts, neither that of
another leaf nor one further up.
-/

namespace SceneLint.Console.Outline

variable {α : Type} {t : Terminal} {taken : Nat}

/-- `leaf label` is a label with nothing below it. -/
def leaf (label : String) : Outline :=
  .node label []

/-! ## Printing labels -/

mutual
/-- `labels o` is the labels of an outline, from the top. -/
def labels : Outline → List String
  | .node label below => label :: labelsBelow below

/-- `labelsBelow below` is the labels of outlines, from the top. -/
def labelsBelow : List Outline → List String
  | [] => []
  | o :: below => labels o ++ labelsBelow below
end

/-- The labels of outlines are those of each. -/
theorem labels_below_eq (below : List Outline) : labelsBelow below = below.flatMap labels := by
  induction below with
  | nil => rfl
  | cons o below ih => rw [labelsBelow, ih, List.flatMap_cons]

/-- A label that can be printed, with outlines below it that can, is printed with them. -/
theorem printed_labels_of_ok {label seen : String} {below shownBelow : List Outline}
    (hlabel : t.print taken label = .ok seen)
    (hbelow : printedBelow t (taken + leadWidth) below = .ok shownBelow) :
    (Outline.node label below).printedLabels t taken = .ok (.node seen shownBelow) := by
  rw [printedLabels, hlabel]
  show (do let below ← printedBelow t (taken + leadWidth) below; return Outline.node seen below) = _
  rw [hbelow]
  rfl

/-- Outlines that can be printed are printed one after the other. -/
theorem printed_below_of_ok {xs : List α} {o seen : α → Outline}
    (h : ∀ x ∈ xs, (o x).printedLabels t taken = .ok (seen x)) :
    printedBelow t taken (xs.map o) = .ok (xs.map seen) := by
  induction xs with
  | nil => rfl
  | cons x xs ih =>
      rw [List.forall_mem_cons] at h
      rw [List.map_cons, printedBelow, h.1, ih h.2]
      rfl

/-- `Explained t labels result` says that a printing came to its end and each of its labels can be
printed, or that it stopped with the fault of one of them. -/
def Explained {β : Type} (t : Terminal) (labels : List String) : Except PrintFault β → Prop
  | .ok _ => ∀ label ∈ labels, ∃ out, t.print 0 label = .ok out
  | .error fault => ∃ label ∈ labels, t.print 0 label = .error fault

/-- A label explains its own printing, in whichever column it starts. -/
theorem explained_print (t : Terminal) (taken : Nat) (label : String) :
    Explained t [label] (t.print taken label) := by
  cases hlabel : t.print taken label with
  | error fault => exact ⟨label, List.mem_singleton_self label, print_error_congr hlabel 0⟩
  | ok out =>
      rw [Explained, List.forall_mem_singleton]
      exact print_ok_iff.2 (print_ok_iff.1 ⟨out, hlabel⟩)

/-- Of two printings one after the other, the labels of both explain the end. -/
theorem Explained.both {β γ δ : Type} {a b : List String} {x : Except PrintFault β}
    {y : Except PrintFault γ} (hx : Explained t a x) (hy : Explained t b y) (f : β → γ → δ) :
    Explained t (a ++ b) (do let p ← x; let q ← y; return f p q) := by
  cases x with
  | error fault =>
      obtain ⟨label, hmem, hfault⟩ := hx
      exact ⟨label, List.mem_append_left b hmem, hfault⟩
  | ok p =>
      cases y with
      | error fault =>
          obtain ⟨label, hmem, hfault⟩ := hy
          exact ⟨label, List.mem_append_right a hmem, hfault⟩
      | ok q => exact List.forall_mem_append.2 ⟨hx, hy⟩

mutual
/-- The labels of an outline explain its printing. -/
theorem explained_labels (t : Terminal) :
    ∀ (taken : Nat) (o : Outline), Explained t o.labels (o.printedLabels t taken)
  | taken, .node label below => by
      rw [labels, printedLabels]
      exact (explained_print t taken label).both (explained_below t _ below) Outline.node

/-- The labels of outlines explain their printing. -/
theorem explained_below (t : Terminal) : ∀ (taken : Nat) (below : List Outline),
    Explained t (labelsBelow below) (printedBelow t taken below)
  | _, [] => by simp [labelsBelow, printedBelow, Explained]
  | taken, o :: below => by
      rw [labelsBelow, printedBelow]
      exact (explained_labels t taken o).both (explained_below t taken below) List.cons
end

/-! ## Reading leaves back -/

variable {margin : String} {labels others : List String} {xs ys : List String}

/-- `leads isLast` is the lead of a label and that of its further lines. -/
def leads (isLast : Bool) : String × String :=
  if isLast then ("└── ", "    ") else ("├── ", "│   ")

/-- No label has the lead of another label's further lines. -/
theorem not_further_lead (margin line : String) (isLast isLast' : Bool) :
    ¬ (margin ++ (leads isLast).2).toList <+: (margin ++ (leads isLast').1 ++ line).toList := by
  rw [String.toList_append, String.toList_append, String.toList_append, List.append_assoc,
    List.prefix_append_right_inj]
  cases isLast <;> cases isLast' <;> simp [leads, List.cons_prefix_cons]

/-- `Apart margin lines` says that the first of `lines` is no further line of a label below
`margin`. -/
def Apart (margin : String) (lines : List String) : Prop :=
  ∀ line ∈ lines.head?, ∀ isLast, ¬ (margin ++ (leads isLast).2).toList <+: line.toList

/-- Lines behind a lead can be told from lines without it. -/
theorem map_lead_inj {lead : String} {a b : List String}
    (hxs : ∀ line ∈ xs.head?, ¬ lead.toList <+: line.toList)
    (hys : ∀ line ∈ ys.head?, ¬ lead.toList <+: line.toList)
    (h : a.map (lead ++ ·) ++ xs = b.map (lead ++ ·) ++ ys) : a = b ∧ xs = ys := by
  have hled : ∀ line : String, lead.toList <+: (lead ++ line).toList := fun line => by
    rw [String.toList_append]
    exact List.prefix_append _ _
  induction a generalizing b with
  | nil =>
      cases b with
      | nil => exact ⟨rfl, h⟩
      | cons line b =>
          obtain rfl : xs = (lead ++ line) :: (b.map (lead ++ ·) ++ ys) := h
          exact absurd (hled line) (hxs _ rfl)
  | cons line a ih =>
      cases b with
      | nil =>
          obtain rfl : (lead ++ line) :: (a.map (lead ++ ·) ++ xs) = ys := h
          exact absurd (hled line) (hys _ rfl)
      | cons line' b =>
          rw [List.map_cons, List.map_cons, List.cons_append, List.cons_append, List.cons.injEq,
            String.append_right_inj] at h
          obtain ⟨rfl, rfl⟩ := ih h.2
          rw [h.1]
          exact ⟨rfl, rfl⟩

/-- The lines of a label are its pieces behind their leads, and there is at least one. -/
theorem label_lines_eq (label : String) : ∃ line lines,
    Text.splitText '\n' label = line :: lines ∧ ∀ first next,
      labelLines first next label = (first ++ line) :: lines.map (next ++ ·) := by
  obtain ⟨piece, pieces, hpieces⟩ :=
    List.exists_cons_of_ne_nil (List.splitOn_ne_nil '\n' label.toList)
  have hsplit : Text.splitText '\n' label = String.ofList piece :: pieces.map String.ofList := by
    rw [Text.splitText, hpieces, List.map_cons]
  refine ⟨_, _, hsplit, fun first next => ?_⟩
  rw [labelLines, hsplit]

/-- A label can be read back from its lines, if what follows does not have its lead. -/
theorem label_lines_inj {first next a b : String}
    (hxs : ∀ line ∈ xs.head?, ¬ next.toList <+: line.toList)
    (hys : ∀ line ∈ ys.head?, ¬ next.toList <+: line.toList)
    (h : labelLines first next a ++ xs = labelLines first next b ++ ys) : a = b ∧ xs = ys := by
  obtain ⟨line, lines, hsplit, hlines⟩ := label_lines_eq a
  obtain ⟨line', lines', hsplit', hlines'⟩ := label_lines_eq b
  rw [hlines, hlines', List.cons_append, List.cons_append, List.cons.injEq,
    String.append_right_inj] at h
  obtain ⟨rfl, rfl⟩ := map_lead_inj hxs hys h.2
  refine ⟨Text.split_text_injective '\n' ?_, rfl⟩
  rw [hsplit, hsplit', h.1]

/-- The lines of leaves are the lines of their labels. -/
theorem lines_below_leaf_cons (margin label : String) (labels : List String) :
    linesBelow margin ((label :: labels).map leaf) =
      labelLines (margin ++ (leads labels.isEmpty).1) (margin ++ (leads labels.isEmpty).2) label ++
        linesBelow margin (labels.map leaf) := by
  rw [List.map_cons, linesBelow, leaf, lines, linesBelow, List.append_nil]
  cases labels <;> rfl

/-- The lines of leaves do not start with a further line. -/
theorem apart_lines_below (labels : List String) (h : Apart margin xs) :
    Apart margin (linesBelow margin (labels.map leaf) ++ xs) := by
  cases labels with
  | nil => exact h
  | cons label labels =>
      intro line hline isLast
      obtain ⟨piece, pieces, -, hlines⟩ := label_lines_eq label
      rw [lines_below_leaf_cons, hlines] at hline
      obtain rfl : margin ++ (leads labels.isEmpty).1 ++ piece = line := Option.some.inj hline
      exact not_further_lead margin piece isLast labels.isEmpty

/-- Leaves can be read back from their lines, if what follows does not have their leads. -/
theorem lines_below_leaf_inj (hlength : labels.length = others.length) (hxs : Apart margin xs)
    (hys : Apart margin ys)
    (h : linesBelow margin (labels.map leaf) ++ xs = linesBelow margin (others.map leaf) ++ ys) :
    labels = others ∧ xs = ys := by
  induction labels generalizing others with
  | nil =>
      obtain rfl : others = [] := List.length_eq_zero_iff.1 hlength.symm
      exact ⟨rfl, h⟩
  | cons label labels ih =>
      obtain ⟨other, others, rfl⟩ := List.exists_cons_of_length_eq_add_one hlength.symm
      have hrest : labels.length = others.length := Nat.succ.inj hlength
      have hlast : others.isEmpty = labels.isEmpty := by
        cases labels <;> cases others <;> simp_all
      rw [lines_below_leaf_cons, lines_below_leaf_cons, hlast, List.append_assoc,
        List.append_assoc] at h
      obtain ⟨rfl, htail⟩ := label_lines_inj
        (fun line hline => apart_lines_below labels hxs line hline _)
        (fun line hline => apart_lines_below others hys line hline _) h
      obtain ⟨rfl, rfl⟩ := ih hrest htail
      exact ⟨rfl, rfl⟩

/-- `group labels g` is a label with leaves below it. -/
def group (labels : α → String) (g : String × List α) : Outline :=
  .node g.1 (g.2.map fun x => leaf (labels x))

/-- The lines of groups are the lines of each label and of the leaves below it. -/
theorem lines_below_group_cons (margin : String) (labels : α → String) (g : String × List α)
    (gs : List (String × List α)) :
    linesBelow margin ((g :: gs).map (group labels)) =
      labelLines (margin ++ (leads gs.isEmpty).1) (margin ++ (leads gs.isEmpty).2) g.1 ++
        (linesBelow (margin ++ (leads gs.isEmpty).2) ((g.2.map labels).map leaf) ++
          linesBelow margin (gs.map (group labels))) := by
  rw [List.map_cons, linesBelow, group, lines, List.append_assoc, List.map_map]
  cases gs <;> rfl

/-- Below the last group there is nothing, and any other group has a lead of its own. -/
theorem apart_lines_below_group (margin : String) (labels : α → String)
    (gs : List (String × List α)) :
    Apart (margin ++ (leads gs.isEmpty).2) (linesBelow margin (gs.map (group labels))) := by
  cases gs with
  | nil => simp [Apart, linesBelow]
  | cons g gs =>
      intro line hline isLast hprefix
      obtain ⟨piece, pieces, -, hlines⟩ := label_lines_eq g.1
      rw [lines_below_group_cons, hlines] at hline
      obtain rfl : margin ++ (leads gs.isEmpty).1 ++ piece = line := Option.some.inj hline
      rw [String.toList_append] at hprefix
      exact not_further_lead margin piece _ gs.isEmpty ((List.prefix_append _ _).trans hprefix)

/-- Leaves in groups can be read back from their lines. -/
theorem lines_below_group_inj {a b : α → String} {gs : List (String × List α)}
    (h : linesBelow margin (gs.map (group a)) = linesBelow margin (gs.map (group b))) :
    ∀ g ∈ gs, ∀ x ∈ g.2, a x = b x := by
  induction gs with
  | nil => simp
  | cons g gs ih =>
      rw [lines_below_group_cons, lines_below_group_cons] at h
      obtain ⟨hleaves, hgroups⟩ := lines_below_leaf_inj (by simp)
        (apart_lines_below_group margin a gs) (apart_lines_below_group margin b gs)
        (List.append_cancel_left h)
      rw [List.forall_mem_cons]
      exact ⟨List.map_inj_left.1 hleaves, ih hgroups⟩

/-! ## Reading lines back -/

/-- The lines of a label hold no line feeds, if its leads hold none. -/
theorem no_feed_label_lines {first next : String} (hfirst : '\n' ∉ first.toList)
    (hnext : '\n' ∉ next.toList) (label : String) :
    ∀ line ∈ labelLines first next label, '\n' ∉ line.toList := by
  obtain ⟨piece, pieces, hsplit, hlines⟩ := label_lines_eq label
  have hpieces : ∀ piece' ∈ piece :: pieces, '\n' ∉ piece'.toList := by
    rw [← hsplit, Text.splitText, List.forall_mem_map]
    intro cs hcs
    rw [String.toList_ofList]
    exact Text.not_mem_of_mem_split_on hcs
  rw [List.forall_mem_cons] at hpieces
  rw [hlines, List.forall_mem_cons, List.forall_mem_map]
  constructor
  · simp [hfirst, hpieces.1]
  · intro piece' hpiece
    simp [hnext, hpieces.2 piece' hpiece]

mutual
/-- The lines of an outline below another hold no line feeds. -/
theorem no_feed_lines {margin : String} (hmargin : '\n' ∉ margin.toList) (isLast : Bool) :
    ∀ o : Outline, ∀ line ∈ lines margin isLast o, '\n' ∉ line.toList
  | .node label below => by
      rw [lines, List.forall_mem_append]
      have hfurther : '\n' ∉ (margin ++ if isLast then "    " else "│   ").toList := by
        cases isLast <;> simp [hmargin]
      constructor
      · refine no_feed_label_lines ?_ hfurther label
        cases isLast <;> simp [hmargin]
      · exact no_feed_lines_below hfurther below

/-- The lines of outlines below another hold no line feeds. -/
theorem no_feed_lines_below {margin : String} (hmargin : '\n' ∉ margin.toList) :
    ∀ below : List Outline, ∀ line ∈ linesBelow margin below, '\n' ∉ line.toList
  | [] => by simp [linesBelow]
  | o :: below => by
      rw [linesBelow, List.forall_mem_append]
      exact ⟨no_feed_lines hmargin below.isEmpty o, no_feed_lines_below hmargin below⟩
end

/-- The lines of an outline can be read back from its text. -/
theorem all_lines_of_text {o o' : Outline} (h : o.text = o'.text) : o.allLines = o'.allLines := by
  have hfree : ∀ o : Outline, ∀ line ∈ o.allLines, '\n' ∉ line.toList := by
    intro o
    obtain ⟨label, below⟩ := o
    rw [allLines, List.forall_mem_append]
    exact ⟨no_feed_label_lines (by decide) (by decide) label,
      no_feed_lines_below (by decide) below⟩
  exact Text.closed_lines_injective (hfree o) (hfree o') h

end SceneLint.Console.Outline
