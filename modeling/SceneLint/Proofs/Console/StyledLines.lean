import Mathlib.Data.List.TakeWhile
import SceneLint.Console.Terminal
import SceneLint.Proofs.Console.Escape
import SceneLint.Proofs.Text.Search

/-!
# Styled lines

`seen` reads markup as `shown` does and keeps, for every character, the styles that are open there.
A `Line` is fixed spans, each in a style of its own or in none, and at the end perhaps a text that
was given from outside, which is escaped. `seen_lines` is the main statement: of lines that are
written one below the other a reader sees the cells of each line and nothing else, whatever texts
were given, and `printed_lines` says the same of the characters alone. The tags among such lines are
the program's own (`own_tags_lines`), so every terminal takes them.

Two things keep the lines apart. A given text ends its line, so a tag that it leaves open would have
to be closed further down; and there the next bracket opens one of the spans' tags (`closes_lines`).
-/

namespace SceneLint.Console

/-! ## Cells -/

/-- A `Cell` is a character on a terminal with the styles that are open there. -/
structure Cell where
  char : Char
  styles : List String
deriving DecidableEq

/-- `cellsIn styles cs` is a text under the same styles throughout. -/
def cellsIn (styles : List String) (cs : List Char) : List Cell :=
  cs.map fun c => ⟨c, styles⟩

/-- `seen stack tokens` is the cells that are printed, given the styles that are open. -/
def seen : List String → List Token → Except MarkupFault (List Cell)
  | _, [] => .ok []
  | stack, .char c :: tokens => (seen stack tokens).map (⟨c, stack⟩ :: ·)
  | stack, .tag position body :: tokens =>
      match applyTag position body stack with
      | .ok stack => seen stack tokens
      | .error fault => .error fault

/-- The characters of the cells that are seen are those that are shown. -/
theorem shown_eq (stack : List String) (ts : List Token) :
    shown stack ts = (seen stack ts).map fun cells => cells.map Cell.char := by
  induction ts generalizing stack with
  | nil => rfl
  | cons t ts ih =>
      cases t with
      | char c =>
          rw [shown, seen, ih]
          cases seen stack ts <;> rfl
      | tag position body =>
          rw [shown, seen]
          cases applyTag position body stack with
          | ok stack => exact ih stack
          | error fault => rfl

/-- The characters of a text under some styles are the text. -/
theorem map_char_cells_in (styles : List String) (cs : List Char) :
    (cellsIn styles cs).map Cell.char = cs := by
  simp [cellsIn, Function.comp_def]

/-- Characters are seen under the styles that are open. -/
theorem seen_chars (stack : List String) (cs : List Char) (ts : List Token) :
    seen stack (cs.map .char ++ ts) = (seen stack ts).map (cellsIn stack cs ++ ·) := by
  induction cs with
  | nil => cases hseen : seen stack ts <;> simp [cellsIn, hseen, Except.map]
  | cons c cs ih =>
      rw [List.map_cons, List.cons_append, seen, ih]
      cases seen stack ts <;> rfl

/-! ## Spans -/

/-- `IsFixed cs` says that `cs` holds nothing that markup reads in a special way. -/
def IsFixed (cs : List Char) : Prop :=
  ∀ c ∈ cs, c ≠ '[' ∧ c ≠ ']' ∧ c ≠ '\\'

instance (cs : List Char) : Decidable (IsFixed cs) :=
  List.decidableBAll _ cs

/-- `IsStyleName name` says that `name` in brackets opens a style of just that name. -/
structure IsStyleName (name : String) : Prop where
  starts : ∃ c ∈ name.toList.head?, startsTag c = true ∧ c ≠ '/'
  plain : ∀ c ∈ name.toList, c ≠ '[' ∧ c ≠ ']' ∧ c ≠ '='
  trimmed : Text.trim name.toList = name.toList
  normal : normalName name.toList = name

/-- `IsStyleName` is decided by its four conditions. -/
instance (name : String) : Decidable (IsStyleName name) :=
  decidable_of_iff
    ((name.toList.head?.any fun c => startsTag c && c != '/') = true ∧
      (name.toList.all fun c => c != '[' && c != ']' && c != '=') = true ∧
      Text.trim name.toList = name.toList ∧ normalName name.toList = name)
    ⟨fun ⟨h₁, h₂, h₃, h₄⟩ => ⟨by simpa [Option.any_eq_true] using h₁,
        by simpa [and_assoc] using h₂, h₃, h₄⟩,
      fun h => ⟨by simpa [Option.any_eq_true] using h.starts, by simpa [and_assoc] using h.plain,
        h.trimmed, h.normal⟩⟩

/-- The program writes in styles that have proper names. -/
theorem style_names_proper : ∀ name ∈ styleNames, IsStyleName name := by
  decide

/-- A `Span` is fixed text in a style, or in none. -/
structure Span where
  style : Option String
  text : String

namespace Span

/-- `markup s` is a span between its tags. -/
def markup (s : Span) : String :=
  match s.style with
  | none => s.text
  | some name => "[" ++ name ++ "]" ++ s.text ++ "[/" ++ name ++ "]"

/-- `cells s` is what is seen of a span. -/
def cells (s : Span) : List Cell :=
  cellsIn s.style.toList s.text.toList

/-- `Proper s` says that a span holds no brackets but those of its tags, which are the program's
own. -/
structure Proper (s : Span) : Prop where
  fixed : IsFixed s.text.toList
  name : ∀ name ∈ s.style, name ∈ styleNames

end Span

/-! ## Reading spans -/

variable {cs body rest : List Char} {name : String}

/-- Fixed text is read character by character. -/
theorem tokens_fixed (h : IsFixed cs) (place : Nat) (rest : List Char) :
    tokens (.text 0) place (cs ++ rest) =
      cs.map .char ++ tokens (.text 0) (place + cs.length) rest := by
  induction cs generalizing place with
  | nil => rfl
  | cons c cs ih =>
      obtain ⟨hopen, -, hslash⟩ := h c List.mem_cons_self
      have hcs : IsFixed cs := fun d hd => h d (List.mem_cons_of_mem c hd)
      rw [List.cons_append, tokens_text_cons hslash hopen, ih hcs, List.length_cons,
        Nat.add_assoc, Nat.add_comm 1 cs.length]
      rfl

/-- Fixed text neither opens nor closes a tag. -/
theorem closes_fixed (h : IsFixed cs) (rest : List Char) : closes (cs ++ rest) = closes rest := by
  induction cs with
  | nil => rfl
  | cons c cs ih =>
      obtain ⟨hopen, hend, -⟩ := h c List.mem_cons_self
      rw [List.cons_append, closes, if_neg hend, if_neg hopen]
      exact ih fun d hd => h d (List.mem_cons_of_mem c hd)

/-- A text without brackets is closed by a closing bracket. -/
theorem closes_append_end (h : ∀ c ∈ cs, c ≠ '[' ∧ c ≠ ']') (rest : List Char) :
    closes (cs ++ ']' :: rest) = true := by
  induction cs with
  | nil => rfl
  | cons c cs ih =>
      obtain ⟨hopen, hend⟩ := h c List.mem_cons_self
      rw [List.cons_append, closes, if_neg hend, if_neg hopen]
      exact ih fun d hd => h d (List.mem_cons_of_mem c hd)

/-- The body of a tag is kept until the tag ends. -/
theorem tokens_tag_body (h : ∀ c ∈ cs, c ≠ ']') (position place : Nat) (body rest : List Char) :
    tokens (.tag position body) place (cs ++ ']' :: rest) =
      .tag position (body.reverse ++ cs) :: tokens (.text 0) (place + cs.length + 1) rest := by
  induction cs generalizing place body with
  | nil => simp [tokens]
  | cons c cs ih =>
      rw [List.cons_append, tokens, if_neg (h c List.mem_cons_self),
        ih fun d hd => h d (List.mem_cons_of_mem c hd)]
      simp [Nat.add_assoc, Nat.add_comm 1]

/-- A body without brackets continues an opening bracket to a tag. -/
theorem opens_tag_body (hstart : ∃ c ∈ body.head?, startsTag c = true)
    (h : ∀ c ∈ body, c ≠ '[' ∧ c ≠ ']') (rest : List Char) :
    opensTag (body ++ ']' :: rest) = true := by
  obtain ⟨c, hc, hstart⟩ := hstart
  cases body with
  | nil => cases hc
  | cons d body =>
      cases hc
      rw [List.cons_append, opensTag, hstart, Bool.true_and]
      exact closes_append_end (fun d hd => h d (List.mem_cons_of_mem _ hd)) rest

/-- A body without brackets, in brackets, is a tag. -/
theorem tokens_tag (hstart : ∃ c ∈ body.head?, startsTag c = true)
    (h : ∀ c ∈ body, c ≠ '[' ∧ c ≠ ']') (place : Nat) (rest : List Char) :
    tokens (.text 0) place ('[' :: (body ++ ']' :: rest)) =
      .tag place body :: tokens (.text 0) (place + 1 + body.length + 1) rest := by
  rw [tokens, if_neg (by decide), if_pos rfl, if_pos (opens_tag_body hstart h rest),
    if_neg (by decide), tokens_tag_body fun d hd => (h d hd).2]
  rfl

/-- The name of a style holds no brackets. -/
theorem IsStyleName.no_brackets (h : IsStyleName name) : ∀ c ∈ name.toList, c ≠ '[' ∧ c ≠ ']' :=
  fun c hc => ⟨(h.plain c hc).1, (h.plain c hc).2.1⟩

/-- The name of a style behind a slash holds no brackets either. -/
theorem IsStyleName.no_brackets_closing (h : IsStyleName name) :
    ∀ c ∈ '/' :: name.toList, c ≠ '[' ∧ c ≠ ']' := by
  rw [List.forall_mem_cons]
  exact ⟨by decide, h.no_brackets⟩

/-- The name of a style starts a tag. -/
theorem IsStyleName.starts_tag (h : IsStyleName name) :
    ∃ c ∈ name.toList.head?, startsTag c = true := by
  obtain ⟨c, hc, hstart, -⟩ := h.starts
  exact ⟨c, hc, hstart⟩

/-- A text without an equality sign is kept whole when it is cut there. -/
theorem take_while_of_plain (h : ∀ c ∈ cs, c ≠ '[' ∧ c ≠ ']' ∧ c ≠ '=') :
    cs.takeWhile (· != '=') = cs := by
  rw [List.takeWhile_eq_self_iff]
  intro c hc
  simpa using (h c hc).2.2

/-- The name of a style opens it. -/
theorem apply_tag_open (h : IsStyleName name) (position : Nat) (stack : List String) :
    applyTag position name.toList stack = .ok (name :: stack) := by
  obtain ⟨⟨c, hc, -, hslash⟩, hplain, -, hnormal⟩ := h
  rw [applyTag.eq_def, take_while_of_plain hplain]
  split
  · next rest heq =>
      rw [heq] at hc
      cases hc
      exact absurd rfl hslash
  · rw [hnormal]

/-- The style that was opened last is the first to be closed. -/
theorem close_tag_top (name : String) (stack : List String) :
    closeTag name (name :: stack) = some stack := by
  rw [closeTag, if_pos rfl]

/-- The name of a style behind a slash closes the latest style of that name. -/
theorem apply_tag_close {stack stack' : List String} (h : IsStyleName name)
    (hclose : closeTag name stack = some stack') (position : Nat) :
    applyTag position ('/' :: name.toList) stack = .ok stack' := by
  obtain ⟨⟨c, hc, -, -⟩, hplain, htrim, hnormal⟩ := h
  have hsome : name.toList.isEmpty = false := by
    cases hname : name.toList with
    | nil =>
        rw [hname] at hc
        cases hc
    | cons => rfl
  rw [applyTag.eq_def, List.takeWhile_cons_of_pos (by decide), take_while_of_plain hplain]
  simp only [htrim, hsome, hnormal, hclose, Bool.false_eq_true, if_false]

/-! ## What a reader sees of markup -/

/-- `Piece ts cells` says that of the tokens `ts` a reader sees `cells` and goes on with no style
open, and that the tags among them are the program's own. -/
structure Piece (ts : List Token) (cells : List Cell) : Prop where
  seen_append : ∀ more, seen [] (ts ++ more) = (seen [] more).map (cells ++ ·)
  own : ∀ body ∈ tagsOf ts, isOwnTag body = true

/-- `Shows before markup cells` says that `markup` is read as a piece of which a reader sees
`cells`, and that reading goes on behind it, wherever it stands in front of such a text as `before`
allows. -/
def Shows (before : List Char → Prop) (markup : String) (cells : List Cell) : Prop :=
  ∀ place rest, before rest → ∃ ts place', Piece ts cells ∧
    tokens (.text 0) place (markup.toList ++ rest) = ts ++ tokens (.text 0) place' rest

variable {before behind : List Char → Prop} {a b : String} {xs ys : List Cell}
  {ts ts' : List Token}

/-- What is seen may be told in two steps. -/
theorem map_append_map_append (x : Except MarkupFault (List Cell)) (xs ys : List Cell) :
    (x.map (ys ++ ·)).map (xs ++ ·) = x.map ((xs ++ ys) ++ ·) := by
  cases x with
  | error fault => rfl
  | ok zs => simp [Except.map]

/-- The tags among tokens are those in front and those behind. -/
theorem tags_of_append (ts ts' : List Token) : tagsOf (ts ++ ts') = tagsOf ts ++ tagsOf ts' :=
  List.filterMap_append

/-- Two pieces are one. -/
theorem Piece.append (ha : Piece ts xs) (hb : Piece ts' ys) : Piece (ts ++ ts') (xs ++ ys) where
  seen_append more := by
    rw [List.append_assoc, ha.seen_append, hb.seen_append, map_append_map_append]
  own := by
    rw [tags_of_append, List.forall_mem_append]
    exact ⟨ha.own, hb.own⟩

/-- Characters are a piece without style. -/
theorem piece_chars (cs : List Char) : Piece (cs.map .char) (cellsIn [] cs) where
  seen_append := seen_chars [] cs
  own := by simp [tagsOf, List.filterMap_map]

/-- Characters between the tags of a style of the program are a piece in this style. -/
theorem piece_styled (h : name ∈ styleNames) (cs : List Char) (position position' : Nat) :
    Piece (.tag position name.toList :: (cs.map .char ++ [.tag position' ('/' :: name.toList)]))
      (cellsIn [name] cs) where
  seen_append more := by
    have hname := style_names_proper name h
    rw [List.cons_append, seen, apply_tag_open hname]
    show seen [name] _ = _
    rw [List.append_assoc, seen_chars, List.singleton_append, seen,
      apply_tag_close hname (close_tag_top name [])]
  own := by
    have hopen : isOwnTag name.toList = true :=
      List.any_eq_true.2 ⟨name, h, by simp⟩
    have hclose : isOwnTag ('/' :: name.toList) = true :=
      List.any_eq_true.2 ⟨name, h, by simp⟩
    simp [tagsOf, List.filterMap_append, List.filterMap_map, hopen, hclose]

/-- Two pieces of markup show what each of them shows. -/
theorem Shows.append (ha : Shows before a xs) (hb : Shows behind b ys)
    (hbefore : ∀ rest, behind rest → before (b.toList ++ rest)) :
    Shows behind (a ++ b) (xs ++ ys) := by
  intro place rest hrest
  obtain ⟨ts, middle, hts, ha⟩ := ha place (b.toList ++ rest) (hbefore rest hrest)
  obtain ⟨ts', after, hts', hb⟩ := hb middle rest hrest
  refine ⟨ts ++ ts', after, hts.append hts', ?_⟩
  rw [String.toList_append, List.append_assoc, ha, hb, List.append_assoc]

/-- Of nothing, nothing is seen. -/
theorem shows_nil (before : List Char → Prop) : Shows before "" [] :=
  fun place _ _ => ⟨[], place, piece_chars [], rfl⟩

/-- An escaped text at the end of a line is seen without any style. -/
theorem shows_escape (given : String) :
    Shows Calm (escape given) (cellsIn [] (legible given).toList) := by
  intro place rest hrest
  obtain ⟨after, htokens⟩ := tokens_escape given hrest place
  exact ⟨_, after, piece_chars _, htokens⟩

/-- A span in a style is its text between two tags. -/
theorem to_list_markup_append (name text : String) (rest : List Char) :
    (Span.markup ⟨some name, text⟩).toList ++ rest =
      '[' :: (name.toList ++ ']' :: (text.toList ++
        '[' :: ('/' :: name.toList ++ ']' :: rest))) := by
  simp [Span.markup, String.toList_append]

/-- A proper span is seen in its own style. -/
theorem shows_span {s : Span} (h : s.Proper) : Shows (fun _ => True) s.markup s.cells := by
  intro place rest _
  obtain ⟨style, text⟩ := s
  cases style with
  | none => exact ⟨_, place + text.toList.length, piece_chars _, tokens_fixed h.fixed place rest⟩
  | some name =>
      have hmem : name ∈ styleNames := h.name name rfl
      have hname := style_names_proper name hmem
      let opened := place + 1 + name.toList.length + 1
      let closing := opened + text.toList.length
      refine ⟨_, closing + 1 + ('/' :: name.toList).length + 1,
        piece_styled hmem text.toList place closing, ?_⟩
      rw [to_list_markup_append, tokens_tag hname.starts_tag hname.no_brackets,
        tokens_fixed h.fixed, tokens_tag ⟨'/', rfl, by decide⟩ hname.no_brackets_closing]
      simp [opened, closing]

/-! ## Lines -/

/-- A `Line` is fixed spans, and at the end perhaps a text given from outside. -/
structure Line where
  spans : List Span
  given : Option String

namespace Line

/-- `markup l` is a line as it is written, with the given text escaped. -/
def markup (l : Line) : String :=
  String.join (l.spans.map Span.markup) ++ (l.given.map escape).getD ""

/-- `seenGiven l` is what is legible of the given text. -/
def seenGiven (l : Line) : String :=
  (l.given.map legible).getD ""

/-- `cells l` is what is seen of a line: its spans, each in its style, and the given text without
any. -/
def cells (l : Line) : List Cell :=
  l.spans.flatMap Span.cells ++ cellsIn [] l.seenGiven.toList

/-- `text l` is what is read of a line. -/
def text (l : Line) : String :=
  String.join (l.spans.map Span.text) ++ l.seenGiven

/-- `Proper l` says that the spans of a line are proper, and that one with a style stands before
a given text. -/
structure Proper (l : Line) : Prop where
  span : ∀ s ∈ l.spans, s.Proper
  styled : l.given.isSome = true → ∃ s ∈ l.spans, s.style.isSome = true

end Line

/-- `markupOf lines` is lines one below the other, as they are written. -/
def markupOf (lines : List Line) : String :=
  "\n".intercalate (lines.map Line.markup)

/-- `cellsOf lines` is what is seen of lines one below the other. -/
def cellsOf (lines : List Line) : List Cell :=
  [Cell.mk '\n' []].intercalate (lines.map Line.cells)

/-- `textOf lines` is what is read of lines one below the other. -/
def textOf (lines : List Line) : String :=
  "\n".intercalate (lines.map Line.text)

/-- A line is written in front of a line feed and the lines below it. -/
theorem markup_of_cons_cons (l next : Line) (others : List Line) :
    markupOf (l :: next :: others) = l.markup ++ "\n" ++ markupOf (next :: others) :=
  String.intercalate_cons_cons

/-- A line is read in front of a line feed and the lines below it. -/
theorem text_of_cons_cons (l next : Line) (others : List Line) :
    textOf (l :: next :: others) = l.text ++ "\n" ++ textOf (next :: others) :=
  String.intercalate_cons_cons

/-! ## One line -/

variable {spans : List Span} {l : Line} {lines : List Line}

/-- Proper spans are seen one after the other. -/
theorem shows_spans (h : ∀ s ∈ spans, s.Proper) :
    Shows (fun _ => True) (String.join (spans.map Span.markup)) (spans.flatMap Span.cells) := by
  induction spans with
  | nil => exact shows_nil _
  | cons s spans ih =>
      rw [List.forall_mem_cons] at h
      rw [List.map_cons, String.join_cons, List.flatMap_cons]
      exact (shows_span h.1).append (ih h.2) fun _ _ => trivial

/-- A proper line is seen as its cells. -/
theorem shows_line (h : l.Proper) : Shows Calm l.markup l.cells := by
  have hgiven : Shows Calm ((l.given.map escape).getD "") (cellsIn [] l.seenGiven.toList) := by
    rw [Line.seenGiven]
    cases l.given with
    | none => exact shows_nil Calm
    | some given => exact shows_escape given
  exact (shows_spans h.span).append hgiven fun _ _ => trivial

/-- Behind proper spans no tag is completed that was open before, unless they are all without style
and what follows completes it. -/
theorem closes_spans (h : ∀ s ∈ spans, s.Proper) {rest : List Char}
    (hrest : closes rest = false ∨ ∃ s ∈ spans, s.style.isSome = true) :
    closes ((String.join (spans.map Span.markup)).toList ++ rest) = false := by
  induction spans with
  | nil => simpa using hrest
  | cons s spans ih =>
      rw [List.forall_mem_cons] at h
      rw [List.map_cons, String.join_cons, String.toList_append, List.append_assoc]
      obtain ⟨style, text⟩ := s
      cases style with
      | none =>
          show closes (text.toList ++ _) = false
          rw [closes_fixed h.1.fixed]
          exact ih h.2 (by simpa using hrest)
      | some name => simp [Span.markup, String.toList_append, closes]

/-- A proper line completes no tag that was open before it, if what follows does not. -/
theorem closes_line (h : l.Proper) {rest : List Char} (hrest : closes rest = false) :
    closes (l.markup.toList ++ rest) = false := by
  rw [Line.markup, String.toList_append, List.append_assoc]
  refine closes_spans h.span ?_
  cases hgiven : l.given with
  | none => exact .inl hrest
  | some given => exact .inr (h.styled (by rw [hgiven]; rfl))

/-- The cells of a line read as its text. -/
theorem map_char_cells (l : Line) : l.cells.map Cell.char = l.text.toList := by
  have hspans : (l.spans.flatMap Span.cells).map Cell.char =
      (String.join (l.spans.map Span.text)).toList := by
    rw [String.toList_join, List.map_flatMap, List.flatMap_map]
    simp only [Span.cells, map_char_cells_in]
  rw [Line.cells, List.map_append, hspans, map_char_cells_in, Line.text, String.toList_append]

/-! ## Lines one below the other -/

/-- Proper lines complete no tag that was open before them. -/
theorem closes_lines (h : ∀ l ∈ lines, l.Proper) : closes (markupOf lines).toList = false := by
  induction lines with
  | nil => rfl
  | cons l lines ih =>
      rw [List.forall_mem_cons] at h
      cases lines with
      | nil =>
          have hline := closes_line h.1 calm_nil.closes_eq
          rwa [List.append_nil] at hline
      | cons next others =>
          rw [markup_of_cons_cons, String.toList_append, String.toList_append, List.append_assoc]
          exact closes_line h.1 (calm_line_feed (ih h.2)).closes_eq

/-- Proper lines are read as one piece, whatever texts were given. -/
theorem piece_lines (h : ∀ l ∈ lines, l.Proper) (place : Nat) :
    Piece (tokens (.text 0) place (markupOf lines).toList) (cellsOf lines) := by
  -- A line is seen whole because the lines below it complete no tag of its given text.
  induction lines generalizing place with
  | nil => exact piece_chars []
  | cons l lines ih =>
      rw [List.forall_mem_cons] at h
      cases lines with
      | nil =>
          obtain ⟨ts, after, hpiece, hline⟩ := shows_line h.1 place [] calm_nil
          rw [List.append_nil, tokens, printSlashes, slashes, List.replicate_zero, List.map_nil,
            List.append_nil] at hline
          rw [markupOf, List.map_singleton, String.intercalate_singleton, hline]
          simpa [cellsOf] using hpiece
      | cons next others =>
          obtain ⟨ts, after, hpiece, hline⟩ := shows_line h.1 place
            ('\n' :: (markupOf (next :: others)).toList) (calm_line_feed (closes_lines h.2))
          have hfeed : Piece [.char '\n'] [⟨'\n', []⟩] := piece_chars ['\n']
          have hwhole := hpiece.append (hfeed.append (ih h.2 (after + 1)))
          rw [tokens_text_cons (by decide) (by decide)] at hline
          have hbreak : "\n".toList = ['\n'] := rfl
          rw [markup_of_cons_cons, String.toList_append, String.toList_append, List.append_assoc,
            hbreak, List.singleton_append, hline]
          simpa [cellsOf, printSlashes, slashes] using hwhole

/-- Of proper lines a reader sees the cells of each, whatever texts were given. -/
theorem seen_lines (h : ∀ l ∈ lines, l.Proper) (place : Nat) :
    seen [] (tokens (.text 0) place (markupOf lines).toList) = .ok (cellsOf lines) := by
  have hseen := (piece_lines h place).seen_append []
  rwa [List.append_nil, seen, Except.map, List.append_nil] at hseen

/-- The tags among proper lines are the program's own, whatever texts were given. -/
theorem own_tags_lines (h : ∀ l ∈ lines, l.Proper) (place : Nat) :
    ∀ body ∈ tagsOf (tokens (.text 0) place (markupOf lines).toList), isOwnTag body = true :=
  (piece_lines h place).own

/-- The cells of lines read as their texts. -/
theorem map_char_cells_of (lines : List Line) :
    (cellsOf lines).map Cell.char = (textOf lines).toList := by
  induction lines with
  | nil => rfl
  | cons l lines ih =>
      cases lines with
      | nil =>
          rw [cellsOf, List.map_singleton, List.intercalate_singleton, map_char_cells]
          rfl
      | cons next others =>
          rw [text_of_cons_cons, String.toList_append, String.toList_append, ← ih, ← map_char_cells]
          simp [cellsOf]

/-- Proper lines are printed as their texts, whatever texts were given. -/
theorem printed_lines (h : ∀ l ∈ lines, l.Proper) :
    printed (markupOf lines) = .ok (textOf lines) := by
  rw [printed, shown_eq, seen_lines h]
  show Except.ok (String.ofList ((cellsOf lines).map Cell.char)) = _
  rw [map_char_cells_of, String.ofList_toList]

end SceneLint.Console
