import EditableFields.Factory.Source

/-!
# Lines of generated code

The text of generated code is its lines one after another, each with its end
(`toList_renderLines`). So the text of a planning is put together from a block for each factory and
for each entry point, in their orders (`Planning.source_eq_assembled`). A line is clear if one line is written for it and the line reads as
documentation exactly if it is (`Line.Clear`). From a text of clear lines the documentation can be
taken out again, with nothing known but the text: what is left is the text that is written without
documentation (`withoutDocs_renderLines`).
-/

namespace EditableFields

theorem toList_join (ss : List String) : (String.join ss).toList = ss.flatMap String.toList := by
  induction ss with
  | nil => rfl
  | cons s ss ih => rw [String.join_cons, String.toList_append, ih, List.flatMap_cons]

/-- The lines that are written. -/
def keptLines (docs : Bool) (ls : List Line) : List Line :=
  ls.filter fun l => docs || !l.isDoc

theorem toList_renderLines (docs : Bool) (ls : List Line) :
    (renderLines docs ls).toList = (keptLines docs ls).flatMap (·.render.toList) := by
  rw [renderLines, toList_join, List.flatMap_map]
  rfl

theorem renderLines_append (docs : Bool) (ls ls' : List Line) :
    renderLines docs (ls ++ ls') = renderLines docs ls ++ renderLines docs ls' := by
  simp [renderLines, String.join_append]

theorem renderLines_flatMap {α : Type} (docs : Bool) (f : α → List Line) (as : List α) :
    renderLines docs (as.flatMap f) = String.join (as.map fun a => renderLines docs (f a)) := by
  induction as with
  | nil => rfl
  | cons a as ih => rw [List.flatMap_cons, renderLines_append, ih, List.map_cons, String.join_cons]

/-- Lines of code are in the text, with documentation or without. -/
theorem code_infix_renderLines {indent : Nat} {text : String} {ls : List Line}
    (h : .code indent text ∈ ls) (docs : Bool) :
    (text ++ "\n").toList <:+: (renderLines docs ls).toList := by
  have kept : .code indent text ∈ keptLines docs ls := List.mem_filter.2 ⟨h, by simp [Line.code]⟩
  rw [toList_renderLines, List.flatMap_def]
  refine List.IsInfix.trans ?_ (List.infix_of_mem_flatten (List.mem_map_of_mem kept))
  exact ⟨List.replicate (4 * indent) ' ', [], by simp [Line.render, Line.code]⟩

namespace Planning

/-- The text of a generated factory. -/
def factoryBlock (c : Configuration) (p : Plan) : String :=
  renderLines c.docs (Line.blank :: p.lines c)

/-- The text of a generated entry point. -/
def entryBlock (c : Configuration) (e : Entry) : String :=
  renderLines c.docs (Line.blank :: e.lines c)

/-- The text of factories and entry points in their orders, below the first line. -/
def assembled (c : Configuration) (plans : List Plan) (entries : List Entry) : String :=
  renderLines c.docs [.code 0 "// Generated by fieldforge-codegen. Do not edit."] ++
    String.join (plans.map (factoryBlock c)) ++ String.join (entries.map (entryBlock c))

theorem source_eq_assembled (c : Configuration) (s : Planning) :
    s.source c = assembled c s.inOrder s.entries := by
  simp only [source, lines, renderLines_append, renderLines_flatMap, assembled]
  rfl

end Planning

/-! ## Documentation in a text -/

/-- Whether a line of a text is documentation: its first characters after leading spaces are three
slashes. -/
def isDocLine (line : List Char) : Bool :=
  ['/', '/', '/'].isPrefixOf (line.dropWhile (· == ' '))

/-- A text without its lines of documentation. -/
def withoutDocs (text : String) : String :=
  String.ofList (['\n'].intercalate ((text.toList.splitOn '\n').filter fun line =>
    !isDocLine line))

/-- What is written for a line before its end. -/
def Line.content (l : Line) : List Char :=
  List.replicate (4 * l.indent) ' ' ++ ((if l.isDoc then "/// " else "").toList ++ l.text.toList)

/-- One line is written for a line, and it reads as documentation exactly if it is. -/
structure Line.Clear (l : Line) : Prop where
  unbroken : '\n' ∉ l.text.toList
  isDocLine_text : l.isDoc = false → isDocLine l.text.toList = false

namespace Line

variable {l : Line}

theorem toList_render (l : Line) : l.render.toList = l.content ++ ['\n'] := by
  simp [render, content, List.append_assoc]

theorem Clear.unbroken_content (h : l.Clear) : '\n' ∉ l.content := by
  have spaces : '\n' ∉ List.replicate (4 * l.indent) ' ' := by simp
  have mark : '\n' ∉ (if l.isDoc then "/// " else "").toList := by split <;> decide
  simp only [content, List.mem_append, not_or]
  exact ⟨spaces, mark, h.unbroken⟩

theorem Clear.isDocLine_content (h : l.Clear) : isDocLine l.content = l.isDoc := by
  have spaces : l.content.dropWhile (· == ' ') =
      ((if l.isDoc then "/// " else "").toList ++ l.text.toList).dropWhile (· == ' ') :=
    List.dropWhile_append_of_pos fun c hc => by simp [List.eq_of_mem_replicate hc]
  cases hdoc : l.isDoc with
  | true => simp [isDocLine, spaces, hdoc]
  | false =>
    have text : isDocLine l.content = isDocLine l.text.toList := by
      simp [isDocLine, spaces, hdoc]
    rw [text, h.isDocLine_text hdoc]

end Line

/-- Lines with their ends are lines with ends between them, and an empty one behind the last. -/
theorem flatMap_content (ls : List Line) :
    ls.flatMap (·.render.toList) = ['\n'].intercalate (ls.map Line.content ++ [[]]) := by
  induction ls with
  | nil => rfl
  | cons l ls ih =>
    rw [List.flatMap_cons, ih, Line.toList_render]
    cases ls <;> simp [List.intercalate_cons_cons]

/-- A text of clear lines without its documentation is the text without lines of documentation. -/
theorem withoutDocs_renderLines {ls : List Line} (h : ∀ l ∈ ls, l.Clear) :
    withoutDocs (renderLines true ls) = renderLines false ls := by
  have kept : keptLines true ls = ls := by simp [keptLines]
  -- Ends are nowhere but between lines, so the text is split into its lines again.
  have lines : (renderLines true ls).toList.splitOn '\n' = ls.map Line.content ++ [[]] := by
    rw [toList_renderLines, kept, flatMap_content]
    refine List.splitOn_intercalate '\n' (fun line hline => ?_) (by simp)
    rcases List.mem_append.1 hline with hline | hline
    · obtain ⟨l, hl, rfl⟩ := List.mem_map.1 hline
      exact (h l hl).unbroken_content
    · cases List.mem_singleton.1 hline
      exact List.not_mem_nil
  have code : (ls.map Line.content).filter (fun line => !isDocLine line) =
      (keptLines false ls).map Line.content := by
    rw [List.filter_map, keptLines]
    refine congrArg (List.map Line.content) (List.filter_congr fun l hl => ?_)
    simp [(h l hl).isDocLine_content]
  rw [withoutDocs, lines, List.filter_append, code, ← String.toList_inj, toList_renderLines,
    flatMap_content, String.toList_ofList]
  rfl

end EditableFields
