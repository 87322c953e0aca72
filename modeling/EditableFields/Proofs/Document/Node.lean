import EditableFields.Markup.Reader
import EditableFields.Proofs.Document.Spelling
import Mathlib.Data.List.TakeWhile

/-!
# Documents: reading back what was written

Elements written with every value in quotes and every element closed, in any layout, are read as
the events of just these elements, whichever quotes were taken (`events_documentIn`) and in
particular with double quotes (`events_document`). Values may hold anything but a double quote:
the reader expands nothing, and looks for `>` and `<` outside of quotes only.
-/

namespace EditableFields.Markup

/-! ## Writing -/

/-- An element and the elements in it. -/
inductive Node where
  | element (tag : Tag) (children : List Node)

/-- How elements are laid out: the blanks before a tag at each depth, and whether an element
without children is written as one tag. -/
structure Layout where
  gap : Nat → List Char
  blank : ∀ depth, ∀ c ∈ gap depth, isBlank c = true
  selfClosing : Bool

/-- Everything on one line. -/
def Layout.compact : Layout :=
  ⟨fun _ => [], fun _ _ h => absurd h List.not_mem_nil, true⟩

/-- Each tag on a line of its own, indented by its depth. -/
def Layout.indented (width : Nat) (selfClosing : Bool) : Layout where
  gap depth := '\n' :: List.replicate (width * depth) ' '
  blank := by
    intro depth c hc
    rcases List.mem_cons.1 hc with rfl | hc
    · rfl
    · rw [List.eq_of_mem_replicate hc]
      rfl
  selfClosing := selfClosing

/-- Which quotes each value is written in. A value in single quotes holds none. -/
structure Quoting where
  mark : Attribute → Char
  apt : ∀ a, mark a = '"' ∨ mark a = '\'' ∧ '\'' ∉ a.value.toList

def Quoting.double : Quoting :=
  ⟨fun _ => '"', fun _ => .inl rfl⟩

/-- Single quotes where the value allows them. -/
def Quoting.single : Quoting where
  mark a := if '\'' ∈ a.value.toList then '"' else '\''
  apt := by
    intro a
    split
    · exact .inl rfl
    · rename_i h
      exact .inr ⟨rfl, h⟩

def Attribute.chars (a : Attribute) : List Char :=
  ' ' :: a.key.toList ++ '=' :: '"' :: a.value.toList ++ ['"']

def Attribute.charsIn (q : Quoting) (a : Attribute) : List Char :=
  ' ' :: a.key.toList ++ '=' :: q.mark a :: a.value.toList ++ [q.mark a]

def Tag.chars (t : Tag) : List Char :=
  t.name.toList ++ t.attributes.flatMap Attribute.chars

def Tag.charsIn (q : Quoting) (t : Tag) : List Char :=
  t.name.toList ++ t.attributes.flatMap (Attribute.charsIn q)

mutual

def Node.chars (l : Layout) (depth : Nat) : Node → List Char
  | .element tag children =>
    if l.selfClosing && children.isEmpty then
      l.gap depth ++ '<' :: tag.chars ++ ['/', '>']
    else
      l.gap depth ++ '<' :: tag.chars ++ '>' :: nodesChars l (depth + 1) children ++
        l.gap depth ++ '<' :: '/' :: tag.name.toList ++ ['>']

def nodesChars (l : Layout) (depth : Nat) : List Node → List Char
  | [] => []
  | n :: ns => n.chars l depth ++ nodesChars l depth ns

end

mutual

def Node.charsIn (l : Layout) (q : Quoting) (depth : Nat) : Node → List Char
  | .element tag children =>
    if l.selfClosing && children.isEmpty then
      l.gap depth ++ '<' :: tag.charsIn q ++ ['/', '>']
    else
      l.gap depth ++ '<' :: tag.charsIn q ++ '>' :: nodesCharsIn l q (depth + 1) children ++
        l.gap depth ++ '<' :: '/' :: tag.name.toList ++ ['>']

def nodesCharsIn (l : Layout) (q : Quoting) (depth : Nat) : List Node → List Char
  | [] => []
  | n :: ns => n.charsIn l q depth ++ nodesCharsIn l q depth ns

end

/-- A document with one element at its root. -/
def Node.document (l : Layout) (n : Node) : String :=
  String.ofList (n.chars l 0 ++ l.gap 0)

def Node.documentIn (l : Layout) (q : Quoting) (n : Node) : String :=
  String.ofList (n.charsIn l q 0 ++ l.gap 0)

mutual

theorem Node.charsIn_double (l : Layout) (depth : Nat) :
    ∀ n : Node, n.charsIn l .double depth = n.chars l depth
  | .element tag children => by
    rw [Node.charsIn, Node.chars, nodesCharsIn_double l (depth + 1) children]
    rfl

theorem nodesCharsIn_double (l : Layout) (depth : Nat) :
    ∀ ns : List Node, nodesCharsIn l .double depth ns = nodesChars l depth ns
  | [] => rfl
  | n :: ns => by
    rw [nodesCharsIn, nodesChars, Node.charsIn_double l depth n, nodesCharsIn_double l depth ns]

end

/-- Nothing but double quotes is one way to write a document. -/
theorem Node.documentIn_double (l : Layout) (n : Node) : n.documentIn l .double = n.document l := by
  rw [documentIn, document, charsIn_double]

namespace Node

variable (l : Layout)

/-- Whether the element is written as one tag. -/
def isEmpty : Node → Bool
  | element _ children => l.selfClosing && children.isEmpty

def tag : Node → Tag
  | element tag _ => tag

/-- The event of the element's first tag. -/
def opening (n : Node) : Event :=
  if n.isEmpty l then .empty n.tag else .start n.tag

end Node

mutual

/-- The events after the element's first tag. -/
def Node.inner (l : Layout) : Node → List Event
  | .element tag children =>
    if l.selfClosing && children.isEmpty then []
    else nodesEvents l children ++ [.close tag.name]

def nodesEvents (l : Layout) : List Node → List Event
  | [] => []
  | n :: ns => n.opening l :: n.inner l ++ nodesEvents l ns

end

/-- An element is written as one tag, if it has no children, or as two with its children
between. -/
theorem Node.written (l : Layout) (tag : Tag) (children : List Node) :
    ((element tag children).isEmpty l = true ∧ children = [] ∧
        (element tag children).opening l = .empty tag ∧ (element tag children).inner l = []) ∨
      ((element tag children).isEmpty l = false ∧
        (element tag children).opening l = .start tag ∧
        (element tag children).inner l = nodesEvents l children ++ [.close tag.name]) := by
  rw [opening, inner, isEmpty, Node.tag]
  by_cases h : (l.selfClosing && children.isEmpty) = true
  · have hnil : children = [] := List.isEmpty_iff.1 (Bool.and_eq_true_iff.1 h).2
    exact .inl ⟨h, hnil, if_pos h, if_pos h⟩
  · exact .inr ⟨Bool.eq_false_iff.2 h, if_neg h, if_neg h⟩

/-! ## What may be written -/

/-- Whether a character may stand in a name. -/
def isPlain (c : Char) : Bool :=
  !isBlank c && !(['"', '\'', '=', '/', '>', '!', '?'].contains c)

def PlainName (s : String) : Prop :=
  s.toList ≠ [] ∧ ∀ c ∈ s.toList, isPlain c = true

instance (s : String) : Decidable (PlainName s) :=
  decidable_of_iff (s.toList ≠ [] ∧ s.toList.all isPlain = true) (by
    rw [PlainName, List.all_eq_true])

/-- A text that can be written between double quotes. -/
def Quotable (s : String) : Prop :=
  '"' ∉ s.toList

instance (s : String) : Decidable (Quotable s) :=
  inferInstanceAs (Decidable (¬_))

structure Attribute.Wellformed (a : Attribute) : Prop where
  key : PlainName a.key
  value : Quotable a.value

structure Tag.Wellformed (t : Tag) : Prop where
  name : PlainName t.name
  attributes : ∀ a ∈ t.attributes, a.Wellformed
  distinct : (t.attributes.map (·.key)).Nodup

mutual

def Node.Wellformed : Node → Prop
  | .element tag children => tag.Wellformed ∧ NodesWellformed children

def NodesWellformed : List Node → Prop
  | [] => True
  | n :: ns => n.Wellformed ∧ NodesWellformed ns

end

section Plain

variable {c : Char} (h : isPlain c = true)
include h

theorem not_isBlank_of_isPlain : isBlank c = false := by
  simp only [isPlain, Bool.and_eq_true, Bool.not_eq_true'] at h
  exact h.1

theorem ne_of_isPlain {d : Char} (hd : isPlain d = false) : c ≠ d := by
  rintro rfl
  rw [hd] at h
  cases h

theorem quoteAfter_of_isPlain : Reader.quoteAfter none c = none := by
  have hdouble : c ≠ '"' := ne_of_isPlain h rfl
  have hsingle : c ≠ '\'' := ne_of_isPlain h rfl
  simp [Reader.quoteAfter, hdouble, hsingle]

end Plain

theorem Quoting.isQuote_mark (q : Quoting) (a : Attribute) : IsQuote (q.mark a) := by
  rcases q.apt a with h | ⟨h, -⟩
  · exact .inl h
  · exact .inr h

theorem Quoting.mark_not_mem (q : Quoting) {a : Attribute} (ha : a.Wellformed) :
    q.mark a ∉ a.value.toList := by
  rcases q.apt a with h | ⟨h, hvalue⟩
  · rw [h]
    exact ha.value
  · rw [h]
    exact hvalue

/-! ## Attributes -/

theorem PlainName.isKey {s : String} (h : PlainName s) : IsKey s.toList := by
  obtain ⟨hne, hplain⟩ := h
  obtain ⟨c, cs, hs⟩ := List.exists_cons_of_ne_nil hne
  rw [hs] at hplain
  obtain ⟨hc, hcs⟩ := List.forall_mem_cons.1 hplain
  refine ⟨c, cs, hs, not_isBlank_of_isPlain hc, fun d hd => ?_⟩
  exact ⟨ne_of_isPlain (hcs d hd) rfl, not_isBlank_of_isPlain (hcs d hd)⟩

theorem holds_flatMap (q : Quoting) {as : List Attribute} (has : ∀ a ∈ as, a.Wellformed) :
    Holds Blank (as.flatMap (Attribute.charsIn q)) as := by
  induction as with
  | nil => exact .nil blank_nil
  | cons a as ih =>
    obtain ⟨ha, has⟩ := List.forall_mem_cons.1 has
    have hblank : Blank [' '] := by
      intro c hc
      rw [List.mem_singleton.1 hc]
      rfl
    have hspelled := Attribute.Spelled.intro ha.key.isKey blank_nil blank_nil (q.isQuote_mark a)
      (q.mark_not_mem ha)
    have hholds := Holds.cons hblank hspelled (ih has)
    simpa [Attribute.charsIn] using hholds

namespace Tag

variable (q : Quoting) {t : Tag} (ht : t.Wellformed)
include ht

theorem attributesOf_flatMap :
    attributesOf (t.attributes.flatMap (Attribute.charsIn q)) = t.attributes :=
  attributesOf_of_holds (holds_flatMap q ht.attributes) ht.distinct

theorem ofContent_chars : ofContent (t.charsIn q) = t := by
  have hname : ∀ c ∈ t.name.toList, (!isBlank c) = true := fun c hc => by
    rw [not_isBlank_of_isPlain (ht.name.2 c hc)]
    rfl
  have htake : (t.attributes.flatMap (Attribute.charsIn q)).takeWhile (!isBlank ·) = [] := by
    cases t.attributes <;> rfl
  have hdrop : (t.attributes.flatMap (Attribute.charsIn q)).dropWhile (!isBlank ·) =
      t.attributes.flatMap (Attribute.charsIn q) := by
    cases t.attributes <;> rfl
  rw [ofContent, charsIn, List.takeWhile_append_of_pos hname, List.dropWhile_append_of_pos hname,
    htake, hdrop, List.append_nil, String.ofList_toList, attributesOf_flatMap q ht]

/-- Where a tag ends there is no slash, so it is not taken for one that closes itself. -/
theorem head?_reverse_chars : (t.charsIn q).reverse.head? ≠ some '/' := by
  obtain has | ⟨as, a, has⟩ := t.attributes.eq_nil_or_concat
  · intro h
    have hmem : '/' ∈ t.name.toList := by
      rw [charsIn, has, List.flatMap_nil, List.append_nil, List.head?_reverse] at h
      exact List.mem_of_getLast? h
    exact ne_of_isPlain (ht.name.2 _ hmem) rfl rfl
  · have hmark : q.mark a ≠ '/' := by
      rcases q.isQuote_mark a with h | h <;> rw [h] <;> decide
    simp [charsIn, has, Attribute.charsIn, hmark]

end Tag

/-! ## Tags -/

namespace Reader

theorem run_blank {gap : List Char} (hgap : ∀ c ∈ gap, isBlank c = true) (names : List String)
    (rest : List Char) :
    run ⟨names, .content false⟩ (gap ++ rest) = run ⟨names, .content false⟩ rest := by
  induction gap with
  | nil => rfl
  | cons c cs ih =>
    obtain ⟨hc, hcs⟩ := List.forall_mem_cons.1 hgap
    have hlt : c ≠ '<' := by rintro rfl; cases hc
    have hamp : c ≠ '&' := by rintro rfl; cases hc
    rw [List.cons_append, run]
    simp only [step, stepContent, if_neg hlt, if_neg hamp, goto, hc]
    exact ih hcs

/-- A state that only collects some characters takes a run of them in one go. -/
theorem run_collect (p : Char → Prop) (state : List Char → ReaderState) {names : List String}
    (hstep : ∀ c, p c → ∀ text,
      step ⟨names, state text⟩ c = (none, ⟨names, state (c :: text)⟩))
    {cs : List Char} (hcs : ∀ c ∈ cs, p c) (text rest : List Char) :
    run ⟨names, state text⟩ (cs ++ rest) = run ⟨names, state (cs.reverse ++ text)⟩ rest := by
  induction cs generalizing text with
  | nil => rfl
  | cons c cs ih =>
    obtain ⟨hc, hcs⟩ := List.forall_mem_cons.1 hcs
    rw [List.cons_append, run, hstep c hc]
    dsimp only
    rw [Option.toList_none, List.nil_append, ih hcs, List.reverse_cons, List.append_assoc,
      List.singleton_append]

theorem run_tag_plain {cs : List Char} (hcs : ∀ c ∈ cs, isPlain c = true) (names : List String)
    (text rest : List Char) :
    run ⟨names, .tag text none⟩ (cs ++ rest) =
      run ⟨names, .tag (cs.reverse ++ text) none⟩ rest := by
  refine run_collect (isPlain · = true) (.tag · none) (fun c hc text => ?_) hcs text rest
  have hgt : c ≠ '>' := ne_of_isPlain hc rfl
  simp [step, goto, hgt, quoteAfter_of_isPlain hc]

theorem run_tag_quoted {quote : Char} {cs : List Char} (hcs : quote ∉ cs) (names : List String)
    (text rest : List Char) :
    run ⟨names, .tag text (some quote)⟩ (cs ++ rest) =
      run ⟨names, .tag (cs.reverse ++ text) (some quote)⟩ rest := by
  refine run_collect (· ≠ quote) (.tag · (some quote)) (fun c hc text => ?_)
    (fun c hc heq => hcs (heq ▸ hc)) text rest
  simp [step, goto, quoteAfter, hc]

section Tags

variable (q : Quoting)

theorem run_tag_attribute {a : Attribute} (ha : a.Wellformed) (names : List String)
    (text rest : List Char) :
    run ⟨names, .tag text none⟩ (a.charsIn q ++ rest) =
      run ⟨names, .tag ((a.charsIn q).reverse ++ text) none⟩ rest := by
  have htext : a.charsIn q ++ rest =
      ' ' :: (a.key.toList ++ '=' :: q.mark a :: (a.value.toList ++ q.mark a :: rest)) := by
    simp [Attribute.charsIn]
  have hspace (cs : List Char) : run ⟨names, .tag text none⟩ (' ' :: cs) =
      run ⟨names, .tag (' ' :: text) none⟩ cs := rfl
  have hequals (text cs : List Char) : run ⟨names, .tag text none⟩ ('=' :: q.mark a :: cs) =
      run ⟨names, .tag (q.mark a :: '=' :: text) (some (q.mark a))⟩ cs := by
    rcases q.isQuote_mark a with h | h <;> rw [h] <;> rfl
  have hquote (text cs : List Char) :
      run ⟨names, .tag text (some (q.mark a))⟩ (q.mark a :: cs) =
        run ⟨names, .tag (q.mark a :: text) none⟩ cs := by
    rcases q.isQuote_mark a with h | h <;> rw [h] <;> rfl
  rw [htext, hspace, run_tag_plain ha.key.2, hequals, run_tag_quoted (q.mark_not_mem ha), hquote]
  simp [Attribute.charsIn]

theorem run_tag_attributes {as : List Attribute} (has : ∀ a ∈ as, a.Wellformed)
    (names : List String) (text rest : List Char) :
    run ⟨names, .tag text none⟩ (as.flatMap (Attribute.charsIn q) ++ rest) =
      run ⟨names, .tag ((as.flatMap (Attribute.charsIn q)).reverse ++ text) none⟩ rest := by
  induction as generalizing text with
  | nil => rfl
  | cons a as ih =>
    obtain ⟨ha, has⟩ := List.forall_mem_cons.1 has
    rw [List.flatMap_cons, List.append_assoc, run_tag_attribute q ha, ih has]
    simp

/-- A tag is taken up to its end, whatever follows. -/
theorem run_tag {t : Tag} (ht : t.Wellformed) (names : List String) (rest : List Char) :
    run ⟨names, .content false⟩ ('<' :: (t.charsIn q ++ rest)) =
      run ⟨names, .tag (t.charsIn q).reverse none⟩ rest := by
  obtain ⟨hne, hplain⟩ := ht.name
  obtain ⟨c, cs, hname⟩ := List.exists_cons_of_ne_nil hne
  rw [hname] at hplain
  obtain ⟨hc, hcs⟩ := List.forall_mem_cons.1 hplain
  have htext : t.charsIn q ++ rest =
      c :: (cs ++ (t.attributes.flatMap (Attribute.charsIn q) ++ rest)) := by
    simp [Tag.charsIn, hname]
  have hlt (cs : List Char) :
      run ⟨names, .content false⟩ ('<' :: cs) = run ⟨names, .opened⟩ cs := rfl
  have hopen (cs : List Char) :
      run ⟨names, .opened⟩ (c :: cs) = run ⟨names, .tag [c] none⟩ cs := by
    have hbang : c ≠ '!' := ne_of_isPlain hc rfl
    have hquestion : c ≠ '?' := ne_of_isPlain hc rfl
    have hslash : c ≠ '/' := ne_of_isPlain hc rfl
    have hgt : c ≠ '>' := ne_of_isPlain hc rfl
    rw [run]
    simp [step, goto, hbang, hquestion, hslash, hgt, quoteAfter_of_isPlain hc]
  rw [htext, hlt, hopen, run_tag_plain hcs, run_tag_attributes q ht.attributes]
  simp [Tag.charsIn, hname]

theorem run_start {t : Tag} (ht : t.Wellformed) (names : List String) (rest : List Char) :
    run ⟨names, .content false⟩ ('<' :: (t.charsIn q ++ '>' :: rest)) =
      .start t :: run ⟨t.name :: names, .content false⟩ rest := by
  have hyield : yieldTag ⟨names, .tag (t.charsIn q).reverse none⟩ (t.charsIn q).reverse =
      (some (.start t), ⟨t.name :: names, .content false⟩) := by
    unfold yieldTag
    split
    · rename_i text htext
      exact absurd (by rw [htext]; rfl) (Tag.head?_reverse_chars q ht)
    · rw [List.reverse_reverse, Tag.ofContent_chars q ht]
  rw [run_tag q ht, run]
  simp only [step, Option.isNone_none, Bool.true_and, decide_true, if_true, hyield]
  rfl

theorem run_empty {t : Tag} (ht : t.Wellformed) (names : List String) (rest : List Char) :
    run ⟨names, .content false⟩ ('<' :: (t.charsIn q ++ '/' :: '>' :: rest)) =
      .empty t :: run ⟨names, .content false⟩ rest := by
  have hslash : run ⟨names, .tag (t.charsIn q).reverse none⟩ ('/' :: '>' :: rest) =
      .empty (Tag.ofContent (t.charsIn q).reverse.reverse) ::
        run ⟨names, .content false⟩ rest := rfl
  rw [run_tag q ht, hslash, List.reverse_reverse, Tag.ofContent_chars q ht]

end Tags

theorem run_closing {cs : List Char} (hcs : ∀ c ∈ cs, isPlain c = true) (names : List String)
    (text rest : List Char) :
    run ⟨names, .closing text none⟩ (cs ++ rest) =
      run ⟨names, .closing (cs.reverse ++ text) none⟩ rest := by
  refine run_collect (isPlain · = true) (.closing · none) (fun c hc text => ?_) hcs text rest
  have hgt : c ≠ '>' := ne_of_isPlain hc rfl
  simp [step, goto, hgt, quoteAfter_of_isPlain hc]

theorem run_close {name : String} (hname : PlainName name) (names : List String)
    (rest : List Char) :
    run ⟨name :: names, .content false⟩ ('<' :: '/' :: (name.toList ++ '>' :: rest)) =
      .close name :: run ⟨names, .content false⟩ rest := by
  obtain ⟨hne, hplain⟩ := hname
  have hopen (cs : List Char) : run ⟨name :: names, .content false⟩ ('<' :: '/' :: cs) =
      run ⟨name :: names, .closing [] none⟩ cs := rfl
  have hdrop : name.toList.reverse.dropWhile isBlank = name.toList.reverse := by
    rw [List.dropWhile_eq_self_iff]
    intro hpos
    rw [not_isBlank_of_isPlain (hplain _ (List.mem_reverse.1 (List.getElem_mem hpos)))]
    exact Bool.false_ne_true
  have hyield :
      yieldClose ⟨name :: names, .closing name.toList.reverse none⟩ name.toList.reverse =
        (some (.close name), ⟨names, .content false⟩) := by
    simp [yieldClose, hdrop, List.isEmpty_iff, hne]
  rw [hopen, run_closing hplain, List.append_nil, run]
  simp only [step, Option.isNone_none, Bool.true_and, decide_true, if_true, hyield]
  rfl

end Reader

/-! ## Elements -/

variable (l : Layout) (q : Quoting)

mutual

theorem Node.run_chars (depth : Nat) : ∀ {n : Node}, n.Wellformed → ∀ (names : List String)
    (rest : List Char),
    Reader.run ⟨names, .content false⟩ (n.charsIn l q depth ++ rest) =
      n.opening l :: n.inner l ++ Reader.run ⟨names, .content false⟩ rest
  | .element tag children, ⟨htag, hchildren⟩, names, rest => by
    rw [Node.charsIn, Node.opening, Node.inner, Node.isEmpty, Node.tag]
    split
    · rw [List.append_assoc, List.append_assoc, Reader.run_blank (l.blank depth)]
      exact Reader.run_empty q htag names rest
    · have htext : l.gap depth ++ '<' :: tag.charsIn q ++
          '>' :: nodesCharsIn l q (depth + 1) children ++
            l.gap depth ++ '<' :: '/' :: tag.name.toList ++ ['>'] ++ rest =
              l.gap depth ++ '<' :: (tag.charsIn q ++
                '>' :: (nodesCharsIn l q (depth + 1) children ++
                  (l.gap depth ++ '<' :: '/' :: (tag.name.toList ++ '>' :: rest)))) := by
        simp
      rw [htext, Reader.run_blank (l.blank depth), Reader.run_start q htag,
        run_nodesChars (depth + 1) hchildren, Reader.run_blank (l.blank depth),
        Reader.run_close htag.name]
      simp

theorem run_nodesChars (depth : Nat) : ∀ {ns : List Node}, NodesWellformed ns →
    ∀ (names : List String) (rest : List Char),
    Reader.run ⟨names, .content false⟩ (nodesCharsIn l q depth ns ++ rest) =
      nodesEvents l ns ++ Reader.run ⟨names, .content false⟩ rest
  | [], _, names, rest => by rw [nodesCharsIn, nodesEvents]; rfl
  | n :: ns, ⟨hn, hns⟩, names, rest => by
    rw [nodesCharsIn, nodesEvents, List.append_assoc, Node.run_chars depth hn,
      run_nodesChars depth hns, List.append_assoc]

end

theorem dropMark_cons {c : Char} (hc : c ≠ '\uFEFF') (cs : List Char) :
    dropMark (c :: cs) = c :: cs := by
  unfold dropMark
  split
  · rename_i heq
    exact absurd (List.cons.inj heq).1 hc
  · rfl

theorem dropMark_chars (n : Node) (rest : List Char) :
    dropMark (n.charsIn l q 0 ++ rest) = n.charsIn l q 0 ++ rest := by
  -- A document begins with a blank or, where there is no gap, with the tag of its root.
  have hgap (cs : List Char) : dropMark (l.gap 0 ++ '<' :: cs) = l.gap 0 ++ '<' :: cs := by
    cases heq : l.gap 0 with
    | nil => exact dropMark_cons (by decide) cs
    | cons c gap =>
      have hc : isBlank c = true := l.blank 0 c (heq ▸ List.mem_cons_self)
      exact dropMark_cons (by rintro rfl; cases hc) _
  cases n with
  | element tag children =>
    rw [Node.charsIn]
    split
    · simpa using hgap _
    · simpa using hgap _

/-- A document is read as the events of its elements, whichever quotes were taken. -/
theorem events_documentIn {n : Node} (hn : n.Wellformed) :
    events (n.documentIn l q) = n.opening l :: n.inner l := by
  rw [events, Node.documentIn, String.toList_ofList, dropMark_chars, Reader.fresh,
    Node.run_chars l q 0 hn]
  have hend : Reader.run ⟨[], .content false⟩ (l.gap 0) = [] := by
    rw [← List.append_nil (l.gap 0), Reader.run_blank (l.blank 0)]
    rfl
  rw [hend, List.append_nil]

theorem events_document {n : Node} (hn : n.Wellformed) :
    events (n.document l) = n.opening l :: n.inner l := by
  rw [← Node.documentIn_double, events_documentIn l .double hn]

end EditableFields.Markup
