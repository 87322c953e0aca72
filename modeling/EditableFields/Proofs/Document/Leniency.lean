import EditableFields.Proofs.Document.Ending
import EditableFields.Proofs.Document.Reading

/-!
# Documents: what is passed over in silence

A document that is read has no fault and no end tag in a wrong place, but elements may be open at
its end, and not everything in a tag need be an attribute. It is read as if the end tags that it
lacks stood at its end, as any stream of events is (`Schema.ofEvents_as_closed`), and a tag counts for the attributes that are written in it with a value in
quotes, the first of each key (`Schema.parse_as_closed`).
-/

namespace EditableFields

namespace Markup

/-- Attributes are those that count in a text: they are written in it, in this order, no two of
them with one key, and none is passed over before the first slip in the text. -/
structure Counts (text : List Char) (attributes : List Attribute) : Prop where
  written : Holds (fun _ => True) text attributes
  distinct : (attributes.map (·.key)).Nodup
  beforeSlip : ∀ {front rest : List Char} {as : List Attribute}, text = front ++ rest →
    Holds Blank front as → (as.map (·.key)).Nodup → as <+: attributes
  withoutSlip : ∀ {as : List Attribute}, Holds Blank text as → (as.map (·.key)).Nodup →
    attributes = as

theorem counts_attributesOf (text : List Char) : Counts text (attributesOf text) where
  written := holds_attributesOf text
  distinct := nodup_attributesOf text
  beforeSlip := by
    intro front rest as htext has hnodup
    rw [htext]
    exact prefix_attributesOf has hnodup rest
  withoutSlip := fun has hnodup => attributesOf_of_holds has hnodup

/-- The ends of a first tag, after its content. -/
def tagEnd (isEmpty : Bool) : List Char :=
  if isEmpty then ['/', '>'] else ['>']

/-- A tag is written in a document: its name ends at the first blank, and behind it are the
attributes that count. -/
structure Tag.WrittenIn (t : Tag) (isEmpty : Bool) (document content : List Char) : Prop where
  stands : '<' :: (content ++ tagEnd isEmpty) <:+: document
  name : t.name.toList = content.takeWhile (!isBlank ·)
  counts : Counts (content.dropWhile (!isBlank ·)) t.attributes

theorem writtenIn_of_mem_events {document : String} {t : Tag} {isEmpty : Bool}
    (h : t.opening isEmpty ∈ events document) :
    ∃ content, t.WrittenIn isEmpty document.toList content := by
  have hstands := standsIn_events h
  cases isEmpty with
  | true =>
    obtain ⟨content, rfl, hin⟩ := hstands
    exact ⟨content, hin, String.toList_ofList, counts_attributesOf _⟩
  | false =>
    obtain ⟨content, rfl, hin⟩ := hstands
    exact ⟨content, hin, String.toList_ofList, counts_attributesOf _⟩

/-- End tags of the open elements close all of them. -/
theorem foldlM_nest_closings (names : List String) :
    (Document.closings names).foldlM Event.nest names = some [] := by
  induction names with
  | nil => rfl
  | cons name names ih =>
    rw [Document.closings, List.map_cons, List.foldlM_cons, Event.nest, List.head?_cons, if_pos rfl]
    exact ih

end Markup

open Markup (Event leftOpen)

/-- End tags of the elements that events leave open close all of them. -/
theorem Markup.leftOpen_append_closings {es : List Event} {names : List String}
    (h : leftOpen es = some names) : leftOpen (es ++ Document.closings names) = some [] := by
  rw [leftOpen] at h
  rw [leftOpen, List.foldlM_append, h]
  exact foldlM_nest_closings names

/-- Events that are read hold no fault, whichever elements they leave open, and are read as with the
end tags of these elements. -/
theorem Schema.ofEvents_as_closed {es : List Event} {s : Schema} (h : Schema.ofEvents es = .ok s) :
    (∀ f, .fault f ∉ es) ∧ ∀ names, leftOpen es = some names →
      leftOpen (es ++ Document.closings names) = some [] ∧
        Schema.ofEvents (es ++ Document.closings names) = .ok s := by
  refine ⟨Schema.noFault_of_ofEvents h, fun names hnames => ?_⟩
  rw [Schema.ofEvents_append_closings]
  exact ⟨Markup.leftOpen_append_closings hnames, h⟩

/-- A document that is read has no end tag in a wrong place. It is read as with the end tags of the
elements that it leaves open, and of each tag the attributes are read that count in its text. -/
theorem Schema.parse_as_closed {document : String} {s : Schema}
    (h : Schema.parse document = .ok s) :
    (∃ names, leftOpen (Markup.events document) = some names ∧
      leftOpen (Markup.events document ++ Document.closings names) = some [] ∧
      Schema.ofEvents (Markup.events document ++ Document.closings names) = .ok s ∧
      ((∀ name ∈ names, Markup.PlainName name) →
        Schema.parse (document ++ String.ofList (Markup.Reader.endTags names)) = .ok s)) ∧
    ∀ (tag : Markup.Tag) (isEmpty : Bool), tag.opening isEmpty ∈ Markup.events document →
      ∃ content, tag.WrittenIn isEmpty document.toList content := by
  refine ⟨?_, fun tag isEmpty htag => Markup.writtenIn_of_mem_events htag⟩
  obtain ⟨hfault, hclosed⟩ := Schema.ofEvents_as_closed h
  -- The reader checks the names of end tags, so a document without a fault is nested.
  obtain ⟨names, hnames, hevents⟩ := Markup.exists_leftOpen hfault
  obtain ⟨hempty, hread⟩ := hclosed names hnames
  refine ⟨names, hnames, hempty, hread, fun hplain => ?_⟩
  rw [Schema.parse, hevents hplain]
  exact hread

/-- A document that ends in the middle of a section. -/
def fragment : String :=
  "<fieldSchema package=\"p\"><types><opaque name='X' sealed/>"

theorem Schema.parse_as_closed_fragment :
    ∃ s, Schema.parse fragment = .ok s ∧
      Schema.parse (fragment ++ "</types></fieldSchema>") = .ok s ∧
      ∃ content, Markup.Tag.WrittenIn ⟨"opaque", [⟨"name", "X"⟩]⟩ true fragment.toList content := by
  have hevents : Markup.events fragment =
      [.start ⟨"fieldSchema", [⟨"package", "p"⟩]⟩, .start ⟨"types", []⟩,
        .empty ⟨"opaque", [⟨"name", "X"⟩]⟩] := by
    decide +kernel
  have hread : (Schema.parse fragment).toOption.map (fun _ => ()) = some () := by decide +kernel
  obtain ⟨s, hs, -⟩ := toOption_map_eq_some hread
  obtain ⟨⟨names, hnames, -, -, hclosed⟩, hwritten⟩ := Schema.parse_as_closed hs
  rw [hevents] at hnames hwritten
  cases hnames
  exact ⟨s, hs, hclosed (by decide), hwritten ⟨"opaque", [⟨"name", "X"⟩]⟩ true (by decide)⟩

/-- A document that ends before its root does. -/
def truncated : String :=
  "<fieldSchema package=\"p\">"

/-- A document whose root has an attribute without quotes. -/
def unquoted : String :=
  "<fieldSchema package=p/>"

/-- A document is read though its root is not closed, and another one though the attribute of its
root is not written with a value in quotes. -/
theorem Schema.exists_malformed_read :
    ((∃ s, Schema.parse truncated = .ok s) ∧
      leftOpen (Markup.events truncated) = some ["fieldSchema"]) ∧
    (∃ s, Schema.parse unquoted = .ok s) ∧
      unquoted.toList = "<fieldSchema".toList ++ " package=p".toList ++ "/>".toList ∧
      ¬∃ as, Markup.Holds Markup.Blank " package=p".toList as ∧ (as.map (·.key)).Nodup := by
  have read (document : String)
      (h : (Schema.parse document).toOption.map (fun _ => ()) = some ()) :
      ∃ s, Schema.parse document = .ok s := by
    obtain ⟨s, hs, -⟩ := toOption_map_eq_some h
    exact ⟨s, hs⟩
  refine ⟨⟨read truncated (by decide +kernel), by decide +kernel⟩,
    read unquoted (by decide +kernel), by decide +kernel, ?_⟩
  rintro ⟨as, has, hnodup⟩
  have hnone : as = [] := by
    rw [← Markup.attributesOf_of_holds has hnodup]
    decide +kernel
  rw [hnone] at has
  generalize htext : " package=p".toList = text at has
  obtain hblank | _ := has
  rw [← htext] at hblank
  exact absurd (hblank 'p' (by decide)) (by decide)

end EditableFields
