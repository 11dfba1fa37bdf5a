import DataRecipe.Detection.Table
import DataRecipe.Proofs.Text.Splitting
import Mathlib.Data.List.Count

/-!
# The tags of the page of findings

What a page shows comes from the data, so it may hold anything.  The page is put together from tags
and texts, and a text is written without angle brackets, so the tags that are read in the page are
those that it was put together from.  Which they are depends on how many steps and properties there
are, and not on what any text says.

Main results:

- Definition `Tagged`: a text where all angle brackets belong to tags.
- Theorem `Tagged.unique`: its tags can be read in one way only.
- Theorem `tagged_render`: markup is written as such a text.
- Theorem `tags_ofFindings`: the tags of the table.
- Definition `outline`: a document without the contents of its texts.
- Theorem `pageTags_of_outline`: the contents of texts do not matter.
- Theorem `tags_of_page`: the tags of the page, for all findings.
-/

namespace DataRecipe
namespace Detection

open Text

variable {cs : List Char} {ts : List Tag}

/-! ## Tags in a text -/

/-- A text in which every angle bracket belongs to a tag, with the sequence of its tags. -/
inductive Tagged : List Char → List Tag → Prop where
  | nil : Tagged [] []
  | tag {cs : List Char} {ts : List Tag} (t : Tag) (h : Tagged cs ts) :
      Tagged (t.text.toList ++ cs) (t :: ts)
  | char {c : Char} {cs : List Char} {ts : List Tag} (hopen : c ≠ '<') (hclose : c ≠ '>')
      (h : Tagged cs ts) : Tagged (c :: cs) ts

/-- No tag is the beginning of another one. -/
theorem Tag.eq_of_prefix {t t' : Tag} (h : t.text.toList <+: t'.text.toList) : t = t' := by
  revert h
  cases t <;> cases t' <;> decide

theorem Tag.exists_text_eq (t : Tag) : ∃ cs, t.text.toList = '<' :: cs := by
  cases t <;> exact ⟨_, rfl⟩

/-- A tag that a text starts with is the only one. -/
theorem Tag.eq_of_append_eq {t t' : Tag} {cs' : List Char}
    (h : t.text.toList ++ cs = t'.text.toList ++ cs') : t = t' := by
  have hfront : t.text.toList <+: t'.text.toList ++ cs' := h ▸ List.prefix_append _ _
  rcases List.prefix_or_prefix_of_prefix hfront (List.prefix_append _ cs') with h | h
  · exact Tag.eq_of_prefix h
  · exact (Tag.eq_of_prefix h).symm

/-- The tags of a text can be read in one way only. -/
theorem Tagged.unique {ts' : List Tag} (h : Tagged cs ts) (h' : Tagged cs ts') : ts' = ts := by
  induction h generalizing ts' with
  | nil =>
      generalize hcs : ([] : List Char) = cs at h'
      cases h' with
      | nil => rfl
      | tag t' h' =>
          obtain ⟨tail, htail⟩ := t'.exists_text_eq
          simp [htail] at hcs
      | char => simp at hcs
  | @tag cs ts t h ih =>
      obtain ⟨tail, htail⟩ := t.exists_text_eq
      generalize hcs : t.text.toList ++ cs = cs' at h'
      cases h' with
      | nil => simp [htail] at hcs
      | tag t' h' =>
          obtain rfl := Tag.eq_of_append_eq hcs
          obtain rfl := List.append_cancel_left hcs
          rw [ih h']
      | char hopen =>
          rw [htail, List.cons_append] at hcs
          exact absurd (List.cons.inj hcs).1.symm hopen
  | @char c cs ts hopen hclose h ih =>
      generalize hcs : c :: cs = cs' at h'
      cases h' with
      | nil => simp at hcs
      | tag t' h' =>
          obtain ⟨tail, htail⟩ := t'.exists_text_eq
          rw [htail, List.cons_append] at hcs
          exact absurd (List.cons.inj hcs).1 hopen
      | char hopen' hclose' h' =>
          obtain ⟨rfl, rfl⟩ := List.cons.inj hcs
          exact ih h'

/-- A text without angle brackets adds no tags. -/
theorem Tagged.append {front : List Char} (hopen : '<' ∉ front) (hclose : '>' ∉ front)
    (h : Tagged cs ts) : Tagged (front ++ cs) ts := by
  induction front with
  | nil => exact h
  | cons c front ih =>
      have hlater := ih (List.not_mem_of_not_mem_cons hopen) (List.not_mem_of_not_mem_cons hclose)
      exact .char (List.ne_of_not_mem_cons hopen).symm (List.ne_of_not_mem_cons hclose).symm hlater

/-! ## Markup -/

/-- No character is written with an angle bracket. -/
theorem notMem_escapeMarkup (c : Char) : '<' ∉ escapeMarkup c ∧ '>' ∉ escapeMarkup c := by
  unfold escapeMarkup
  split_ifs with hamp hlt hgt hquote hmark
  · decide
  · decide
  · decide
  · decide
  · decide
  · exact ⟨fun h => hlt (beq_iff_eq.mpr (List.mem_singleton.mp h).symm),
      fun h => hgt (beq_iff_eq.mpr (List.mem_singleton.mp h).symm)⟩

theorem notMem_flatMap_escapeMarkup (cs : List Char) :
    '<' ∉ cs.flatMap escapeMarkup ∧ '>' ∉ cs.flatMap escapeMarkup := by
  constructor
  · intro h
    obtain ⟨c, -, hc⟩ := List.mem_flatMap.mp h
    exact (notMem_escapeMarkup c).1 hc
  · intro h
    obtain ⟨c, -, hc⟩ := List.mem_flatMap.mp h
    exact (notMem_escapeMarkup c).2 hc

/-- The tag of a part, if it is one. -/
def Markup.tag? : Markup → Option Tag
  | tag t => some t
  | text _ => none

/-- The tags of parts. -/
def tagsOf (parts : List Markup) : List Tag := parts.filterMap Markup.tag?

/-- The tags that are read in written parts are the tags among them. -/
theorem tagged_render (parts : List Markup) :
    Tagged (parts.flatMap Markup.render) (tagsOf parts) := by
  induction parts with
  | nil => exact .nil
  | cons part parts ih =>
      rw [List.flatMap_cons]
      cases part with
      | tag t => exact .tag t ih
      | text s =>
          obtain ⟨hopen, hclose⟩ := notMem_flatMap_escapeMarkup s.toList
          exact ih.append hopen hclose

@[simp] theorem tagsOf_nil : tagsOf [] = [] := rfl

@[simp] theorem tagsOf_tag_cons (t : Tag) (parts : List Markup) :
    tagsOf (.tag t :: parts) = t :: tagsOf parts := rfl

@[simp] theorem tagsOf_text_cons (s : String) (parts : List Markup) :
    tagsOf (.text s :: parts) = tagsOf parts := rfl

@[simp] theorem tagsOf_append (parts parts' : List Markup) :
    tagsOf (parts ++ parts') = tagsOf parts ++ tagsOf parts' :=
  List.filterMap_append

theorem tagsOf_flatMap {α : Type} (f : α → List Markup) (xs : List α) :
    tagsOf (xs.flatMap f) = xs.flatMap fun x => tagsOf (f x) :=
  List.filterMap_flatMap

namespace Table

/-! ## The tags of the table -/

/-- There is a break between any two lines. -/
theorem tagsOf_lines {lines : List (List Markup)} (h : ∀ l ∈ lines, tagsOf l = []) :
    tagsOf (Table.lines lines) = List.replicate (lines.length - 1) .lineBreak := by
  cases lines with
  | nil => rfl
  | cons l lines =>
      obtain ⟨hl, hlater⟩ := List.forall_mem_cons.mp h
      have hbreaks : ∀ l' ∈ lines, tagsOf ([.tag .lineBreak] ++ l') = [Tag.lineBreak] := by
        intro l' hl'
        rw [tagsOf_append, hlater l' hl', tagsOf_tag_cons]
        rfl
      rw [Table.lines, join_cons, tagsOf_append, hl, tagsOf_flatMap, List.flatMap_congr hbreaks,
        ← List.map_eq_flatMap, List.map_const']
      rfl

@[simp] theorem tagsOf_between (start stop : Tag) (parts : List Markup) :
    tagsOf (between start stop parts) = start :: tagsOf parts ++ [stop] := by
  simp [between]

/-- The number of steps of a finding. -/
def stepCount (finding : Json) : Nat := (itemsOf (finding.member "recipe")).length

/-- The lines of the properties of a finding. -/
def propertyLines (finding : Json) : List (List Markup) :=
  fileTypeLine finding ++ entropyLine finding ++ languageLine finding ++ utf8Line finding ++
    suggestionLine finding

/-- The number of properties of a finding. -/
def propertyCount (finding : Json) : Nat := (propertyLines finding).length

/-- Steps are texts. -/
theorem tagsOf_recipeMarkup (finding : Json) : tagsOf (recipeMarkup finding) =
    List.replicate (stepCount finding - 1) .lineBreak := by
  rw [recipeMarkup, tagsOf_lines, List.length_map, stepCount]
  intro l hl
  obtain ⟨step, -, rfl⟩ := List.mem_map.mp hl
  rfl

/-- Properties are texts. -/
theorem tagsOf_of_mem_propertyLines {finding : Json} {l : List Markup}
    (h : l ∈ propertyLines finding) : tagsOf l = [] := by
  simp only [propertyLines, fileTypeLine, entropyLine, languageLine, utf8Line, suggestionLine,
    List.mem_append] at h
  rcases h with (((h | h) | h) | h) | h
  case inr =>
    split at h
    · exact absurd h List.not_mem_nil
    · obtain rfl := List.mem_singleton.mp h
      rfl
  all_goals
    split at h
    · obtain rfl := List.mem_singleton.mp h
      rfl
    · exact absurd h List.not_mem_nil

theorem tagsOf_propertiesMarkup (finding : Json) : tagsOf (propertiesMarkup finding) =
    List.replicate (propertyCount finding - 1) .lineBreak :=
  tagsOf_lines fun _ => tagsOf_of_mem_propertyLines

/-- A row with three cells, the first and the last one with so many breaks. -/
def rowTags (breaks : Nat × Nat) : List Tag :=
  [.rowStart, .cellStart] ++ List.replicate breaks.1 .lineBreak ++
    [.cellEnd, .cellStart, .cellEnd, .cellStart] ++ List.replicate breaks.2 .lineBreak ++
    [.cellEnd, .rowEnd]

/-- The breaks in the row of a finding: between its steps, and between its properties. -/
def breaks (finding : Json) : Nat × Nat := (stepCount finding - 1, propertyCount finding - 1)

theorem tagsOf_row (finding : Json) : tagsOf (row finding) = rowTags (breaks finding) := by
  simp [row, tagsOf_recipeMarkup, tagsOf_propertiesMarkup, rowTags, breaks]

/-- The row of the titles. -/
def titleTags : List Tag :=
  [.rowStart, .headStart, .headEnd, .headStart, .headEnd, .headStart, .headEnd, .rowEnd]

/-- A table with a row of titles and rows with so many breaks. -/
def tableTags (rows : List (Nat × Nat)) : List Tag :=
  .tableStart :: (titleTags ++ rows.flatMap rowTags) ++ [.tableEnd]

/-- The tags of the table. -/
theorem tags_ofFindings (findings : List Json) :
    tagsOf (ofFindings findings) = tableTags (findings.map breaks) := by
  have htitles : tagsOf titles = titleTags := rfl
  rw [ofFindings, tagsOf_between, tagsOf_append, htitles, tagsOf_flatMap, tableTags,
    List.flatMap_map, List.flatMap_congr fun finding _ => tagsOf_row finding]

/-! ## The contents of texts -/

/-- The members of documents that the table is made from. -/
def fieldNames : List String :=
  ["recipe", "op", "args", "data", "file_type", "name", "extension", "entropy", "language_scores",
    "probability", "lang", "is_utf8", "matching_ops"]

mutual

/-- A document without the contents of its texts, and without members that the table does not
know. -/
def outline : Json → Json
  | .null => .null
  | .bool b => .bool b
  | .int n => .int n
  | .float x => .float x
  | .string _ => .string ""
  | .array items => .array (outlineItems items)
  | .object members => .object (outlineMembers members)

/-- The items of an array without the contents of their texts. -/
def outlineItems : List Json → List Json
  | [] => []
  | v :: rest => outline v :: outlineItems rest

/-- The members of an object that the table knows, without the contents of their texts. -/
def outlineMembers : List (String × Json) → List (String × Json)
  | [] => []
  | (k, v) :: rest =>
    if k ∈ fieldNames then (k, outline v) :: outlineMembers rest else outlineMembers rest

end

theorem outlineItems_eq_map (items : List Json) : outlineItems items = items.map outline := by
  induction items with
  | nil => rfl
  | cons v rest ih => rw [outlineItems, ih, List.map_cons]

/-- The members that the table knows are found in the outline. -/
theorem member_outline {key : String} (hkey : key ∈ fieldNames) (v : Json) :
    (outline v).member key = outline (v.member key) := by
  cases v with
  | object members =>
      rw [outline, Json.member, Json.member]
      induction members with
      | nil => rfl
      | cons kv rest ih =>
          obtain ⟨k, v⟩ := kv
          rw [outlineMembers]
          by_cases h : k = key
          · subst h
            simp [hkey]
          · by_cases hk : k ∈ fieldNames
            · simpa [hk, h] using ih
            · simpa [hk, h] using ih
  | _ => rfl

theorem number?_outline (v : Json) : (outline v).number? = v.number? := by
  cases v <;> rfl

theorem itemsOf_outline (v : Json) : itemsOf (outline v) = (itemsOf v).map outline := by
  cases v with
  | array items => exact outlineItems_eq_map items
  | _ => rfl

theorem stepCount_outline (finding : Json) : stepCount (outline finding) = stepCount finding := by
  rw [stepCount, member_outline (by decide), itemsOf_outline, List.length_map, stepCount]

theorem isProbable_outline (score : Json) : isProbable (outline score) = isProbable score := by
  rw [isProbable, member_outline (by decide), number?_outline, isProbable]

theorem propertyCount_outline (finding : Json) :
    propertyCount (outline finding) = propertyCount finding := by
  have hfileType : (fileTypeLine (outline finding)).length = (fileTypeLine finding).length := by
    rw [fileTypeLine, member_outline (by decide), fileTypeLine]
    cases finding.member "file_type" <;> rfl
  have hentropy : (entropyLine (outline finding)).length = (entropyLine finding).length := by
    rw [entropyLine, member_outline (by decide), number?_outline, entropyLine]
  have hlanguage : (languageLine (outline finding)).length = (languageLine finding).length := by
    rw [languageLine, member_outline (by decide), itemsOf_outline, List.find?_map, languageLine]
    have hprobable : isProbable ∘ outline = isProbable := funext isProbable_outline
    rw [hprobable]
    cases (itemsOf (finding.member "language_scores")).find? isProbable <;> rfl
  have hutf8 : (utf8Line (outline finding)).length = (utf8Line finding).length := by
    rw [utf8Line, member_outline (by decide), utf8Line]
    cases finding.member "is_utf8" <;> rfl
  have hsuggestion : (suggestionLine (outline finding)).length =
      (suggestionLine finding).length := by
    rw [suggestionLine, member_outline (by decide), itemsOf_outline, suggestionLine]
    cases itemsOf (finding.member "matching_ops") <;> rfl
  simp only [propertyCount, propertyLines, List.length_append, hfileType, hentropy, hlanguage,
    hutf8, hsuggestion]

/-- The breaks of findings are those of their outlines. -/
theorem breaks_outline (finding : Json) : breaks (outline finding) = breaks finding := by
  rw [breaks, stepCount_outline, propertyCount_outline, breaks]

/-! ## The page -/

/-- The tags of the page: those of the table, or none where there is nothing to show. -/
def pageTags (findings : List Json) : List Tag :=
  if findings.isEmpty then [] else tableTags (findings.map breaks)

theorem tagged_html (findings : List Json) :
    Tagged (html findings).toList (pageTags findings) := by
  rw [html, pageTags]
  split
  · have hopen : '<' ∉ nothingFound.toList := by decide
    have hclose : '>' ∉ nothingFound.toList := by decide
    have htagged := Tagged.nil.append hopen hclose
    rwa [List.append_nil] at htagged
  · rw [render, String.toList_ofList, ← tags_ofFindings]
    exact tagged_render _

/-- Findings with the same outlines have the same tags on their pages. -/
theorem pageTags_of_outline {findings others : List Json}
    (h : others.map outline = findings.map outline) : pageTags others = pageTags findings := by
  have hbreaks (fs : List Json) : fs.map breaks = (fs.map outline).map breaks := by
    rw [List.map_map]
    exact List.map_congr_left fun f _ => (breaks_outline f).symm
  have hempty : others.isEmpty = findings.isEmpty := by
    rw [← List.isEmpty_map (f := outline), h, List.isEmpty_map]
  rw [pageTags, pageTags, hempty, hbreaks others, h, ← hbreaks findings]

theorem count_rowTags (t : Tag) (breaks : Nat × Nat) (h : t ≠ .lineBreak) :
    (rowTags breaks).count t = (rowTags (0, 0)).count t := by
  have hnone (n : Nat) : (List.replicate n Tag.lineBreak).count t = 0 := by
    rw [List.count_replicate, if_neg (by simpa using h.symm)]
  simp only [rowTags, List.count_append, hnone]

/-- Every row has as many tags of a kind other than breaks. -/
theorem count_tableTags (t : Tag) (rows : List (Nat × Nat)) (h : t ≠ .lineBreak) :
    (tableTags rows).count t =
      (tableTags []).count t + rows.length * (rowTags (0, 0)).count t := by
  have hrows : (rows.flatMap rowTags).count t = rows.length * (rowTags (0, 0)).count t := by
    induction rows with
    | nil => simp
    | cons r rows ih =>
        rw [List.flatMap_cons, List.count_append, ih, count_rowTags t r h, List.length_cons,
          Nat.succ_mul, Nat.add_comm]
  simp only [tableTags, List.count_append, List.count_cons, hrows, List.flatMap_nil,
    List.count_nil]
  omega

/-- All angle brackets of the page belong to the tags of one table, whatever the findings are: a row
of titles, and a row with three cells for each finding.  Findings that differ in nothing but the
contents of texts, or in members that the table does not know, have the same tags. -/
theorem tags_of_page (findings : List Json) : ∃ tags, Tagged (html findings).toList tags ∧
    (∀ ts, Tagged (html findings).toList ts → ts = tags) ∧
    (findings ≠ [] → tags = tableTags (findings.map breaks) ∧
      tags.count .rowStart = findings.length + 1 ∧ tags.count .rowEnd = findings.length + 1 ∧
      tags.count .cellStart = 3 * findings.length ∧ tags.count .cellEnd = 3 * findings.length) ∧
    (∀ others : List Json, others.map outline = findings.map outline →
      Tagged (html others).toList tags) := by
  have htagged := tagged_html findings
  refine ⟨pageTags findings, htagged, fun ts hts => htagged.unique hts, fun hne => ?_,
    fun others h => pageTags_of_outline h ▸ tagged_html others⟩
  have htable : pageTags findings = tableTags (findings.map breaks) :=
    if_neg (by simpa using hne)
  have hcount (t : Tag) (ht : t ≠ .lineBreak) : (pageTags findings).count t =
      (tableTags []).count t + findings.length * (rowTags (0, 0)).count t := by
    rw [htable, count_tableTags t _ ht, List.length_map]
  refine ⟨htable, ?_, ?_, ?_, ?_⟩
  · have hstart : (pageTags findings).count .rowStart = 1 + findings.length * 1 :=
      hcount .rowStart (by decide)
    omega
  · have hend : (pageTags findings).count .rowEnd = 1 + findings.length * 1 :=
      hcount .rowEnd (by decide)
    omega
  · have hstart : (pageTags findings).count .cellStart = 0 + findings.length * 3 :=
      hcount .cellStart (by decide)
    omega
  · have hend : (pageTags findings).count .cellEnd = 0 + findings.length * 3 :=
      hcount .cellEnd (by decide)
    omega

end Table
end Detection
end DataRecipe
