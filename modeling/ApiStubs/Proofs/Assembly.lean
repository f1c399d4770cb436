import ApiStubs.Assembly
import ApiStubs.Proofs.Block.Lines
import ApiStubs.Proofs.Transform

/-!
The generated text taken apart: behind the header, blank lines separate the blocks and nothing else.
-/

namespace ApiStubs

open Text

variable {settings : Settings} {entry : Entry} {xml : String} {t : Transformed}

-- The texts that an entry pastes into its statement are on one line each.
structure Entry.OnOneLine (settings : Settings) (entry : Entry) : Prop where
  target : '\n' ∉ (Target.ofName settings entry.name).text.toList
  parameters : ∀ p ∈ entry.shownParameters settings, '\n' ∉ p.name.toList
  type : '\n' ∉ (TypeList.read settings entry.returns).primary.toList

theorem Entry.OnOneLine.newline_not_mem (h : entry.OnOneLine settings) :
    '\n' ∉ (entry.shownStatement settings).toList :=
  pastable_newline_not_mem.statement.mpr ⟨h.target, fun _ => h.parameters, h.type⟩

-- An entry of a feed that becomes a block.
structure Settings.Shown (settings : Settings) (xml : String) (entry : Entry) : Prop where
  selected : ∃ d elements, readDocument xml = .ok d ∧ select d entryQuery = .ok elements ∧
    ∃ e ∈ elements, Entry.ofElement e = .ok entry
  shows : settings.shows entry

theorem exists_shown_of_mem_blocks (ht : (settings.transform xml).result = .ok t) {block : String}
    (hb : block ∈ t.blocks) : ∃ entry, settings.Shown xml entry ∧ block = entry.block settings := by
  have ⟨d, elements, hd, hs, hc⟩ := Settings.exists_of_transform ht
  have ⟨entries, hm, hr⟩ := Settings.renders_of_transformElements hc
  rw [hr.blocks] at hb
  obtain ⟨entry, he, rfl⟩ := List.mem_map.mp hb
  have ⟨hmem, hshows⟩ := List.mem_filter.mp he
  have ho : .ok entry ∈ elements.map Entry.ofElement := hm ▸ List.mem_map_of_mem hmem
  have ⟨e, hee, hoe⟩ := List.mem_map.mp ho
  exact ⟨entry, ⟨⟨d, elements, hd, hs, e, hee, hoe⟩, hshows⟩, rfl⟩

-- A generated text falls apart into the blocks that it was made of, if the texts pasted into
-- statements are on one line. Each block is a comment of one line or more and below it the
-- statement.
theorem splitPair_assemble (ht : (settings.transform xml).result = .ok t) (hb : t.blocks ≠ [])
    (hl : ∀ entry, settings.Shown xml entry → entry.OnOneLine settings) (header : String) :
    (∃ rest, (assemble header t.blocks).toList = header.toList ++ rest ∧
      splitPair '\n' '\n' rest = t.blocks.map String.toList) ∧
    ∀ block ∈ t.blocks, ∃ entry lines, settings.Shown xml entry ∧ lines ≠ [] ∧
      block.toList.splitOn '\n' =
        "/**".toList :: lines.map (" * ".toList ++ ·) ++
          [" */".toList, (entry.shownStatement settings).toList] := by
  refine ⟨⟨['\n', '\n'].intercalate (t.blocks.map String.toList), ?assemble, ?split⟩, ?block⟩
  case assemble => simp [assemble, blockSeparator]
  case split =>
    refine splitPair_intercalate (List.forall_mem_map.mpr fun block hm => ?_) (by simpa using hb)
    have ⟨entry, hs, he⟩ := exists_shown_of_mem_blocks ht hm
    exact he ▸ Entry.apart_block (hl entry hs).newline_not_mem
  case block =>
    intro block hm
    have ⟨entry, hs, he⟩ := exists_shown_of_mem_blocks ht hm
    let text := entry.docText settings (entry.shownParameters settings)
    refine ⟨entry, lineChars text.toList, hs, Entry.lineChars_docText_ne_nil, ?_⟩
    rw [he, Entry.splitOn_block (hl entry hs).newline_not_mem, Entry.docLines, List.append_assoc,
      List.singleton_append]

-- A feed of two properties that nothing is said about.
def pairFeed : String :=
  "<entries><entry type=\"property\" name=\"a\"/><entry type=\"property\" name=\"b\"/></entries>"

def bareProperty (name : String) : Entry where
  name
  kind := .property

def pairDocument : Xml.Document :=
  entriesDocument [(bareElement "property" "a").node, (bareElement "property" "b").node]

def pairBlocks : List String :=
  [(bareProperty "a").block {}, (bareProperty "b").block {}]

theorem splitPair_pairFeed :
    (({} : Settings).transform pairFeed).result = .ok ⟨pairBlocks, { rendered := 2 }⟩ ∧
      pairBlocks ≠ [] ∧
      (∀ entry, ({} : Settings).Shown pairFeed entry → entry.OnOneLine {}) ∧
      (∃ rest, (assemble "$;\n" pairBlocks).toList = "$;\n".toList ++ rest ∧
        splitPair '\n' '\n' rest = pairBlocks.map String.toList) ∧
      ∀ block ∈ pairBlocks, ∃ entry lines, ({} : Settings).Shown pairFeed entry ∧ lines ≠ [] ∧
        block.toList.splitOn '\n' =
          "/**".toList :: lines.map (" * ".toList ++ ·) ++
            [" */".toList, (entry.shownStatement {}).toList] := by
  have hd : readDocument pairFeed = .ok pairDocument := by cbv
  have hs : select pairDocument entryQuery =
      .ok [bareElement "property" "a", bareElement "property" "b"] := by
    rw [select_entryQuery]
    simp only [XPath.entryRows, XPath.holderRows, XPath.hasKind, XPath.kindRows,
      XPath.inOrder_eq_filter]
    rfl
  have he (name : String) :
      Entry.ofElement (bareElement "property" name) = .ok (bareProperty name) :=
    ofElement_bareElement rfl
  have ht : (({} : Settings).transform pairFeed).result = .ok ⟨pairBlocks, { rendered := 2 }⟩ := by
    rw [Settings.transform_result {} hd hs]
    rfl
  have hl : ∀ entry, ({} : Settings).Shown pairFeed entry → entry.OnOneLine {} := by
    rintro entry ⟨⟨d, elements, hd', hs', e, hm, heo⟩, _⟩
    cases hd'.symm.trans hd
    cases hs'.symm.trans hs
    obtain rfl | rfl : e = bareElement "property" "a" ∨ e = bareElement "property" "b" := by
      simpa using hm
    all_goals
      cases heo.symm.trans (he _)
      exact ⟨by decide, by decide, by decide⟩
  have hb : pairBlocks ≠ [] := List.cons_ne_nil _ _
  obtain ⟨hr, hp⟩ := splitPair_assemble ht hb hl "$;\n"
  exact ⟨ht, hb, hl, hr, hp⟩

end ApiStubs
