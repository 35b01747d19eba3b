import MarkdownPages.Proofs.Build.Disk
import MarkdownPages.Proofs.Markdown.Source
import MarkdownPages.Proofs.Text.Utf8

/-!
# The end of a document

A document ends with the base template of its page.  When the template is read its line ends are
unified, though, and they are not restored when the document is written.  So a document ends with
the bytes of the template exactly if there is no carriage return among them.
-/

namespace MarkdownPages

open Text

/-! ## Line ends -/

namespace Markdown

theorem exists_normalizeNewlines_eq {s : Text} (h : '\r' ∈ s) :
    ∃ lead next rest, s = lead ++ '\r' :: rest ∧ normalizeNewlines s = next ++ rest ∧
      '\r' ∉ next := by
  -- In each case the carriage return is either the last one or stands before another one, which the
  -- hypothesis finds.
  fun_induction normalizeNewlines s with
  | case1 => cases h
  | case2 s ih =>
      by_cases hmem : '\r' ∈ s
      · obtain ⟨lead, next, rest, rfl, heq, hnext⟩ := ih hmem
        exact ⟨'\r' :: '\n' :: lead, '\n' :: next, rest, rfl, by rw [heq]; rfl, by simp [hnext]⟩
      · exact ⟨[], [], '\n' :: s, rfl, by rw [normalizeNewlines_of_notMem hmem]; rfl, by simp⟩
  | case3 s hpair ih =>
      by_cases hmem : '\r' ∈ s
      · obtain ⟨lead, next, rest, rfl, heq, hnext⟩ := ih hmem
        exact ⟨'\r' :: lead, '\n' :: next, rest, rfl, by rw [heq]; rfl, by simp [hnext]⟩
      · exact ⟨[], ['\n'], s, rfl, by rw [normalizeNewlines_of_notMem hmem]; rfl, by simp⟩
  | case4 c s hpair hreturn ih =>
      have hc : '\r' ≠ c := fun heq => hreturn heq.symm
      obtain ⟨lead, next, rest, rfl, heq, hnext⟩ := ih ((List.mem_cons.mp h).resolve_left hc)
      exact ⟨c :: lead, c :: next, rest, rfl, by rw [heq]; rfl, by simp [hc, hnext]⟩

end Markdown

namespace Text

theorem getLast?_of_suffix_encodeUtf8 {s t rest : Text} {c : Char} (hc : c.toNat < 0x80)
    (h : encodeUtf8 (s ++ c :: rest) <:+ encodeUtf8 (t ++ rest)) : t.getLast? = some c := by
  obtain ⟨front, heq⟩ := h
  have hbytes : utf8Bytes c = [c.toNat] := by simp [utf8Bytes, hc]
  have hlead : (front ++ encodeUtf8 s) ++ [c.toNat] = encodeUtf8 t := by
    rwa [encodeUtf8_append, encodeUtf8_append, encodeUtf8_cons, hbytes, ← List.append_assoc,
      ← List.append_assoc, List.append_left_inj] at heq
  refine getLast?_of_getLast?_encodeUtf8 hc ?_
  rw [← hlead, List.getLast?_concat]

theorem suffix_encodeUtf8_normalizeNewlines_iff {front base : Text}
    (hfront : front.getLast? ≠ some '\r') :
    encodeUtf8 base <:+ encodeUtf8 (front ++ normalizeNewlines base) ↔ '\r' ∉ base := by
  constructor
  · intro hsuffix hmem
    -- Behind the last carriage return both are the same, so it would have to be written as well.
    obtain ⟨lead, next, rest, hbase, hnormal, hnext⟩ := Markdown.exists_normalizeNewlines_eq hmem
    rw [hnormal, hbase, ← List.append_assoc] at hsuffix
    have hlast := getLast?_of_suffix_encodeUtf8 (by decide) hsuffix
    cases next with
    | nil => exact hfront (by rwa [List.append_nil] at hlast)
    | cons c next =>
        rw [List.getLast?_append_of_ne_nil _ (List.cons_ne_nil c next)] at hlast
        exact hnext (List.mem_of_getLast? hlast)
  · intro hmem
    rw [Markdown.normalizeNewlines_of_notMem hmem, encodeUtf8_append]
    exact List.suffix_append _ _

end Text

/-! ## Documents -/

namespace Fragment

theorem getLast?_block (style : LinkStyle) (f : Fragment) :
    (block style f).getLast? = some '\n' := by
  unfold block
  generalize trim (html style _) = html
  rw [List.getLast?_append_of_ne_nil _ (by decide)]
  decide

theorem getLast?_flatMap_block_ne (style : LinkStyle) (fragments : List Fragment) :
    (fragments.flatMap (block style)).getLast? ≠ some '\r' := by
  rcases List.eq_nil_or_concat fragments with rfl | ⟨fragments, f, rfl⟩
  · simp
  · have hne : block style f ≠ [] := fun heq => by simpa [heq] using getLast?_block style f
    rw [List.concat_eq_append, List.flatMap_append, List.flatMap_singleton,
      List.getLast?_append_of_ne_nil _ hne, getLast?_block]
    decide

end Fragment

namespace Disk

variable {disk : Disk} {current path : Path}

theorem readText_eq_ok_iff {s : Text} :
    disk.readText current path = .ok s ↔
      ∃ bytes written, disk.readBytes current path = .ok bytes ∧
        decodeUtf8? bytes = some written ∧ s = normalizeNewlines written := by
  rw [readText]
  cases disk.readBytes current path with
  | error e => simp [bind, Except.bind]
  | ok bytes => cases hbytes : decodeUtf8? bytes <;> simp [bind, Except.bind, hbytes, eq_comm]

theorem readBytes_of_writeText {s : Text} {next : Disk}
    (h : disk.writeText current path s = .ok next) :
    next.readBytes current path = .ok (encodeUtf8 s) := by
  obtain ⟨hlocate, hdirectory, rfl⟩ := writeText_eq_ok_iff.mp h
  have hsame : ∀ at_, disk.isDirectory at_ =
      (disk.put (location current path) (encodeUtf8 s)).isDirectory at_ := isDirectory_congr rfl
  rw [readBytes, locate_of_isDirectory hsame hlocate]
  simp [bind, Except.bind, ← hsame, hdirectory, file?_put_self]

end Disk

namespace Build

variable {σ : Type} {access : FileAccess σ} {files : σ} {style : LinkStyle} {page : Page}
variable {disk : Disk} {current : Path}

theorem exists_of_buildPage {events : List Event} {last : Progress σ}
    (h : buildPage access style page ⟨files, events⟩ = (.ok (), last)) :
    ∃ text, documentOf access style files page = .ok text ∧
      access.write files page.renderedPath text = .ok last.files := by
  rw [buildPage_eq] at h
  cases hdocument : documentOf access style files page with
  | error e => simp [hdocument] at h
  | ok text =>
      refine ⟨text, rfl, ?_⟩
      cases hwrite : access.write files page.renderedPath text with
      | error e => simp [hdocument, hwrite] at h
      | ok next =>
          simp only [hdocument, hwrite] at h
          rw [← (Prod.mk.inj h).2]

theorem suffix_of_documentOf {text : Text}
    (h : documentOf (Disk.access current) style disk page = .ok text) :
    ∃ template base, disk.readBytes current page.templatePath = .ok template ∧
      decodeUtf8? template = some base ∧
      encodeUtf8 (normalizeNewlines base) <:+ encodeUtf8 text ∧
      (template <:+ encodeUtf8 text ↔ '\r'.toNat ∉ template) := by
  obtain ⟨read, fragments, hread, -, rfl⟩ := exists_of_documentOf h
  obtain ⟨template, base, htemplate, hbase, rfl⟩ := Disk.readText_eq_ok_iff.mp hread
  refine ⟨template, base, htemplate, hbase, ?_, ?_⟩
  · rw [Fragment.assemble, encodeUtf8_append]
    exact List.suffix_append _ _
  · obtain rfl := encodeUtf8_of_decodeUtf8? hbase
    rw [Fragment.assemble, mem_encodeUtf8_iff (by decide)]
    exact suffix_encodeUtf8_normalizeNewlines_iff (Fragment.getLast?_flatMap_block_ne style _)

theorem changes_end_with_templates {pages : List Page} {written : List Path} {last : Progress Disk}
    (h : run (Disk.access current) style pages ⟨disk, []⟩ = (.ok written, last)) :
    ∀ page ∈ pages, ∃ text template base,
      (page.renderedPath, text) ∈ changes last.events ∧
      disk.readBytes current page.templatePath = .ok template ∧
      decodeUtf8? template = some base ∧
      encodeUtf8 (normalizeNewlines base) <:+ encodeUtf8 text ∧
      (template <:+ encodeUtf8 text ↔ '\r'.toNat ∉ template) := by
  intro page hpage
  obtain ⟨hpages, -, hchanges⟩ := run_disk_of_ok (.refl disk) h
  obtain ⟨text, htext⟩ := (hpages page hpage).document
  obtain ⟨template, base, hends⟩ := suffix_of_documentOf htext
  refine ⟨text, template, base, ?_, hends⟩
  rw [hchanges, List.mem_append, List.mem_map]
  exact .inr ⟨page, hpage, by rw [documentText_eq htext]⟩

/--
A page that is built on a disk, whatever was built before it and whatever the disk holds.  Its
template can be read and is UTF-8, and the file that is there afterwards ends with the bytes of the
template with unified line ends.  It ends with the bytes of the template themselves exactly if there
is no carriage return among them.
-/
theorem document_ends_with_template {events : List Event} {last : Progress Disk}
    (h : buildPage (Disk.access current) style page ⟨disk, events⟩ = (.ok (), last)) :
    ∃ template base document,
      disk.readBytes current page.templatePath = .ok template ∧
      decodeUtf8? template = some base ∧
      last.files.readBytes current page.renderedPath = .ok document ∧
      encodeUtf8 (normalizeNewlines base) <:+ document ∧
      (template <:+ document ↔ '\r'.toNat ∉ template) := by
  obtain ⟨text, hdocument, hwrite⟩ := exists_of_buildPage h
  obtain ⟨template, base, htemplate, hbase, hends⟩ := suffix_of_documentOf hdocument
  exact ⟨template, base, encodeUtf8 text, htemplate, hbase, Disk.readBytes_of_writeText hwrite,
    hends⟩

/-- A template with characters of two, three and four bytes, behind a block. -/
theorem document_ends_with_wide_template :
    let page : Page := ⟨"p".toList, .ofText "d".toList, "p".toList, ["f".toList]⟩
    let template := encodeUtf8 "<h1>é€𝄞</h1>\n".toList
    let disk : Disk := ⟨[(["d".toList, "p.template.html".toList], template),
      (["d".toList, "p.f.md".toList], encodeUtf8 "x [t](h)\r\n".toList)], [["d".toList]]⟩
    let last := buildPage (Disk.access (.ofText "/".toList)) .standard page ⟨disk, []⟩
    last.1 = .ok () ∧
      ∃ document, last.2.files.readBytes (.ofText "/".toList) page.renderedPath = .ok document ∧
        template <:+ document ∧ template ≠ document := by
  intro page template disk last
  have hbuilt : last.1 = .ok () := by decide +kernel
  have hlast : last = (.ok (), last.2) := Prod.ext hbuilt rfl
  obtain ⟨read, base, document, hread, -, hdocument, -, hends⟩ := document_ends_with_template hlast
  have htemplate : disk.readBytes (.ofText "/".toList) page.templatePath = .ok template := by
    decide +kernel
  obtain rfl : template = read := Except.ok.inj (htemplate.symm.trans hread)
  refine ⟨hbuilt, document, hdocument, hends.mpr (by decide +kernel), ?_⟩
  rintro rfl
  exact absurd hdocument (by decide +kernel)

/-- A template with a carriage return and a line feed; only the line feed is written. -/
theorem carriage_return_is_not_written :
    let page : Page := ⟨"p".toList, .ofText "d".toList, "p".toList, []⟩
    let template := encodeUtf8 "a\r\nb".toList
    let document := encodeUtf8 "a\nb".toList
    let disk : Disk := ⟨[(["d".toList, "p.template.html".toList], template)], [["d".toList]]⟩
    let last := buildPage (Disk.access (.ofText "/".toList)) .standard page ⟨disk, []⟩
    last.1 = .ok () ∧
      disk.readBytes (.ofText "/".toList) page.templatePath = .ok template ∧
      decodeUtf8? template = some "a\r\nb".toList ∧
      last.2.files.readBytes (.ofText "/".toList) page.renderedPath = .ok document ∧
      ¬ template <:+ document := by
  decide +kernel

end Build

end MarkdownPages
