import MarkdownPages.Proofs.Link.Cut
import MarkdownPages.Proofs.Marker.Strip

/-!
# Links line by line

A link ends on the line on which it starts, and a bracket that is left open on one line takes nothing
from the next.  So the links of a text may be replaced line by line.
-/

namespace MarkdownPages.Link

open Text Marker

theorem readAfterBracket?_append_newline (s rest : Text) :
    readAfterBracket? (s ++ '\n' :: rest) =
      (readAfterBracket? s).map fun (link, after) => (link, after ++ '\n' :: rest) := by
  cases hread : readAfterBracket? s with
  | none =>
      rw [readAfterBracket?_eq_none_iff] at hread
      apply readAfterBracket?_eq_none_iff.mpr
      rintro link ⟨hvalid, hlead⟩
      rw [← List.cons_append] at hlead
      rcases prefix_append_cases hlead with hshort | ⟨tail, hne, htail, hsource⟩
      · exact hread link ⟨hvalid, hshort⟩
      · obtain ⟨c, tail, rfl⟩ := List.exists_cons_of_ne_nil hne
        obtain rfl := (List.cons_prefix_cons.mp htail).1
        apply hvalid.newline_notMem
        simp [hsource]
  | some found =>
      obtain ⟨link, after⟩ := found
      obtain ⟨hvalid, hsource⟩ := readAfterBracket?_eq_some_iff.mp hread
      apply readAfterBracket?_eq_some_iff.mpr
      refine ⟨hvalid, ?_⟩
      rw [← List.cons_append, hsource, List.append_assoc]

theorem replaceWith_append_newline (write : Link → Text) (s rest : Text) :
    replaceWith write (s ++ '\n' :: rest) = replaceWith write s ++ '\n' :: replaceWith write rest := by
  fun_induction replaceWith write s with
  | case1 => exact replaceWith_char write (by decide) rest
  | case2 line link after hread _ ih =>
      have hbefore : readAfterBracket? (line ++ '\n' :: rest) = some (link, after ++ '\n' :: rest) := by
        rw [readAfterBracket?_append_newline, hread]
        rfl
      rw [List.cons_append, replaceWith_link write hbefore, ih, List.append_assoc]
  | case3 line hread ih =>
      have hbefore : readAfterBracket? (line ++ '\n' :: rest) = none := by
        rw [readAfterBracket?_append_newline, hread]
        rfl
      rw [List.cons_append, replaceWith_bracket write hbefore, ih, List.cons_append]
  | case4 c line hc ih =>
      rw [List.cons_append, replaceWith_char write hc, ih, List.cons_append]

theorem replaceWith_intercalate_newline (write : Link → Text) (lines : List Text) :
    replaceWith write (['\n'].intercalate lines) =
      ['\n'].intercalate (lines.map (replaceWith write)) := by
  induction lines with
  | nil => exact replaceWith_nil write
  | cons line lines ih =>
      cases lines with
      | nil => simp
      | cons next lines =>
          calc replaceWith write (['\n'].intercalate (line :: next :: lines))
              = replaceWith write (line ++ '\n' :: ['\n'].intercalate (next :: lines)) := by
                simp
            _ = replaceWith write line ++
                  '\n' :: ['\n'].intercalate ((next :: lines).map (replaceWith write)) := by
                rw [replaceWith_append_newline, ih]
            _ = ['\n'].intercalate ((line :: next :: lines).map (replaceWith write)) := by
                simp

/--
The text before a line feed and the text behind it have their links replaced apart from each other,
and so do all lines of a text.
-/
theorem links_are_replaced_line_by_line (style : LinkStyle) :
    (∀ s rest : Text,
      replaceAll style (s ++ '\n' :: rest) = replaceAll style s ++ '\n' :: replaceAll style rest) ∧
    ∀ lines : List Text,
      replaceAll style (['\n'].intercalate lines) = ['\n'].intercalate (lines.map (replaceAll style)) :=
  ⟨replaceWith_append_newline (placeholder style), replaceWith_intercalate_newline (placeholder style)⟩

/-- Neither an open bracket nor a backslash at the end of a line reaches the next one. -/
example : replaceAll LinkStyle.standard "[a\\\n](b) [c\n[d](e)".toList =
    "[a\\\n](b) [c\n<html><app-generated-link linkHREF=\"e\">d</app-generated-link></html>".toList := by
  decide +kernel

end MarkdownPages.Link
