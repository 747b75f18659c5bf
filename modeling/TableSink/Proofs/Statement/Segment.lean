/-
The pieces of a text of statements.

No statement that is cut out of a text holds the separator, so the reader never
refuses one for it. A text without the separator is one statement, if it is not
empty. The statements with separators between them are the text again, but for
separators at its end, and there is no other list of pieces without a separator
of which that is so (`segments_eq_iff`).
-/
import Mathlib.Data.List.DropRight
import TableSink.Statement.Segment

namespace TableSink.Statement

theorem sep_not_mem_of_mem_splitOn {sep : CodePoint} {text piece : Text}
    (h : piece ∈ text.splitOn sep) : sep ∉ piece := by
  induction text generalizing piece with
  | nil =>
    obtain rfl := List.mem_singleton.mp h
    exact List.not_mem_nil
  | cons c text ih =>
    obtain ⟨first, pieces, hsplit⟩ := List.exists_cons_of_ne_nil (List.splitOn_ne_nil sep text)
    rw [List.splitOn_cons_eq_if_modifyHead, hsplit] at h
    rw [hsplit] at ih
    by_cases hc : c = sep
    · rw [if_pos (beq_iff_eq.mpr hc)] at h
      rcases List.mem_cons.mp h with rfl | h
      · exact List.not_mem_nil
      · exact ih h
    · rw [if_neg (mt beq_iff_eq.mp hc), List.modifyHead_cons] at h
      rcases List.mem_cons.mp h with rfl | h
      · rw [List.mem_cons, not_or]
        exact ⟨Ne.symm hc, ih List.mem_cons_self⟩
      · exact ih (List.mem_cons_of_mem _ h)

theorem segments_eq_rdropWhile (text : Text) :
    segments text = (text.splitOn (.char separator)).rdropWhile List.isEmpty := rfl

/-- Cutting is the inverse of joining. -/
theorem splitOn_eq_iff {sep : CodePoint} {text : Text} {pieces : List Text} :
    text.splitOn sep = pieces ↔
      pieces ≠ [] ∧ (∀ piece ∈ pieces, sep ∉ piece) ∧ [sep].intercalate pieces = text := by
  constructor
  · rintro rfl
    exact ⟨List.splitOn_ne_nil sep text, fun piece => sep_not_mem_of_mem_splitOn,
      List.intercalate_splitOn sep⟩
  · rintro ⟨hne, hsep, rfl⟩
    exact List.splitOn_intercalate sep hsep hne

theorem rdropWhile_isEmpty_eq_self_iff {pieces : List Text} :
    pieces.rdropWhile List.isEmpty = pieces ↔ pieces.getLast? ≠ some [] := by
  rw [List.rdropWhile_eq_self_iff]
  constructor
  · intro h hlast
    obtain ⟨before, rfl⟩ := List.getLast?_eq_some_iff.mp hlast
    simp at h
  · intro h hne hempty
    rw [List.getLast?_eq_some_getLast hne, List.isEmpty_iff.mp hempty] at h
    exact h rfl

/-- The pieces that are kept do not end with an empty one, and the others are empty. -/
theorem rdropWhile_isEmpty_eq_iff {pieces kept : List Text} :
    pieces.rdropWhile List.isEmpty = kept ↔
      kept.getLast? ≠ some [] ∧ ∃ k, pieces = kept ++ List.replicate k [] := by
  constructor
  · rintro rfl
    have hkept := List.rdropWhile_idempotent List.isEmpty pieces
    refine ⟨rdropWhile_isEmpty_eq_self_iff.mp hkept,
      (pieces.rtakeWhile List.isEmpty).length, ?_⟩
    have hempty : pieces.rtakeWhile List.isEmpty =
        List.replicate (pieces.rtakeWhile List.isEmpty).length [] :=
      List.eq_replicate_of_mem fun _ hm => List.isEmpty_iff.mp (List.mem_rtakeWhile_imp hm)
    rw [← hempty]
    exact List.rdropWhile_append_rtakeWhile.symm
  · rintro ⟨hlast, k, rfl⟩
    induction k with
    | zero =>
      rw [List.replicate_zero, List.append_nil]
      exact rdropWhile_isEmpty_eq_self_iff.mpr hlast
    | succ k ih =>
      rw [List.replicate_succ', ← List.append_assoc]
      exact (List.rdropWhile_concat_pos List.isEmpty _ [] rfl).trans ih

/-- Each piece but the first has a separator before it. -/
theorem intercalate_cons_eq (sep : CodePoint) (piece : Text) (pieces : List Text) :
    [sep].intercalate (piece :: pieces) = piece ++ pieces.flatMap (sep :: ·) := by
  induction pieces generalizing piece with
  | nil => simp
  | cons piece' pieces ih =>
    rw [List.intercalate_cons_cons, ih piece', List.flatMap_cons]
    simp

theorem flatMap_replicate_empty (sep : CodePoint) (k : Nat) :
    (List.replicate k []).flatMap (sep :: ·) = List.replicate k sep := by
  induction k with
  | zero => rfl
  | succ k ih => rw [List.replicate_succ, List.flatMap_cons, ih, List.replicate_succ]; rfl

/-- Each empty piece at the end stands for a separator there. Where there is no other
piece, the first of them stands for none. -/
theorem exists_intercalate_eq_iff {sep : CodePoint} {pieces : List Text} {text : Text} :
    (∃ k, pieces ++ List.replicate k [] ≠ [] ∧
      [sep].intercalate (pieces ++ List.replicate k []) = text) ↔
      ∃ k, text = [sep].intercalate pieces ++ List.replicate k sep := by
  cases pieces with
  | nil =>
    have hjoin (k : Nat) :
        [sep].intercalate (List.replicate (k + 1) []) = List.replicate k sep := by
      rw [List.replicate_succ, intercalate_cons_eq, flatMap_replicate_empty, List.nil_append]
    constructor
    · rintro ⟨_ | k, hne, rfl⟩
      · exact absurd rfl hne
      · exact ⟨k, hjoin k⟩
    · rintro ⟨k, rfl⟩
      exact ⟨k + 1, by simp, hjoin k⟩
  | cons piece pieces =>
    have hjoin (k : Nat) : [sep].intercalate (piece :: pieces ++ List.replicate k []) =
        [sep].intercalate (piece :: pieces) ++ List.replicate k sep := by
      rw [List.cons_append, intercalate_cons_eq, intercalate_cons_eq, List.flatMap_append,
        flatMap_replicate_empty, List.append_assoc]
    constructor
    · rintro ⟨k, -, rfl⟩
      exact ⟨k, hjoin k⟩
    · rintro ⟨k, rfl⟩
      exact ⟨k, List.cons_ne_nil _ _, hjoin k⟩

theorem segments_eq_iff_intercalate {text : Text} {pieces : List Text} : segments text = pieces ↔
    (∀ piece ∈ pieces, .char separator ∉ piece) ∧ pieces.getLast? ≠ some [] ∧
      ∃ k, text = [.char separator].intercalate pieces ++ List.replicate k (.char separator) := by
  have hsep (k : Nat) : (∀ piece ∈ pieces ++ List.replicate k [], .char separator ∉ piece) ↔
      ∀ piece ∈ pieces, CodePoint.char separator ∉ piece := by
    constructor
    · intro h piece hm
      exact h piece (List.mem_append_left _ hm)
    · intro h piece hm
      rcases List.mem_append.mp hm with hm | hm
      · exact h piece hm
      · rw [List.eq_of_mem_replicate hm]
        exact List.not_mem_nil
  rw [segments_eq_rdropWhile, rdropWhile_isEmpty_eq_iff, ← exists_intercalate_eq_iff]
  simp only [splitOn_eq_iff, hsep]
  tauto

/-- A separator at the end adds nothing. -/
theorem segments_append_separator (text : Text) :
    segments (text ++ [.char separator]) = segments text := by
  obtain ⟨hsep, hlast, k, hk⟩ := segments_eq_iff_intercalate.mp (Eq.refl (segments text))
  refine segments_eq_iff_intercalate.mpr ⟨hsep, hlast, k + 1, ?_⟩
  rw [List.replicate_succ', ← List.append_assoc, ← hk]

/-- **The statements of a text** are the pieces without a semicolon, the last of them not
empty, that make up the text where they are joined by semicolons and more of these are put
to the end. So a semicolon at the end adds nothing. -/
theorem segments_eq_iff (text : Text) (pieces : List Text) :
    (segments text = pieces ↔
      (∀ piece ∈ pieces, .char ';' ∉ piece) ∧ pieces.getLast? ≠ some [] ∧
        ∃ k, text = [.char ';'].intercalate pieces ++ List.replicate k (.char ';')) ∧
    segments (text ++ [.char ';']) = segments text :=
  ⟨segments_eq_iff_intercalate, segments_append_separator text⟩

/-- Only the last two separators are left out. -/
example : segments ";x;; ;;" = ["", "x", "", " "] := by decide

end TableSink.Statement
