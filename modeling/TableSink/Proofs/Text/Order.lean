/-
The order of texts.

Texts are ordered as words in a dictionary, by the numbers of their code points.
Of two texts one always comes first, so sorting leaves every text before those
that it comes before (`pairwise_sort`), and loses none (`perm_sort`). No two
texts come before each other, so nothing else counts than which texts are sorted
(`sort_eq_of_perm`), and different texts are in strict order (`pairwise_lt_sort`).
-/
import TableSink.Text.Basic

namespace TableSink

/-- Code points with the same number are the same: no character has the number
of a surrogate. -/
theorem CodePoint.toNat_injective : Function.Injective toNat := by
  intro a b h
  cases a with
  | char c =>
    cases b with
    | char d => exact congrArg _ (Char.toNat_inj.mp h)
    | surrogate n =>
      have hc : c.toNat.isValidChar := c.valid
      simp only [toNat, firstSurrogate, Nat.isValidChar] at h hc
      omega
  | surrogate m =>
    cases b with
    | char d =>
      have hd : d.toNat.isValidChar := d.valid
      simp only [toNat, firstSurrogate, Nat.isValidChar] at h hd
      omega
    | surrogate n => exact congrArg _ (Fin.ext (Nat.add_left_cancel h))

namespace Text

theorem le_total (s t : Text) : le s t = true ∨ le t s = true := by
  induction s generalizing t with
  | nil => exact .inl rfl
  | cons a s ih =>
    cases t with
    | nil => exact .inr rfl
    | cons b t =>
      by_cases hab : a.toNat = b.toNat
      · simpa [le, hab] using ih t
      · have hba : ¬b.toNat = a.toNat := fun h => hab h.symm
        simp only [le, if_neg hab, if_neg hba, decide_eq_true_eq]
        omega

theorem le_trans {s t u : Text} (hst : le s t = true) (htu : le t u = true) : le s u = true := by
  induction s generalizing t u with
  | nil => rfl
  | cons a s ih =>
    cases t with
    | nil => cases hst
    | cons b t =>
      cases u with
      | nil => cases htu
      | cons c u =>
        simp only [le] at hst htu ⊢
        -- The first code points decide, unless they are all the same.
        split at hst <;> split at htu
        next hab hbc =>
          rw [if_pos (hab.trans hbc)]
          exact ih hst htu
        all_goals
          simp only [decide_eq_true_eq] at hst htu
          rw [if_neg (by omega), decide_eq_true_eq]
          omega

theorem le_antisymm {s t : Text} (hst : le s t = true) (hts : le t s = true) : s = t := by
  induction s generalizing t with
  | nil =>
    cases t with
    | nil => rfl
    | cons b t => cases hts
  | cons a s ih =>
    cases t with
    | nil => cases hst
    | cons b t =>
      by_cases hab : a.toNat = b.toNat
      · simp only [le, if_pos hab, if_pos hab.symm] at hst hts
        rw [CodePoint.toNat_injective hab, ih hst hts]
      · have hba : ¬b.toNat = a.toNat := fun h => hab h.symm
        simp only [le, if_neg hab, if_neg hba, decide_eq_true_eq] at hst hts
        omega

theorem pairwise_sort (texts : List Text) : (sort texts).Pairwise fun s t => le s t = true := by
  apply List.pairwise_mergeSort
  · intro s t u
    exact le_trans
  · intro s t
    simpa using le_total s t

theorem perm_sort (texts : List Text) : (sort texts).Perm texts :=
  List.mergeSort_perm texts le

theorem sort_eq_of_perm {texts texts' : List Text} (h : texts.Perm texts') :
    sort texts = sort texts' := by
  have hsorted : (sort texts).Perm (sort texts') :=
    (perm_sort texts).trans (h.trans (perm_sort texts').symm)
  exact hsorted.eq_of_pairwise (fun _ _ _ _ => le_antisymm) (pairwise_sort _) (pairwise_sort _)

theorem map_toNat_lt_of_le {s t : Text} (h : le s t = true) (hne : s ≠ t) :
    s.map CodePoint.toNat < t.map CodePoint.toNat := by
  induction s generalizing t with
  | nil =>
    cases t with
    | nil => exact absurd rfl hne
    | cons b t => exact List.nil_lt_cons _ _
  | cons a s ih =>
    cases t with
    | nil => cases h
    | cons b t =>
      simp only [List.map_cons, List.cons_lt_cons_iff]
      by_cases hab : a.toNat = b.toNat
      · simp only [le, if_pos hab] at h
        have hst : s ≠ t := by
          rintro rfl
          exact hne (by rw [CodePoint.toNat_injective hab])
        exact .inr ⟨hab, ih h hst⟩
      · simp only [le, if_neg hab, decide_eq_true_eq] at h
        exact .inl h

theorem pairwise_lt_sort {texts : List Text} (h : texts.Nodup) :
    (sort texts).Pairwise fun s t => s.map CodePoint.toNat < t.map CodePoint.toNat := by
  have hsorted : (sort texts).Nodup := (perm_sort texts).nodup_iff.mpr h
  refine ((pairwise_sort texts).and hsorted).imp ?_
  rintro s t ⟨hle, hne⟩
  exact map_toNat_lt_of_le hle hne

end Text

end TableSink
