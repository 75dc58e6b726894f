import CallContext.Proofs.Files.FileSystem
import CallContext.Proofs.Syntax.Form

/-!
# Identifiers as names

A text without dots and slashes can stand for the name of a file or directory, and one with an
ending behind it as well (`FileTree.isName_append_py`).  As a name of a file it has no extension
(`FileTree.splitExtension_of_isStem`).  An identifier has no punctuation in it, so it is such a text
(`Identifier.isStem_of_isWord`).
-/

namespace CallContext

namespace FileTree

variable {s : String}

/-- A name without a dot in it. -/
def isStem (s : String) : Bool := isName s && !s.toList.contains '.'

theorem isStem_iff : isStem s = true ↔ s ≠ "" ∧ '/' ∉ s.toList ∧ '.' ∉ s.toList := by
  have dotless : (!s.toList.contains '.') = true ↔ '.' ∉ s.toList := by simp
  rw [isStem, Bool.and_eq_true, isName_iff, dotless]
  constructor
  · rintro ⟨⟨idle, -, slash⟩, dot⟩
    refine ⟨?_, slash, dot⟩
    rintro rfl
    cases idle
  · rintro ⟨written, slash, dot⟩
    have one : s ≠ "." := by
      rintro rfl
      exact dot (by decide)
    refine ⟨⟨by simp [Path.isIdle, written, one], ?_, slash⟩, dot⟩
    rintro rfl
    exact dot (by decide)

theorem isName_of_isStem (h : isStem s = true) : isName s = true := by
  rw [isStem, Bool.and_eq_true] at h
  exact h.1

theorem dot_not_mem (h : isStem s = true) : '.' ∉ s.toList := (isStem_iff.1 h).2.2

theorem ne_empty_of_isStem (h : isStem s = true) : s ≠ "" := (isStem_iff.1 h).1

/-- With an ending it is a name as well. -/
theorem isName_append_py (h : isStem s = true) : isName (s ++ ".py") = true := by
  obtain ⟨written, slash, -⟩ := isStem_iff.1 h
  have long : 3 < (s ++ ".py").toList.length := by
    have some : s.toList ≠ [] := fun none => written (String.toList_eq_nil_iff.1 none)
    have := List.length_pos_iff.2 some
    simp
    omega
  -- what is no name for another reason than a slash is shorter
  have longer {t : String} (short : t.toList.length ≤ 3) : s ++ ".py" ≠ t := by
    rintro rfl
    omega
  refine isName_iff.2 ⟨?_, longer (by decide), ?_⟩
  · simp [Path.isIdle, longer (t := "") (by decide), longer (t := ".") (by decide)]
  · simp [slash]

/-- The whole of it stands before its last dot, for it has none. -/
theorem splitExtension_of_isStem (h : isStem s = true) : Path.splitExtension s = (s, none) := by
  rw [Path.splitExtension, splitParts_of_not_mem (dot_not_mem h)]
  rfl

end FileTree

namespace Identifier

variable {s : String}

theorem isContinue_of_isStart {c : Char} (h : isStart c = true) : isContinue c = true := by
  unfold isStart at h
  unfold isContinue
  by_cases ascii : c.toNat < 128
  · rw [if_pos ascii, Bool.or_eq_true] at h ⊢
    rcases h with letter | underscore
    · exact .inl (by simp [Char.isAlphanum, letter])
    · exact .inr underscore
  · rw [if_neg ascii] at h ⊢
    simp [h]

/-- Behind the first character of an identifier and at its place stand the same characters, and
more. -/
theorem isContinue_of_mem (h : isWord s = true) {c : Char} (hc : c ∈ s.toList) :
    isContinue c = true := by
  unfold isWord at h
  split at h
  · cases h
  · next first rest text =>
    rw [Bool.and_eq_true, List.all_eq_true] at h
    rw [text] at hc
    rcases List.mem_cons.1 hc with rfl | later
    · exact isContinue_of_isStart h.1
    · exact h.2 c later

theorem not_mem_of_isWord (h : isWord s = true) {mark : Char} (other : isContinue mark = false) :
    mark ∉ s.toList := by
  intro hm
  have := isContinue_of_mem h hm
  simp [other] at this

theorem colon_not_mem (h : isWord s = true) : ':' ∉ s.toList := not_mem_of_isWord h (by decide)

theorem ne_empty (h : isWord s = true) : s ≠ "" := by
  rintro rfl
  cases h

/-- An identifier can be the name of an entry. -/
theorem isStem_of_isWord (h : isWord s = true) : FileTree.isStem s = true :=
  FileTree.isStem_iff.2
    ⟨ne_empty h, not_mem_of_isWord h (by decide), not_mem_of_isWord h (by decide)⟩

end Identifier

end CallContext
