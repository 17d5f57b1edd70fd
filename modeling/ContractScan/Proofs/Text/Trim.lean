import ContractScan.Text.Lines
import Mathlib.Data.List.TakeWhile

/-! # Trimming

A text is its trimmed form with blanks on both sides, and the trimmed form has none at its ends. These two
facts determine it: blanks that are put around a text do not change what is left after trimming.
-/

namespace ContractScan.Text

/-- Nothing but white space. -/
def AllBlank (text : List Char) : Prop :=
  ∀ c ∈ text, isBlank c = true

/-- Neither the first nor the last character is white space. -/
structure IsTrimmed (code : List Char) : Prop where
  first : ∀ c, code.head? = some c → isBlank c = false
  last : ∀ c, code.getLast? = some c → isBlank c = false

theorem allBlank_nil : AllBlank [] := by
  intro c hc
  cases hc

theorem allBlank_cons {c : Char} {text : List Char} :
    AllBlank (c :: text) ↔ isBlank c = true ∧ AllBlank text :=
  List.forall_mem_cons

theorem AllBlank.append {u v : List Char} (hu : AllBlank u) (hv : AllBlank v) : AllBlank (u ++ v) := by
  intro c hc
  rcases List.mem_append.mp hc with hc | hc
  · exact hu c hc
  · exact hv c hc

theorem AllBlank.left {u v : List Char} (h : AllBlank (u ++ v)) : AllBlank u :=
  fun c hc => h c (List.mem_append_left v hc)

theorem AllBlank.right {u v : List Char} (h : AllBlank (u ++ v)) : AllBlank v :=
  fun c hc => h c (List.mem_append_right u hc)

theorem AllBlank.reverse {u : List Char} (h : AllBlank u) : AllBlank u.reverse :=
  fun c hc => h c (List.mem_reverse.mp hc)

theorem allBlank_takeWhile (text : List Char) : AllBlank (text.takeWhile isBlank) :=
  fun _ hc => List.all_eq_true.mp List.all_takeWhile _ hc

theorem dropWhile_eq_nil {text : List Char} : text.dropWhile isBlank = [] ↔ AllBlank text :=
  List.dropWhile_eq_nil_iff

/-- The blanks at the end that `trimEnd` takes away. -/
theorem trimEnd_append (text : List Char) :
    text = trimEnd text ++ (text.reverse.takeWhile isBlank).reverse := by
  have split := congrArg List.reverse
    (List.takeWhile_append_dropWhile (p := isBlank) (l := text.reverse))
  rw [List.reverse_append, List.reverse_reverse] at split
  exact split.symm

theorem trimEnd_last (text : List Char) (c : Char) (h : (trimEnd text).getLast? = some c) :
    isBlank c = false := by
  rw [trimEnd, List.getLast?_reverse] at h
  have stop := List.head?_dropWhile_not isBlank text.reverse
  rw [h] at stop
  simpa using stop

theorem trimEnd_append_blank (text : List Char) {v : List Char} (hv : AllBlank v) :
    trimEnd (text ++ v) = trimEnd text := by
  simp only [trimEnd, List.reverse_append]
  rw [List.dropWhile_append_of_pos hv.reverse]

theorem trim_margins (text : List Char) :
    ∃ u v, text = u ++ trim text ++ v ∧ AllBlank u ∧ AllBlank v := by
  refine ⟨text.takeWhile isBlank, ((text.dropWhile isBlank).reverse.takeWhile isBlank).reverse, ?_,
    allBlank_takeWhile text, (allBlank_takeWhile _).reverse⟩
  rw [List.append_assoc, trim, ← trimEnd_append, List.takeWhile_append_dropWhile]

theorem isTrimmed_trim (text : List Char) : IsTrimmed (trim text) := by
  refine ⟨fun c hc => ?_, trimEnd_last _⟩
  have start := List.head?_dropWhile_not isBlank text
  -- What `trimEnd` leaves is not empty here, so it still starts where `dropWhile` stopped.
  rw [trimEnd_append (text.dropWhile isBlank), List.head?_append] at start
  rw [trim] at hc
  rw [hc] at start
  simpa using start

theorem trim_between {u v : List Char} (hu : AllBlank u) (code : List Char) (hv : AllBlank v) :
    trim (u ++ code ++ v) = trim code := by
  rw [trim, trim, List.append_assoc, List.dropWhile_append_of_pos hu, List.dropWhile_append]
  split
  · rename_i empty
    rw [List.isEmpty_iff.mp empty, dropWhile_eq_nil.mpr hv]
  · exact trimEnd_append_blank _ hv

theorem trim_of_isTrimmed {code : List Char} (h : IsTrimmed code) : trim code = code := by
  cases code with
  | nil => rfl
  | cons c rest =>
      have hc : isBlank c = false := h.first c rfl
      rw [trim, List.dropWhile_cons_of_neg (by simp [hc]), trimEnd]
      cases hr : (c :: rest).reverse with
      | nil => simp at hr
      | cons d others =>
          have hd : isBlank d = false := h.last d (by rw [← List.head?_reverse, hr]; rfl)
          rw [List.dropWhile_cons_of_neg (by simp [hd]), ← hr, List.reverse_reverse]

@[simp] theorem trim_trim (text : List Char) : trim (trim text) = trim text :=
  trim_of_isTrimmed (isTrimmed_trim text)

theorem trim_eq_nil {text : List Char} : trim text = [] ↔ AllBlank text := by
  constructor
  · intro h
    obtain ⟨u, v, split, hu, hv⟩ := trim_margins text
    rw [h, List.append_nil] at split
    exact split ▸ hu.append hv
  · intro h
    rw [trim, dropWhile_eq_nil.mpr h]
    rfl

theorem isAllBlank_iff {text : String} : isAllBlank text = true ↔ AllBlank text.toList := by
  simp [isAllBlank, AllBlank]

@[simp] theorem toList_trimmed (text : String) : (trimmed text).toList = trim text.toList := by
  simp [trimmed]

@[simp] theorem trimmed_trimmed (text : String) : trimmed (trimmed text) = trimmed text := by
  simp [trimmed]

end ContractScan.Text
