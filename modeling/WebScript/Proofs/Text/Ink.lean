import WebScript.Proofs.Text.Find
import WebScript.Text.Blank

namespace WebScript.Text

variable {c : Char} {s t before after : List Char} {drop : Char → Bool}

/-- A text without its white space. -/
def inked (text : List Char) : List Char :=
  text.filter (!isBlank ·)

@[simp] theorem inked_nil : inked [] = [] := rfl

@[simp] theorem inked_append (s t : List Char) : inked (s ++ t) = inked s ++ inked t :=
  List.filter_append ..

theorem inked_cons_of_blank (h : isBlank c = true) (t : List Char) : inked (c :: t) = inked t :=
  List.filter_cons_of_neg (by simp [h])

theorem inked_cons_of_not_blank (h : isBlank c = false) (t : List Char) :
    inked (c :: t) = c :: inked t :=
  List.filter_cons_of_pos (by simp [h])

@[simp] theorem inked_reverse (t : List Char) : inked t.reverse = (inked t).reverse :=
  List.filter_reverse ..

theorem inked_dropWhile (t : List Char) : inked (t.dropWhile isBlank) = inked t := by
  induction t with
  | nil => rfl
  | cons c t ih =>
    cases blank : isBlank c with
    | true => rw [List.dropWhile_cons_of_pos blank, ih, inked_cons_of_blank blank]
    | false => rw [List.dropWhile_cons_of_neg (by simp [blank])]

theorem inked_trimWhere (t : List Char) : inked (trimWhere isBlank t) = inked t := by
  rw [trimWhere, inked_reverse, inked_dropWhile, inked_reverse, List.reverse_reverse,
    inked_dropWhile]

theorem inked_trim (s : String) : inked (trim s).toList = inked s.toList := by
  rw [trim, String.toList_ofList, inked_trimWhere]

theorem dropWhile_append_of_kept (margin : ∀ c ∈ before, drop c = true)
    (kept : ∀ c ∈ t, drop c = false)
    (nonempty : t ≠ []) : (before ++ t ++ after).dropWhile drop = t ++ after := by
  rw [List.append_assoc, List.dropWhile_append_of_pos margin]
  cases t with
  | nil => exact absurd rfl nonempty
  | cons c t =>
    have first : drop c = false := kept c List.mem_cons_self
    exact List.dropWhile_cons_of_neg (by rw [first]; exact Bool.false_ne_true)

/-- Trimming leaves just what stands between the margins, where nothing of it is what a margin
consists of. -/
theorem trimWhere_margins (margins : ∀ c ∈ before ++ after, drop c = true)
    (kept : ∀ c ∈ t, drop c = false)
    (nonempty : t ≠ []) : trimWhere drop (before ++ t ++ after) = t := by
  obtain ⟨left, right⟩ := List.forall_mem_append.1 margins
  have reversed : (t ++ after).reverse = after.reverse ++ t.reverse ++ [] := by
    rw [List.reverse_append, List.append_nil]
  rw [trimWhere, dropWhile_append_of_kept left kept nonempty, reversed, dropWhile_append_of_kept,
    List.append_nil, List.reverse_reverse]
  · intro c hc
    exact right c (List.mem_reverse.1 hc)
  · intro c hc
    exact kept c (List.mem_reverse.1 hc)
  · exact mt List.reverse_eq_nil_iff.1 nonempty

theorem inked_pieces (text : List Char) : inked (pieces '\n' text).flatten = inked text := by
  rw [flatten_pieces, inked, inked, List.filter_filter]
  apply List.filter_congr
  intro c _
  cases blank : isBlank c with
  | true => rfl
  | false =>
    rw [Bool.not_false, Bool.true_and, bne_iff_ne]
    rintro rfl
    cases blank

end WebScript.Text
