import KeyJoin.TextLines

/-!
# Lines and their ends

A line of a text holds no line feed.  A text without a line feed that does not
end in a carriage return is read back as one line when a line feed is put
behind it, so lines of this kind can be written below one another and are found
again as they were.
-/

namespace KeyJoin

variable {line text : List Char}

theorem lines_cons_of_inside {c : Char} (hfeed : c ≠ '\n')
    (hreturn : c = '\r' → text.head? ≠ some '\n') :
    lines (c :: text) =
      match lines text with
      | [] => [[c]]
      | line :: rest => (c :: line) :: rest := by
  have hpair : ∀ rest, c = '\r' → text = '\n' :: rest → False := by
    rintro rest hc rfl
    exact hreturn hc rfl
  cases htext : lines text with
  | nil => rw [lines, htext] <;> assumption
  | cons line rest => rw [lines, htext] <;> assumption

theorem feed_not_mem_of_mem_lines (h : line ∈ lines text) : '\n' ∉ line := by
  fun_induction lines text generalizing line with
  | case1 => cases h
  | case2 text ih =>
      rcases List.mem_cons.mp h with rfl | h
      · simp
      · exact ih h
  | case3 text ih =>
      rcases List.mem_cons.mp h with rfl | h
      · simp
      · exact ih h
  | case4 c text hfeed hreturn hnil ih =>
      obtain rfl : line = [c] := by simpa using h
      simpa [eq_comm] using hfeed
  | case5 c text hfeed hreturn first rest hcons ih =>
      rcases List.mem_cons.mp h with rfl | h
      · have hfirst : '\n' ∉ first := ih (by rw [hcons]; exact List.mem_cons_self)
        simpa [eq_comm, hfirst] using hfeed
      · exact ih (by rw [hcons]; exact List.mem_cons_of_mem first h)

theorem lines_ne_nil (hne : text ≠ []) : lines text ≠ [] := by
  fun_cases lines text with
  | case1 => exact absurd rfl hne
  | case2 text => simp
  | case3 text => simp
  | case4 c text hfeed hreturn hnil => simp
  | case5 c text hfeed hreturn first rest hcons => simp

/-- A text that ends in a line feed has all its lines whatever comes behind it. -/
theorem lines_append {a : List Char} (h : a.getLast? = some '\n') (b : List Char) :
    lines (a ++ b) = lines a ++ lines b := by
  fun_induction lines a with
  | case1 => cases h
  | case2 text ih =>
      cases text with
      | nil => rfl
      | cons c text =>
          rw [List.getLast?_cons_cons] at h
          rw [List.cons_append, lines, ih h]
          rfl
  | case3 text ih =>
      cases text with
      | nil => rfl
      | cons c text =>
          rw [List.getLast?_cons_cons, List.getLast?_cons_cons] at h
          rw [List.cons_append, List.cons_append, lines, ih h]
          rfl
  | case4 c text hfeed hreturn hnil ih =>
      -- there is nothing behind `c`, which would have to be the line feed
      cases text with
      | nil => exact absurd (Option.some.inj h) (by simpa using hfeed)
      | cons d text => exact absurd hnil (lines_ne_nil (by simp))
  | case5 c text hfeed hreturn first rest hcons ih =>
      cases text with
      | nil => cases hcons
      | cons d text =>
          rw [List.getLast?_cons_cons] at h
          have hinside : c = '\r' → (d :: text ++ b).head? ≠ some '\n' := by
            intro hc hd
            obtain rfl : d = '\n' := by simpa using hd
            exact hreturn text hc rfl
          rw [List.cons_append, lines_cons_of_inside (by simpa using hfeed) hinside, ih h, hcons]
          rfl

/-- A text that stands on a line of its own once a line feed is put behind it. -/
structure IsPlainLine (line : List Char) : Prop where
  noFeed : '\n' ∉ line
  noReturn : line.getLast? ≠ some '\r'

theorem lines_append_feed (h : IsPlainLine line) (text : List Char) :
    lines (line ++ '\n' :: text) = line :: lines text := by
  induction line with
  | nil => rfl
  | cons c line ih =>
      obtain ⟨hfeed, hreturn⟩ := h
      simp only [List.mem_cons, not_or] at hfeed
      have hline : IsPlainLine line := by
        refine ⟨hfeed.2, fun hlast => hreturn ?_⟩
        rw [List.getLast?_cons, hlast]
        rfl
      have hinside : c = '\r' → (line ++ '\n' :: text).head? ≠ some '\n' := by
        rintro rfl
        cases line with
        | nil => simp at hreturn
        | cons d line =>
            have hd : '\n' ≠ d := fun hd => hfeed.2 (hd ▸ List.mem_cons_self)
            simpa using hd.symm
      rw [List.cons_append, lines_cons_of_inside (Ne.symm hfeed.1) hinside, ih hline]

/-- A carriage return in front of the line feed ends any line, also one that ends in another
carriage return. -/
theorem lines_append_returnFeed (hfeed : '\n' ∉ line) (text : List Char) :
    lines (line ++ '\r' :: '\n' :: text) = line :: lines text := by
  induction line with
  | nil => rfl
  | cons c line ih =>
      simp only [List.mem_cons, not_or] at hfeed
      have hinside : c = '\r' → (line ++ '\r' :: '\n' :: text).head? ≠ some '\n' := by
        intro _
        cases line with
        | nil => simp
        | cons d line =>
            have hd : '\n' ≠ d := fun hd => hfeed.2 (hd ▸ List.mem_cons_self)
            simpa using hd.symm
      rw [List.cons_append, lines_cons_of_inside (Ne.symm hfeed.1) hinside, ih hfeed.2]

/-- The lines below one another, each ended by a line feed. -/
def endLines (list : List (List Char)) : List Char :=
  list.flatMap fun line => line ++ ['\n']

theorem lines_endLines {list : List (List Char)} (h : ∀ line ∈ list, IsPlainLine line) :
    lines (endLines list) = list := by
  induction list with
  | nil => rfl
  | cons line list ih =>
      have hline := h line List.mem_cons_self
      have hlist : ∀ line ∈ list, IsPlainLine line :=
        fun other hother => h other (List.mem_cons_of_mem line hother)
      rw [endLines, List.flatMap_cons, List.append_assoc, List.singleton_append,
        lines_append_feed hline, ← endLines, ih hlist]

/-! ## Lines with a line feed between them -/

theorem intercalate_feed_append_feed {list : List (List Char)} (hne : list ≠ []) :
    ['\n'].intercalate list ++ ['\n'] = endLines list := by
  induction list with
  | nil => exact absurd rfl hne
  | cons line list ih =>
      cases list with
      | nil => simp [endLines]
      | cons next list =>
          rw [List.intercalate_cons_cons, List.append_assoc, ih (by simp)]
          simp [endLines]

theorem lines_of_feed_not_mem (hfeed : '\n' ∉ line) (hne : line ≠ []) : lines line = [line] := by
  induction line with
  | nil => exact absurd rfl hne
  | cons c line ih =>
      simp only [List.mem_cons, not_or] at hfeed
      have hinside : c = '\r' → line.head? ≠ some '\n' := by
        intro _ hhead
        exact hfeed.2 (List.mem_of_head? hhead)
      rw [lines_cons_of_inside (Ne.symm hfeed.1) hinside]
      cases line with
      | nil => rfl
      | cons d line => rw [ih hfeed.2 (by simp)]

/-- The last line may go without a line feed if there is something on it. -/
theorem lines_intercalate_feed {list : List (List Char)} (hne : list ≠ [])
    (hplain : ∀ line ∈ list, IsPlainLine line) (hfilled : ∀ line ∈ list, line ≠ []) :
    lines (['\n'].intercalate list) = list := by
  induction list with
  | nil => exact absurd rfl hne
  | cons line list ih =>
      have hline := hplain line List.mem_cons_self
      cases list with
      | nil =>
          rw [List.intercalate_singleton]
          exact lines_of_feed_not_mem hline.noFeed (hfilled line List.mem_cons_self)
      | cons next list =>
          have hrest := ih (by simp)
            (fun other hother => hplain other (List.mem_cons_of_mem line hother))
            fun other hother => hfilled other (List.mem_cons_of_mem line hother)
          rw [List.intercalate_cons_cons, List.append_assoc, List.singleton_append,
            lines_append_feed hline, hrest]

end KeyJoin
