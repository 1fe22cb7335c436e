import TypeMismatch.Layout
import TypeMismatch.Proofs.Text.Blank

/-!
# The lines of a block are neat

No line of a block is blank or ends in a blank, and a line beyond the limit has no bar left at which
it could be broken: a bar is the first character behind its margin or the last one of the line
(`format_lines_neat`).

The lines are followed from wrapping to the end.  Wrapping cuts a line into texts without bars, puts
a bar in front of all but the first and may put one behind the last (`mem_wrapAtBars`), so no bar
has something on both of its sides.  Trimming the whole block takes the margin of the first line
only, and a line that gets shorter stays neat (`Finished.flush`).
-/

namespace TypeMismatch.Layout

/-- A line that is not blank, has no blanks at its end, and has no inner bar if it is too long. -/
structure Neat (limit : Nat) (line : List Char) : Prop where
  inked : ∃ c ∈ line, Text.isBlank c = false
  flush : ∀ c, line.getLast? = some c → Text.isBlank c = false
  unbroken : limit < line.length → ∀ u v, line = u ++ '|' :: v →
    (∀ c ∈ u, Text.isBlank c = true) ∨ v = []

/-- A line that has been indented and wrapped: a margin, and what stands behind it. -/
structure Finished (limit : Nat) (margin body : List Char) : Prop where
  blank : ∀ c ∈ margin, Text.isBlank c = true
  inked : Text.Inked body
  whole : '\n' ∉ margin ++ body
  bars : limit < (margin ++ body).length → '|' ∉ body.tail.dropLast

namespace Finished

variable {limit : Nat} {margin body : List Char}

theorem flush (h : Finished limit margin body) : Finished limit [] body := by
  refine ⟨by simp, h.inked, fun hin => h.whole (List.mem_append_right _ hin), ?_⟩
  intro hlong
  apply h.bars
  rw [List.nil_append] at hlong
  rw [List.length_append]
  omega

theorem neat (h : Finished limit margin body) : Neat limit (margin ++ body) := by
  obtain ⟨c, rest, hbody, hc⟩ := h.inked.first
  obtain ⟨init, d, hlast, hd⟩ := h.inked.last
  refine ⟨⟨c, by simp [hbody], hc⟩, ?_, ?_⟩
  · intro e he
    rw [hlast, ← List.append_assoc, List.getLast?_concat, Option.some.injEq] at he
    rwa [← he]
  · intro hlong u v hsplit
    have hmargin : '|' ∉ margin := fun hin => by cases h.blank _ hin
    rcases List.append_eq_append_iff.1 hsplit with ⟨_ | ⟨x, a⟩, hu, ha⟩ | ⟨_ | ⟨x, a⟩, hu, ha⟩
    · -- the bar begins the body
      rw [List.append_nil] at hu
      exact .inl (hu ▸ h.blank)
    · by_cases hv : v = []
      · exact .inr hv
      · have hin : '|' ∈ body.tail.dropLast := by
          simp [ha, List.dropLast_append_of_ne_nil, List.dropLast_cons_of_ne_nil hv]
        exact absurd hin (h.bars hlong)
    · rw [List.append_nil] at hu
      exact .inl (hu ▸ h.blank)
    · rw [List.cons_append, List.cons.injEq] at ha
      obtain ⟨rfl, -⟩ := ha
      exact absurd (by simp [hu]) hmargin

end Finished

/-! ## Wrapping -/

/-- A text that wrapping starts a line with: characters of the wrapped line and new blanks, with at
most one bar, which comes first. -/
structure Segment (line body : List Char) : Prop where
  inked : Text.Inked body
  chars : ∀ c ∈ body, c ∈ line ∨ c = ' ' ∨ c = '|'
  bars : '|' ∉ body.tail

section Segments

variable {limit : Nat} {margin line body member : List Char}

theorem newline_notMem_of_chars (h : '\n' ∉ margin ++ line)
    (hbody : ∀ c ∈ body, c ∈ line ∨ c = ' ' ∨ c = '|') : '\n' ∉ margin ++ body := by
  rw [List.mem_append] at h ⊢
  rintro (hin | hin)
  · exact h (.inl hin)
  · rcases hbody _ hin with hin | he | he
    · exact h (.inr hin)
    · cases he
    · cases he

theorem Segment.finished (h : Segment line body) (hblank : ∀ c ∈ margin, Text.isBlank c = true)
    (hline : '\n' ∉ margin ++ line) : Finished limit margin body where
  blank := hblank
  inked := h.inked
  whole := newline_notMem_of_chars hline h.chars
  bars := fun _ hin => h.bars (List.dropLast_subset _ hin)

/-- A bar that is put at the end is at an end. -/
theorem Segment.finished_trailing (h : Segment line body)
    (hblank : ∀ c ∈ margin, Text.isBlank c = true) (hline : '\n' ∉ margin ++ line) :
    Finished limit margin (body ++ [' ', '|']) := by
  obtain ⟨c, rest, rfl, hc⟩ := h.inked.first
  refine ⟨hblank, ⟨⟨c, _, rfl, hc⟩, ⟨c :: (rest ++ [' ']), '|', by simp, rfl⟩⟩, ?_, ?_⟩
  · apply newline_notMem_of_chars hline
    intro d hd
    rcases List.mem_append.1 hd with hd | hd
    · exact h.chars d hd
    · exact .inr (by simpa using hd)
  · intro _
    have hbars := h.bars
    rw [List.tail_cons] at hbars
    simpa [List.dropLast_append_of_ne_nil] using hbars

/-- A text that stands between two bars of a line, without the blanks around it. -/
structure Member (line member : List Char) : Prop where
  inked : member = [] ∨ Text.Inked member
  chars : ∀ c ∈ member, c ∈ line ∧ c ≠ '|'

theorem member_trim {part : List Char} (h : part ∈ Text.splitAt '|' line) :
    Member line (Text.trim part) where
  inked := by
    by_cases hnil : Text.trim part = []
    · exact .inl hnil
    · exact .inr (Text.inked_trim hnil)
  chars := by
    intro c hc
    obtain ⟨hin, hne⟩ := Text.mem_of_mem_splitWhere h (Text.mem_of_mem_trim hc)
    exact ⟨hin, by simpa using hne⟩

theorem Member.segment (h : Member line member) (hne : member ≠ []) : Segment line member where
  inked := h.inked.resolve_left hne
  chars := fun c hc => .inl (h.chars c hc).1
  bars := fun hin => (h.chars _ (List.mem_of_mem_tail hin)).2 rfl

/-- A member behind a bar, or the bar alone. -/
theorem Member.continuation_eq (h : Member line member) (margin : List Char) :
    continuation margin member =
      margin ++ '|' :: (if member = [] then [] else ' ' :: member) := by
  unfold continuation Text.trimRight
  rw [Text.dropRight_append_cons rfl]
  congr 1
  rcases h.inked with rfl | hink
  · rfl
  · obtain ⟨init, c, hlast, hc⟩ := hink.last
    rw [if_neg hink.ne_nil, hlast]
    exact Text.trimRight_concat hc ('|' :: ' ' :: init)

theorem Member.segment_bar (h : Member line member) :
    Segment line ('|' :: (if member = [] then [] else ' ' :: member)) := by
  rcases h.inked with rfl | hink
  · exact ⟨⟨⟨'|', [], rfl, rfl⟩, ⟨[], '|', rfl, rfl⟩⟩, by simp, by simp⟩
  · obtain ⟨init, c, hlast, hc⟩ := hink.last
    rw [if_neg hink.ne_nil]
    refine ⟨⟨⟨'|', _, rfl, rfl⟩, ⟨'|' :: ' ' :: init, c, by rw [hlast]; rfl, hc⟩⟩, ?_, ?_⟩
    · intro d hd
      simp only [List.mem_cons] at hd
      rcases hd with rfl | rfl | hd
      · exact .inr (.inr rfl)
      · exact .inr (.inl rfl)
      · exact .inl (h.chars d hd).1
    · rw [List.tail_cons, List.mem_cons]
      rintro (he | hin)
      · cases he
      · exact (h.chars _ hin).2 rfl

/-- The lines of the members: the first one as it is, if it is there, the others behind bars. -/
theorem exists_segment {l first : List Char} {others : List (List Char)}
    (hmembers : ∀ m ∈ first :: others, Member line m)
    (h : l ∈ (if first.isEmpty then [] else [margin ++ first]) ++
      others.map (continuation margin)) :
    ∃ body, l = margin ++ body ∧ Segment line body := by
  rcases List.mem_append.1 h with h | h
  · split at h
    · cases h
    · next hne =>
      rw [List.isEmpty_iff] at hne
      exact ⟨first, List.mem_singleton.1 h, (hmembers first List.mem_cons_self).segment hne⟩
  · obtain ⟨m, hm, rfl⟩ := List.mem_map.1 h
    have hmember := hmembers m (List.mem_cons_of_mem first hm)
    exact ⟨_, hmember.continuation_eq margin, hmember.segment_bar⟩

end Segments

theorem mem_withTrailingBar {lines : List (List Char)} {l : List Char}
    (h : l ∈ withTrailingBar lines) : l ∈ lines ∨ ∃ k ∈ lines, l = k ++ [' ', '|'] := by
  fun_induction withTrailingBar lines with
  | case1 => cases h
  | case2 line => exact .inr ⟨line, List.mem_cons_self, List.mem_singleton.1 h⟩
  | case3 line next rest ih =>
    rcases List.mem_cons.1 h with rfl | h
    · exact .inl List.mem_cons_self
    · rcases ih h with h | ⟨k, hk, rfl⟩
      · exact .inl (List.mem_cons_of_mem line h)
      · exact .inr ⟨k, List.mem_cons_of_mem line hk, rfl⟩

/-- A line that splits into one part has no bar but the one at its end. -/
theorem notMem_inner_of_splitAt {line part : List Char} (trailing : Bool)
    (h : Text.splitAt '|' (if trailing then line.dropLast else line) = [part]) :
    '|' ∉ line.tail.dropLast := by
  intro hin
  have hall := Text.forall_neg_of_splitWhere_singleton h
  have hline : '|' ∈ line.dropLast := by
    rw [← List.tail_dropLast] at hin
    exact List.mem_of_mem_tail hin
  cases trailing with
  | false => cases hall '|' (List.dropLast_subset _ hline)
  | true => cases hall '|' hline

theorem member_of_mem {line m : List Char} (trailing : Bool)
    (h : m ∈ (Text.splitAt '|' (if trailing then line.dropLast else line)).map Text.trim) :
    Member line m := by
  obtain ⟨part, hpart, rfl⟩ := List.mem_map.1 h
  cases trailing with
  | false => exact member_trim hpart
  | true =>
    have hmember := member_trim hpart
    refine ⟨hmember.inked, fun c hc => (hmember.chars c hc).imp_left fun hin => ?_⟩
    exact List.dropLast_subset _ hin

/-- **What a line is broken into**: lines with its margin, without inner bars. -/
theorem mem_wrapAtBars {limit : Nat} {margin line l : List Char}
    (hblank : ∀ c ∈ margin, Text.isBlank c = true) (hline : Text.Inked line)
    (hwhole : '\n' ∉ margin ++ line) (h : l ∈ wrapAtBars (margin ++ line)) :
    ∃ body, l = margin ++ body ∧ Finished limit margin body := by
  have hbody : Text.trimRight (Text.trimLeft (margin ++ line)) = line := by
    rw [← Text.trim, Text.trim_blank_append hblank, hline.trim_eq]
  have hmargin : (margin ++ line).takeWhile Text.isBlank = margin := by
    obtain ⟨c, rest, rfl, hc⟩ := hline.first
    rw [List.takeWhile_append_of_pos hblank]
    simp [hc]
  unfold wrapAtBars at h
  simp only [hbody, hmargin] at h
  generalize (line.getLast? == some '|') = trailing at h
  have hmembers := fun m => @member_of_mem line m trailing
  split at h
  · next first next others hsplit =>
    rw [hsplit] at hmembers
    have hlines := fun k => @exists_segment margin line k first (next :: others) hmembers
    split at h
    · rcases mem_withTrailingBar h with h | ⟨k, hk, rfl⟩
      · obtain ⟨body, rfl, hsegment⟩ := hlines l h
        exact ⟨body, rfl, hsegment.finished hblank hwhole⟩
      · obtain ⟨body, rfl, hsegment⟩ := hlines k hk
        exact ⟨_, List.append_assoc _ _ _, hsegment.finished_trailing hblank hwhole⟩
    · obtain ⟨body, rfl, hsegment⟩ := hlines l h
      exact ⟨body, rfl, hsegment.finished hblank hwhole⟩
  · next hone =>
    refine ⟨line, List.mem_singleton.1 h, hblank, hline, hwhole, fun _ => ?_⟩
    rcases hsplit : Text.splitAt '|' (if trailing then line.dropLast else line) with
      _ | ⟨first, _ | ⟨next, others⟩⟩
    · exact absurd hsplit (Text.splitAt_ne_nil _ _)
    · exact notMem_inner_of_splitAt trailing hsplit
    · exact absurd (by rw [hsplit]; rfl) (hone _ _ _)

theorem mem_wrap {limit : Nat} {margin line l : List Char}
    (hblank : ∀ c ∈ margin, Text.isBlank c = true) (hline : Text.Inked line)
    (hwhole : '\n' ∉ margin ++ line) (h : l ∈ wrap limit (margin ++ line)) :
    ∃ body, l = margin ++ body ∧ Finished limit margin body := by
  unfold wrap at h
  split at h
  · next hcond =>
    refine ⟨line, List.mem_singleton.1 h, hblank, hline, hwhole, ?_⟩
    intro hlong hin
    have hbar : '|' ∈ line := List.mem_of_mem_tail (List.dropLast_subset _ hin)
    simp [hbar] at hcond
    simp at hlong
    omega
  · exact mem_wrapAtBars hblank hline hwhole h

/-! ## All lines -/

/-- A line as it is indented: trimmed, and on one line. -/
structure Raw (line : List Char) : Prop where
  inked : line = [] ∨ Text.Inked line
  whole : '\n' ∉ line

theorem raw_of_mem_rawLines {cs line : List Char} (h : line ∈ rawLines cs) : Raw line := by
  obtain ⟨part, hpart, rfl⟩ := List.mem_map.1 h
  refine ⟨?_, ?_⟩
  · by_cases hnil : Text.trim part = []
    · exact .inl hnil
    · exact .inr (Text.inked_trim hnil)
  · intro hin
    have hne := (Text.mem_of_mem_splitWhere hpart (Text.mem_of_mem_trim hin)).2
    cases hne

theorem mem_indentation {style : Style} (h : ∀ c ∈ style.indent, c = ' ' ∨ c = '\t') {level : Nat}
    {c : Char} (hc : c ∈ indentation style level) : c = ' ' ∨ c = '\t' := by
  obtain ⟨unit, hunit, hin⟩ := List.mem_flatten.1 hc
  rw [List.eq_of_mem_replicate hunit] at hin
  exact h c hin

theorem mem_indentLines {style : Style} (h : ∀ c ∈ style.indent, c = ' ' ∨ c = '\t')
    (level depth : Nat) {lines : List (List Char)} (hlines : ∀ line ∈ lines, Raw line)
    {l : List Char} (hl : l ∈ indentLines style level depth lines) :
    ∃ margin body, l = margin ++ body ∧ Finished style.lineLimit margin body := by
  induction lines generalizing level depth with
  | nil => cases hl
  | cons line lines ih =>
    have hrest : ∀ k ∈ lines, Raw k := fun k hk => hlines k (List.mem_cons_of_mem line hk)
    obtain ⟨hinked, hwhole⟩ := hlines line List.mem_cons_self
    rw [indentLines] at hl
    split at hl
    · exact ih _ _ hrest hl
    · next hne =>
      rw [List.isEmpty_iff] at hne
      rcases List.mem_append.1 hl with hl | hl
      · have hblank : ∀ (n : Nat), ∀ c ∈ indentation style n, Text.isBlank c = true := by
          intro n c hc
          rcases mem_indentation h hc with rfl | rfl <;> rfl
        have hnewline : ∀ n : Nat, '\n' ∉ indentation style n ++ line := by
          intro n hin
          rcases List.mem_append.1 hin with hin | hin
          · rcases mem_indentation h hin with he | he <;> cases he
          · exact hwhole hin
        exact ⟨_, mem_wrap (hblank _) (hinked.resolve_left hne) (hnewline _) hl⟩
      · exact ih _ _ hrest hl

/-- A block is the text of lines that have been indented and wrapped. -/
theorem exists_block_lines {style : Style} (h : ∀ c ∈ style.indent, c = ' ' ∨ c = '\t')
    {cs : List Char} (hne : block style cs ≠ []) :
    ∃ lines, lines ≠ [] ∧ block style cs = Text.joinWith ['\n'] lines ∧
      ∀ l ∈ lines, ∃ margin body, l = margin ++ body ∧ Finished style.lineLimit margin body := by
  have hall : ∀ l ∈ indentLines style 0 0 (rawLines cs), ∃ margin body, l = margin ++ body ∧
      Finished style.lineLimit margin body :=
    fun l => mem_indentLines h 0 0 fun _ => raw_of_mem_rawLines
  unfold block at hne ⊢
  generalize indentLines style 0 0 (rawLines cs) = lines at hne hall
  cases lines with
  | nil => exact absurd rfl hne
  | cons first rest =>
    obtain ⟨margin, body, rfl, hfirst⟩ := hall first List.mem_cons_self
    -- the margin of the first line is all that trimming takes
    have hlines : ∀ l ∈ body :: rest, ∃ margin body, l = margin ++ body ∧
        Finished style.lineLimit margin body := by
      intro l hl
      rcases List.mem_cons.1 hl with rfl | hl
      · exact ⟨[], l, rfl, hfirst.flush⟩
      · exact hall l (List.mem_cons_of_mem _ hl)
    have hlast : ∀ l ∈ body :: rest, ∃ init c, l = init ++ [c] ∧ Text.isBlank c = false := by
      intro l hl
      obtain ⟨margin, body, rfl, hfinished⟩ := hlines l hl
      obtain ⟨init, c, hbody, hc⟩ := hfinished.inked.last
      exact ⟨margin ++ init, c, by rw [hbody, List.append_assoc], hc⟩
    have hinked : Text.Inked (Text.joinWith ['\n'] (body :: rest)) := by
      refine ⟨?_, Text.exists_concat_joinWith ['\n'] (List.cons_ne_nil _ _) hlast⟩
      obtain ⟨c, more, hbody, hc⟩ := hfirst.inked.first
      have hjoin := Text.joinWith_append_cons ['\n'] body [] rest
      rw [List.append_nil, hbody] at hjoin
      exact ⟨c, _, by rw [hbody]; exact hjoin, hc⟩
    refine ⟨body :: rest, List.cons_ne_nil _ _, ?_, hlines⟩
    rw [Text.joinWith_append_cons, Text.trim_blank_append hfirst.blank, hinked.trim_eq]

/-- **The lines of a block are neat**: none is blank or ends in a blank, and none that is too long
could be broken at a bar. -/
theorem format_lines_neat {style : Style} (h : ∀ c ∈ style.indent, c = ' ' ∨ c = '\t')
    {text : String} (hplain : isPlain text.toList = false) (hne : format style text ≠ "") :
    ∀ line ∈ Text.splitAt '\n' (format style text).toList, Neat style.lineLimit line := by
  have hformat : (format style text).toList = block style text.toList := by
    rw [format, String.toList_ofList, layout, hplain, if_neg Bool.false_ne_true]
  have hblock : block style text.toList ≠ [] := by
    intro hnil
    rw [hnil] at hformat
    exact hne (String.toList_eq_nil_iff.1 hformat)
  obtain ⟨lines, hlines, hjoin, hall⟩ := exists_block_lines h hblock
  rw [hformat, hjoin, Text.splitAt_joinWith hlines]
  · intro line hline
    obtain ⟨margin, body, rfl, hfinished⟩ := hall line hline
    exact hfinished.neat
  · intro line hline
    obtain ⟨margin, body, rfl, hfinished⟩ := hall line hline
    exact hfinished.whole

/-- A line that is still too long after wrapping: a member between two bars, behind an empty one. -/
theorem format_lines_neat_of_wrapped_line :
    let style : Style := ⟨['\t'], 5⟩
    let text := "\x7bx: (aaaa||bbb|"
    let line := "\t| bbb |".toList
    ((∀ c ∈ style.indent, c = ' ' ∨ c = '\t') ∧ isPlain text.toList = false ∧
        format style text ≠ "") ∧
      format style text = "\x7b\n\tx: (aaaa\n\t|\n\t| bbb |" ∧
      line ∈ Text.splitAt '\n' (format style text).toList ∧
      style.lineLimit < line.length ∧ Neat style.lineLimit line := by
  intro style text line
  have hindent : ∀ c ∈ style.indent, c = ' ' ∨ c = '\t' := by simp [style]
  have hplain : isPlain text.toList = false := by decide
  have hformat : format style text = "\x7b\n\tx: (aaaa\n\t|\n\t| bbb |" := by decide
  have hne : format style text ≠ "" := by
    rw [hformat]
    decide
  have hline : line ∈ Text.splitAt '\n' (format style text).toList := by
    rw [hformat]
    decide
  exact ⟨⟨hindent, hplain, hne⟩, hformat, hline, by decide,
    format_lines_neat hindent hplain hne line hline⟩

end TypeMismatch.Layout
