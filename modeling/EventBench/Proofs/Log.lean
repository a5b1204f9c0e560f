import EventBench.Log

namespace EventBench.Log

/-- What the line of a record for finding mistakes begins with. -/
def debugMark : List Char := "run-parser: DEBUG: ".toList

/-- The lines of a text that do not begin with the mark. The last one is what stands behind the last line feed. -/
def withoutDebug (text : String) : List (List Char) :=
  (text.toList.splitOn '\n').filter fun line => !debugMark.isPrefixOf line

/-- A record for finding mistakes that takes one line. -/
structure Record.IsDebugLine (r : Record) : Prop where
  level : r.level = .debug
  logger : '\n' ∉ r.logger.toList
  message : '\n' ∉ r.message.toList

theorem toList_line (r : Record) (h : r.level = .debug) :
    r.line.toList = (debugMark ++ (r.logger.toList ++ ": ".toList ++ r.message.toList)) ++ ['\n'] := by
  have hmark : (program ++ ": " ++ Level.debug.shown ++ ": ").toList = debugMark := by decide
  have hend : "\n".toList = ['\n'] := rfl
  rw [Record.line, h]
  simp only [String.toList_append, ← hmark, hend, List.append_assoc]

theorem withoutDebug_line_append (r : Record) (h : r.IsDebugLine) (text : String) :
    withoutDebug (r.line ++ text) = withoutDebug text := by
  generalize hline : debugMark ++ (r.logger.toList ++ ": ".toList ++ r.message.toList) = line
  have htext : (r.line ++ text).toList = line ++ '\n' :: text.toList := by
    rw [String.toList_append, toList_line r h.level, hline, List.append_assoc]
    rfl
  have hfeed : ∀ c ∈ line, (c == '\n') = false := by
    intro c hc
    rw [← hline] at hc
    rw [beq_eq_false_iff_ne]
    rintro rfl
    rcases List.mem_append.mp hc with hc | hc
    · exact absurd hc (by decide)
    · rcases List.mem_append.mp hc with hc | hc
      · rcases List.mem_append.mp hc with hc | hc
        · exact h.logger hc
        · exact absurd hc (by decide)
      · exact h.message hc
  have hmark : debugMark.isPrefixOf line = true := by
    rw [List.isPrefixOf_iff_prefix, ← hline]
    exact List.prefix_append _ _
  have hsplit := List.splitOnP_append_cons_of_forall_mem hfeed '\n' (beq_self_eq_true '\n') text.toList
  rw [withoutDebug, htext, List.splitOn_eq_splitOnP, hsplit, List.filter_cons, hmark, ← List.splitOn_eq_splitOnP]
  rfl

/-- The lines of records are left out of a text that they stand in front of. -/
theorem withoutDebug_written_append (s : Setup) (rs : List Record) (h : ∀ r ∈ rs, r.IsDebugLine) (text : String) :
    withoutDebug (s.written rs ++ text) = withoutDebug text := by
  rw [Setup.written]
  induction rs with
  | nil => rw [List.filter_nil, List.map_nil, String.join_nil, String.empty_append]
  | cons r rs ih =>
    have hrs := ih fun q hq => h q (List.mem_cons_of_mem r hq)
    rw [List.filter_cons]
    split
    · rw [List.map_cons, String.join_cons, String.append_assoc,
        withoutDebug_line_append r (h r List.mem_cons_self), hrs]
    · exact hrs

end EventBench.Log
