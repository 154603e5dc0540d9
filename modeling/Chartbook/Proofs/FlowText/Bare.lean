import Chartbook.Proofs.FlowText.Printed

/-!
Ids without marks. A reference to such an id is read as it was written, whatever follows it, and so is
every statement about such ids, unless the line of a node is taken for an edge.
-/

namespace Chartbook.FlowText

/-- An id that holds nothing with a meaning of its own in a line. -/
structure Bare (id : List Char) : Prop where
  feedless : '\n' ∉ id
  arrowless : ¬ Statement.arrow <:+: id
  unmarked : ∀ mark ∈ ['[', ']', '\x7b', '\x7d', '(', ')'], mark ∉ id

instance (id : List Char) : Decidable (Bare id) :=
  decidable_of_iff ('\n' ∉ id ∧ ¬ Statement.arrow <:+: id ∧
      ['[', ']', '\x7b', '\x7d', '(', ')'].all fun mark => decide (mark ∉ id))
    ⟨fun held => ⟨held.1, held.2.1, fun mark member =>
        of_decide_eq_true (List.all_eq_true.mp held.2.2 mark member)⟩,
      fun bare => ⟨bare.feedless, bare.arrowless, List.all_eq_true.mpr fun mark member =>
        decide_eq_true (bare.unmarked mark member)⟩⟩

namespace Bare

variable {id : List Char}

theorem unclosed (bare : Bare id) (kind : NodeKind) : ¬ kind.marks.2 <:+: id := by
  intro closed
  cases kind with
  | plain => exact bare.unmarked ']' (by simp) (closed.subset (by simp [NodeKind.marks]))
  | entry => exact bare.unmarked ']' (by simp) (closed.subset (by simp [NodeKind.marks]))
  | exit => exact bare.unmarked ')' (by simp) (closed.subset (by simp [NodeKind.marks]))
  | decision => exact bare.unmarked '\x7d' (by simp) (closed.subset (by simp [NodeKind.marks]))

theorem cut?_closing (bare : Bare id) (kind : NodeKind) (more : List Char) :
    Text.cut? kind.marks.2 (id ++ (kind.marks.2 ++ more)) = some (id, more) := by
  have single {closer : Char} (absent : closer ∉ id) :
      Text.cut? [closer] (id ++ ([closer] ++ more)) = some (id, more) :=
    (Text.cut?_single_eq_some_iff closer _ id more).mpr ⟨rfl, absent⟩
  have double {closer : Char} (absent : closer ∉ id) :
      Text.cut? [closer, closer] (id ++ ([closer, closer] ++ more)) = some (id, more) := by
    refine (Text.cut?_double_eq_some_iff closer _ id more).mpr ⟨rfl, ?_, ?_⟩
    · exact fun doubled => absent (doubled.subset (by simp))
    · exact fun last => absent (List.mem_of_getLast? last)
  cases kind with
  | plain => exact single (bare.unmarked ']' (by simp))
  | entry => exact double (bare.unmarked ']' (by simp))
  | exit => exact double (bare.unmarked ')' (by simp))
  | decision => exact single (bare.unmarked '\x7d' (by simp))

theorem read?_write_append (bare : Bare id) (tidy : Text.Tidy id) (kind : NodeKind)
    (more : List Char) :
    Reference.read? (Reference.write kind id ++ more) = some { kind, id, rest := more } := by
  have shape : Reference.write kind id ++ more = kind.marks.1 ++ (id ++ (kind.marks.2 ++ more)) := by
    rw [Reference.write, List.append_assoc, List.append_assoc]
  rw [shape, Reference.read?_eq_some_iff]
  refine ⟨?_, ?_⟩
  · exact Reference.readAs?_opening_iff.mpr
      ⟨id, bare.cut?_closing kind more, rfl, tidy.trimmed.symm, tidy.nonempty⟩
  · rintro rfl
    cases entry : Reference.readAs? (NodeKind.plain.marks.1 ++
        (id ++ (NodeKind.plain.marks.2 ++ more))) .entry with
    | none => rfl
    | some found =>
        obtain ⟨body, behind⟩ := Reference.bracket_of_entry entry
        obtain ⟨first, later, parts⟩ := List.exists_cons_of_ne_nil tidy.nonempty
        rw [parts] at behind
        obtain ⟨rfl, _⟩ := List.cons.inj behind
        exact absurd (by rw [parts]; exact List.mem_cons_self) (bare.unmarked '[' (by simp))

end Bare

namespace Statement

theorem readEdge?_line {source target : String} {label : Option String}
    (normal : (edge source target label).Normal) (start : Bare source.toList)
    (finish : Bare target.toList) :
    readEdge? (line (.edge source target label)) = some (.edge source target label) := by
  obtain ⟨tidy, quiet, whole, labelled⟩ := normal
  rw [line_edge]
  refine (readEdge?_arrow_iff (arrow_not_infix_write _ quiet) (trim_write _ _)).mpr
    ⟨{ kind := Reference.shapeFor source.toList, id := source.toList, rest := [] },
      target.toList, label, ?_, rfl, ?_, ?_⟩
  · simpa using start.read?_write_append tidy (Reference.shapeFor source.toList) []
  · rw [readEnd?_eq_some_iff, trim_end labelled]
    exact ⟨_, finish.read?_write_append whole _ _, readLabel?_labelSuffix labelled, rfl⟩
  · rw [String.ofList_toList, String.ofList_toList]

theorem readNode?_line {declared : Node} (normal : (node declared).Normal)
    (bare : Bare declared.id.toList) :
    readNode? (line (.node declared)) = some (.node declared) := by
  obtain ⟨tidy, _, labelled⟩ := normal
  have label : Text.trim (' ' :: declared.label.toList) = declared.label.toList := by
    rw [← List.singleton_append, Text.trim_blanks_append _ onlyBlanks_space, labelled.trimmed]
  rw [line_node, readNode?_eq_some_iff]
  refine ⟨_, bare.read?_write_append tidy _ _, ?_, ?_⟩
  · rintro _ ⟨⟩
    rfl
  · simp [labelOf, label, labelled.nonempty]

theorem reread_edge_of_bare {source target : String} {label : Option String}
    (normal : (edge source target label).Normal) (start : Bare source.toList)
    (finish : Bare target.toList) :
    reread? (.edge source target label) = some (.edge source target label) := by
  rw [reread?, read?_eq_some_iff, trim_line normal]
  exact .inl (readEdge?_line normal start finish)

theorem reread_node_of_bare {declared : Node} (normal : (node declared).Normal)
    (bare : Bare declared.id.toList) :
    reread? (.node declared) = some (.node declared) ∨
      ∃ source target label, reread? (.node declared) = some (.edge source target label) := by
  cases misread : readEdge? (line (.node declared)) with
  | none =>
      left
      rw [reread?, read?_eq_some_iff, trim_line normal]
      exact .inr ⟨misread, readNode?_line normal bare⟩
  | some statement =>
      right
      obtain ⟨_, _, source, target, label, _, _, _, _, rfl⟩ := readEdge?_eq_some_iff.mp misread
      refine ⟨String.ofList source.id, String.ofList target, label, ?_⟩
      rw [reread?, read?_eq_some_iff, trim_line normal]
      exact .inl misread

theorem no_edge_of_mentioned {id : String} (bare : Bare id.toList) (source target : String)
    (label : Option String) :
    read? (nodeLine (Node.mentioned id)) ≠ some (.edge source target label) := by
  intro read
  obtain edge | ⟨_, node⟩ := read?_eq_some_iff.mp read
  · obtain ⟨left, right, _, _, _, cut, _⟩ := readEdge?_eq_some_iff.mp edge
    have quiet : ¬ arrow <:+: nodeLine (Node.mentioned id) :=
      arrow_not_infix_append (arrow_not_infix_write _ bare.arrowless)
        (arrow_not_infix_space bare.arrowless) (.inr (by simp))
    exact quiet ((Text.infix_of_cut? (by simp [arrow]) cut).trans (Text.trim_infix _))
  · obtain ⟨_, _, _, same⟩ := readNode?_eq_some_iff.mp node
    cases same

end Statement

end Chartbook.FlowText
