import Chartbook.Proofs.FlowText.Statement

/-!
What is read from a written statement when it is not the statement itself: something simpler, or a
statement that its own line does not turn into yet another one. So no two statements are read from each
other's lines.
-/

namespace Chartbook.FlowText

namespace Reference

variable {id : List Char} {found : Reference}

theorem reread_mention (tidy : Text.Tidy id) (read : read? (write (shapeFor id) id) = some found)
    (ended : Text.trim found.rest = []) :
    found.id = id ∨ Text.weight found.id < Text.weight id := by
  obtain held | plain := shapeFor_holds id
  · rw [holds_iff, read, Option.some.injEq] at held
    rw [held]
    exact .inl rfl
  · have weights := weight_read read
    have nothing : Text.weight found.rest = 0 := by rw [← Text.weight_trim, ended]; rfl
    rw [plain] at read weights
    rw [weight_write, weight_write, nothing] at weights
    have taken := (read?_eq_some_iff.mp read).1
    rw [write, List.append_assoc] at taken
    obtain same | ⟨impossible, _⟩ | ⟨_, entry⟩ := kind_of_opening taken
    · rw [same] at taken
      obtain ⟨inside, cut, _, named, _⟩ := readAs?_opening_iff.mp taken
      obtain ⟨rfl, _⟩ | ⟨later, _, left⟩ := cut?_plain cut
      · left
        rw [named, tidy.trimmed]
      · rw [left, Text.weight_append, Text.weight_cons] at nothing
        simp [Text.isBlank] at nothing
    · cases impossible
    · right
      rw [entry] at weights
      simp [NodeKind.marks] at weights
      omega

end Reference

namespace Statement

theorem weight_labelSuffix_le {text : List Char} {label : Option String}
    (read : readLabel? text = some label) :
    Text.weight (labelSuffix label) ≤ Text.weight text := by
  cases label with
  | none => exact Nat.zero_le _
  | some written =>
      obtain ⟨tidy, _⟩ := written_of_readLabel? read written rfl
      rw [(trim_labelSuffix tidy).1]
      unfold readLabel? at read
      split at read
      · cases read
      · rename_i behind
        split at read
        · cases read
        · cases read
          simp [Text.weight_cons, Text.isBlank]
      · cases read

/-- What is read behind an arrow is what was written there, or it is lighter, or as light but with a
lighter target. -/
theorem reread_end {target : String} {label reading : Option String} {found : List Char}
    (whole : Text.Tidy target.toList) (tidy : ∀ written ∈ label, Text.Tidy written.toList)
    (read : readEnd? (' ' :: (mentionOf target ++ labelSuffix label)) = some (found, reading)) :
    found = target.toList ∧ reading = label ∨
      (Text.weight found + Text.weight (labelSuffix reading) <
        Text.weight target.toList + Text.weight (labelSuffix label)) ∨
      Text.weight found + Text.weight (labelSuffix reading) ≤
        Text.weight target.toList + Text.weight (labelSuffix label) ∧
      Text.weight found < Text.weight target.toList := by
  obtain ⟨reference, taken, labelled, rfl⟩ := readEnd?_eq_some_iff.mp read
  rw [trim_end tidy] at taken
  have weights := Reference.weight_read taken
  rw [Text.weight_append, mentionOf, Reference.weight_write, Reference.weight_write] at weights
  have light := weight_labelSuffix_le labelled
  rw [Text.weight_trim] at light
  have ofEntry (plain : Reference.shapeFor target.toList = .plain) (entry : reference.kind = .entry) :
      Text.weight reference.id + Text.weight (labelSuffix reading) <
        Text.weight target.toList + Text.weight (labelSuffix label) := by
    rw [plain, entry] at weights
    simp only [NodeKind.marks, List.length_cons, List.length_nil] at weights
    omega
  obtain held | plain := Reference.shapeFor_holds target.toList
  · obtain exactly | ⟨plain, entry, other, first⟩ :=
      Reference.read?_append (Reference.holds_iff.mp held) (labelSuffix label)
    · rw [mentionOf] at taken
      rw [taken, Option.some.injEq] at exactly
      subst exactly
      rw [List.nil_append, readLabel?_labelSuffix tidy, Option.some.injEq] at labelled
      exact .inl ⟨rfl, labelled.symm⟩
    · rw [mentionOf] at taken
      rw [taken, Option.some.injEq] at other
      subst other
      exact .inr (.inl (ofEntry plain first))
  · rw [mentionOf, plain] at taken
    have first := (Reference.read?_eq_some_iff.mp taken).1
    rw [Reference.write, List.append_assoc, List.append_assoc] at first
    obtain same | ⟨impossible, _⟩ | ⟨_, entry⟩ := Reference.kind_of_opening first
    · rw [same] at first
      obtain ⟨inside, cut, _, named, _⟩ := Reference.readAs?_opening_iff.mp first
      rw [plain, same] at weights
      obtain ⟨rfl, left⟩ | ⟨later, within, _⟩ := Reference.cut?_plain cut
      · rw [left, readLabel?_labelSuffix tidy, Option.some.injEq] at labelled
        rw [named, whole.trimmed]
        exact .inl ⟨rfl, labelled.symm⟩
      · refine .inr (.inr ⟨by omega, ?_⟩)
        rw [named, within, Text.weight_trim, Text.weight_append, Text.weight_cons]
        simp [Text.isBlank]
    · cases impossible
    · exact .inr (.inl (ofEntry plain entry))

theorem reread_node {declared : Node} {next : Statement} (normal : (node declared).Normal)
    (read : readNode? (node declared).line = some next) :
    next = .node declared ∨
      declared.kind = .plain ∧ ∃ other, next = .node other ∧ other.kind = .entry := by
  obtain ⟨tidy, unclosed, labelled⟩ := normal
  obtain ⟨found, taken, behind, rfl⟩ := readNode?_eq_some_iff.mp read
  rw [line_node] at taken
  obtain rfl | ⟨first, head, visible⟩ | ⟨plain, entry⟩ :=
    Reference.read?_write_append tidy unclosed taken
  · left
    have trimmed : Text.trim (' ' :: declared.label.toList) = declared.label.toList := by
      rw [← List.singleton_append, Text.trim_blanks_append _ onlyBlanks_space, labelled.trimmed]
    simp [labelOf, trimmed, labelled.nonempty]
  · rw [behind first head] at visible
    cases visible
  · exact .inr ⟨plain, _, rfl, entry⟩

end Statement

end Chartbook.FlowText
