import Chartbook.FlowText.Writer
import Chartbook.Proofs.FlowText.Reference

/-!
What the statements read from lines are like, and the lines that they are written as.
-/

namespace Chartbook.FlowText

namespace Statement

def readEnd? (text : List Char) : Option (List Char × Option String) := do
  let target ← Reference.read? (Text.trim text)
  let label ← readLabel? (Text.trim target.rest)
  some (target.id, label)

def Normal : Statement → Prop
  | .edge source target label =>
      Text.Tidy source.toList ∧ ¬ arrow <:+: source.toList ∧ Text.Tidy target.toList ∧
        ∀ text ∈ label, Text.Tidy text.toList
  | .node declared =>
      Text.Tidy declared.id.toList ∧ ¬ declared.kind.marks.2 <:+: declared.id.toList ∧
        Text.Tidy declared.label.toList

def line : Statement → List Char
  | .edge source target label => edgeLine (Edge.between source target label)
  | .node declared => nodeLine declared

theorem readEnd?_eq_some_iff {text target : List Char} {label : Option String} :
    readEnd? text = some (target, label) ↔ ∃ found, Reference.read? (Text.trim text) = some found ∧
      readLabel? (Text.trim found.rest) = some label ∧ found.id = target := by
  simp only [readEnd?, Option.bind_eq_bind, Option.bind_eq_some_iff, Option.some.injEq,
    Prod.mk.injEq]
  refine exists_congr fun found => and_congr_right fun _ => ?_
  constructor
  · rintro ⟨label, labelled, same, rfl⟩
    exact ⟨labelled, same⟩
  · rintro ⟨labelled, same⟩
    exact ⟨label, labelled, same, rfl⟩

theorem readEdge?_eq_some_iff {line : List Char} {statement : Statement} :
    readEdge? line = some statement ↔ ∃ left right source target label,
      Text.cut? arrow line = some (left, right) ∧
      Reference.read? (Text.trim left) = some source ∧ Text.trim source.rest = [] ∧
      readEnd? right = some (target, label) ∧
      statement = .edge (String.ofList source.id) (String.ofList target) label := by
  constructor
  · intro read
    simp only [readEdge?, Option.bind_eq_bind, Option.bind_eq_some_iff] at read
    obtain ⟨⟨left, right⟩, cut, source, taken, outcome⟩ := read
    split at outcome
    · rename_i ended
      simp only [Option.bind_eq_some_iff, Option.some.injEq] at outcome
      obtain ⟨target, reached, label, labelled, rfl⟩ := outcome
      refine ⟨left, right, source, target.id, label, cut, taken, ended, ?_, rfl⟩
      simp [readEnd?, reached, labelled]
    · cases outcome
  · rintro ⟨left, right, source, target, label, cut, taken, ended, reached, rfl⟩
    obtain ⟨reference, found, labelled, rfl⟩ := readEnd?_eq_some_iff.mp reached
    simp [readEdge?, cut, taken, ended, found, labelled]

def labelOf (found : Reference) : List Char :=
  if Text.trim found.rest = [] then found.id else Text.trim found.rest

theorem tidy_labelOf {text : List Char} {found : Reference}
    (read : Reference.read? text = some found) : Text.Tidy (labelOf found) := by
  rw [labelOf]
  split
  · exact Reference.tidy_of_read? read
  · rename_i visible
    exact Text.tidy_trim visible

theorem readNode?_eq_some_iff {line : List Char} {statement : Statement} :
    readNode? line = some statement ↔ ∃ found, Reference.read? line = some found ∧
      (∀ first ∈ found.rest.head?, Text.isBlank first = true) ∧
      statement = .node
        { id := String.ofList found.id
          label := String.ofList (labelOf found)
          kind := found.kind } := by
  simp only [readNode?, Option.bind_eq_bind, Option.bind_eq_some_iff]
  refine exists_congr fun found => and_congr_right fun _ => ?_
  rw [← labelOf]
  cases found.rest.head? with
  | none => simpa using eq_comm
  | some first => simpa using fun _ => eq_comm

theorem read?_eq_some_iff {line : List Char} {statement : Statement} :
    read? line = some statement ↔ readEdge? (Text.trim line) = some statement ∨
      readEdge? (Text.trim line) = none ∧ readNode? (Text.trim line) = some statement := by
  rw [read?]
  cases readEdge? (Text.trim line) <;> simp

theorem written_of_readLabel? {text : List Char} {label : Option String}
    (read : readLabel? text = some label) :
    ∀ written ∈ label, Text.Tidy written.toList ∧ written.toList <:+: text := by
  intro written member
  unfold readLabel? at read
  split at read
  · cases read
    cases member
  · rename_i behind
    split at read
    · cases read
      cases member
    · rename_i visible
      cases read
      cases member
      rw [String.toList_ofList]
      exact ⟨Text.tidy_trim visible,
        (Text.trim_infix behind).trans (List.suffix_cons ':' behind).isInfix⟩
  · cases read

theorem normal_of_read? {line : List Char} {statement : Statement}
    (read : read? line = some statement) : Normal statement := by
  obtain edge | ⟨_, node⟩ := read?_eq_some_iff.mp read
  · obtain ⟨left, right, source, target, label, cut, taken, ended, reached, rfl⟩ :=
      readEdge?_eq_some_iff.mp edge
    obtain ⟨reference, found, labelled, rfl⟩ := readEnd?_eq_some_iff.mp reached
    have quiet := ((Text.cut?_eq_some_iff (by simp [arrow]) _ _ _).mp cut).2
    simp only [Normal, String.toList_ofList]
    refine ⟨Reference.tidy_of_read? taken, ?_, Reference.tidy_of_read? found,
      fun written member => (written_of_readLabel? labelled written member).1⟩
    intro inside
    have early := (inside.trans (Reference.id_infix_of_read? taken)).trans (Text.trim_infix left)
    exact quiet (early.trans (List.prefix_append _ _).isInfix)
  · obtain ⟨found, taken, _, rfl⟩ := readNode?_eq_some_iff.mp node
    simp only [Normal, String.toList_ofList]
    exact ⟨Reference.tidy_of_read? taken, Reference.unclosed_of_read? taken, tidy_labelOf taken⟩

theorem onlyBlanks_space : Text.OnlyBlanks [' '] := by
  intro character member
  rw [List.mem_singleton.mp member]
  rfl

theorem arrow_not_infix_append {left right : List Char} (quietLeft : ¬ arrow <:+: left)
    (quietRight : ¬ arrow <:+: right) (apart : left.getLast? ≠ some '-' ∨ right.head? ≠ some '>') :
    ¬ arrow <:+: left ++ right := by
  rw [arrow, Text.pair_infix_append_iff]
  rintro (inside | inside | ⟨last, head⟩)
  · exact quietLeft inside
  · exact quietRight inside
  · exact apart.elim (fun other => other last) (fun other => other head)

theorem arrow_not_infix_space {text : List Char} (quiet : ¬ arrow <:+: text) :
    ¬ arrow <:+: ' ' :: text := by
  rw [← List.singleton_append]
  exact arrow_not_infix_append (by decide) quiet (.inl (by decide))

theorem arrow_not_infix_write (kind : NodeKind) {id : List Char} (quiet : ¬ arrow <:+: id) :
    ¬ arrow <:+: Reference.write kind id := by
  have opening : ¬ arrow <:+: kind.marks.1 ∧ kind.marks.1.getLast? ≠ some '-' := by
    cases kind <;> decide
  have closing : ¬ arrow <:+: kind.marks.2 ∧ kind.marks.2.head? ≠ some '>' := by
    cases kind <;> decide
  exact arrow_not_infix_append (arrow_not_infix_append opening.1 quiet (.inl opening.2))
    closing.1 (.inr closing.2)

theorem arrow_append (left right : List Char) (quiet : ¬ arrow <:+: left) :
    Text.cut? arrow (left ++ ([' '] ++ arrow ++ [' '] ++ right)) =
      some (left ++ [' '], ' ' :: right) := by
  refine (Text.cut?_eq_some_iff (by simp [arrow]) _ _ _).mpr ⟨by simp, ?_⟩
  rw [List.append_assoc]
  exact arrow_not_infix_append quiet (by decide) (.inr (by decide))

theorem readEdge?_arrow_iff {left right : List Char} {statement : Statement}
    (quiet : ¬ arrow <:+: left) (trimmed : Text.trim left = left) :
    readEdge? (left ++ ([' '] ++ arrow ++ [' '] ++ right)) = some statement ↔
      ∃ source target label, Reference.read? left = some source ∧ Text.trim source.rest = [] ∧
        readEnd? (' ' :: right) = some (target, label) ∧
        statement = .edge (String.ofList source.id) (String.ofList target) label := by
  have spaced : Text.trim (left ++ [' ']) = left := by
    rw [Text.trim_append_blanks _ onlyBlanks_space, trimmed]
  rw [readEdge?_eq_some_iff, arrow_append left right quiet]
  constructor
  · rintro ⟨_, _, source, target, label, same, taken, ended, reached, rfl⟩
    cases same
    rw [spaced] at taken
    exact ⟨source, target, label, taken, ended, reached, rfl⟩
  · rintro ⟨source, target, label, taken, ended, reached, rfl⟩
    exact ⟨_, _, source, target, label, rfl, by rw [spaced]; exact taken, ended, reached, rfl⟩

theorem trim_labelSuffix {written : String} (tidy : Text.Tidy written.toList) :
    labelSuffix (some written) = [' '] ++ ([':', ' '] ++ written.toList) ∧
      Text.trim (labelSuffix (some written)) = [':', ' '] ++ written.toList := by
  have visible : written ≠ "" := by
    rintro rfl
    exact tidy.nonempty rfl
  have shape : labelSuffix (some written) = [' '] ++ ([':', ' '] ++ written.toList) := by
    rw [labelSuffix, if_neg visible]
    rfl
  refine ⟨shape, ?_⟩
  rw [shape, Text.trim_blanks_append _ onlyBlanks_space]
  refine Text.trim_of_ends (by simp [Text.isBlank]) ?_
  rw [List.getLast?_append_of_ne_nil _ tidy.nonempty]
  exact tidy.last

theorem readLabel?_labelSuffix {label : Option String}
    (tidy : ∀ written ∈ label, Text.Tidy written.toList) :
    readLabel? (Text.trim (labelSuffix label)) = some label := by
  cases label with
  | none => rfl
  | some written =>
      have visible := tidy written rfl
      rw [(trim_labelSuffix visible).2, List.cons_append, readLabel?,
        Text.trim_blanks_append _ onlyBlanks_space, visible.trimmed, if_neg visible.nonempty,
        String.ofList_toList]

theorem line_edge (source target : String) (label : Option String) :
    line (.edge source target label) =
      mentionOf source ++ ([' '] ++ arrow ++ [' '] ++ (mentionOf target ++ labelSuffix label)) := by
  simp [line, edgeLine, Edge.between]

theorem line_node (declared : Node) :
    line (.node declared) =
      Reference.write declared.kind declared.id.toList ++ ' ' :: declared.label.toList := rfl

theorem write_last (kind : NodeKind) (id : List Char) :
    ∀ last ∈ (Reference.write kind id).getLast?, Text.isBlank last = false := by
  rw [Reference.write, List.getLast?_append_of_ne_nil _ kind.closing_ne_nil]
  cases kind <;> simp [NodeKind.marks, Text.isBlank]

theorem end_last {target : String} {label : Option String}
    (tidy : ∀ written ∈ label, Text.Tidy written.toList) :
    ∀ last ∈ (mentionOf target ++ labelSuffix label).getLast?, Text.isBlank last = false := by
  cases label with
  | none =>
      rw [labelSuffix, List.append_nil]
      exact write_last _ _
  | some written =>
      have visible := tidy written rfl
      rw [(trim_labelSuffix visible).1, ← List.append_assoc, ← List.append_assoc,
        List.getLast?_append_of_ne_nil _ visible.nonempty]
      exact visible.last

theorem write_first (kind : NodeKind) (id more : List Char) :
    ∀ first ∈ (Reference.write kind id ++ more).head?, Text.isBlank first = false := by
  cases kind <;> simp [Reference.write, NodeKind.marks, Text.isBlank]

theorem trim_write (kind : NodeKind) (id : List Char) :
    Text.trim (Reference.write kind id) = Reference.write kind id := by
  refine Text.trim_of_ends ?_ (write_last kind id)
  rw [← List.append_nil (Reference.write kind id)]
  exact write_first kind id []

theorem trim_end {target : String} {label : Option String}
    (tidy : ∀ written ∈ label, Text.Tidy written.toList) :
    Text.trim (' ' :: (mentionOf target ++ labelSuffix label)) =
      mentionOf target ++ labelSuffix label := by
  rw [← List.singleton_append, Text.trim_blanks_append _ onlyBlanks_space]
  exact Text.trim_of_ends (write_first _ _ _) (end_last tidy)

theorem trim_line {statement : Statement} (normal : statement.Normal) :
    Text.trim statement.line = statement.line := by
  cases statement with
  | edge source target label =>
      rw [line_edge]
      refine Text.trim_of_ends (write_first _ _ _) ?_
      rw [List.getLast?_append_of_ne_nil _ (by simp), List.getLast?_append_of_ne_nil _
        (by simp [mentionOf, Reference.write, NodeKind.closing_ne_nil])]
      exact end_last normal.2.2.2
  | node declared =>
      rw [line_node]
      refine Text.trim_of_ends (write_first _ _ _) ?_
      rw [List.append_cons, List.getLast?_append_of_ne_nil _ normal.2.2.nonempty]
      exact normal.2.2.last

theorem closes_line (statement : Statement) : closes statement.line = false := by
  have opening (kind : NodeKind) (id more : List Char) :
      closes (Reference.write kind id ++ more) = false := by
    have first := Text.head?_trim (write_first kind id more)
    rw [closes, Option.isSome_eq_false_iff, Option.isNone_iff_eq_none, Text.after?_eq_none_iff]
    rintro ⟨rest, parts⟩
    rw [← parts] at first
    cases kind <;> simp [fence, Reference.write, NodeKind.marks] at first
  cases statement with
  | edge source target label =>
      rw [line_edge]
      exact opening _ _ _
  | node declared => exact opening _ _ _

theorem feed_not_mem_write (kind : NodeKind) {id : List Char} (plain : '\n' ∉ id) :
    '\n' ∉ Reference.write kind id := by
  cases kind <;> simp [Reference.write, NodeKind.marks, plain]

theorem feed_not_mem_labelSuffix {label : Option String}
    (plain : ∀ written ∈ label, '\n' ∉ written.toList) : '\n' ∉ labelSuffix label := by
  cases label with
  | none => simp [labelSuffix]
  | some written =>
      rw [labelSuffix]
      split
      · simp
      · simp [plain written rfl]

theorem feed_not_mem_edge_iff {source target : String} {label : Option String} :
    '\n' ∉ line (.edge source target label) ↔
      '\n' ∉ source.toList ∧ '\n' ∉ target.toList ∧ ∀ written ∈ label, '\n' ∉ written.toList := by
  constructor
  · intro plain
    rw [line_edge] at plain
    simp only [mentionOf, Reference.write, List.mem_append, not_or] at plain
    refine ⟨plain.1.1.2, plain.2.2.1.1.2, ?_⟩
    rintro written rfl
    have suffix := plain.2.2.2
    rw [labelSuffix] at suffix
    split at suffix
    · rename_i empty
      simp [empty]
    · exact fun member => suffix (List.mem_append_right _ member)
  · rintro ⟨start, finish, labelled⟩
    have sourcePlain := feed_not_mem_write (Reference.shapeFor source.toList) start
    have targetPlain := feed_not_mem_write (Reference.shapeFor target.toList) finish
    rw [line_edge]
    simp [mentionOf, arrow, sourcePlain, targetPlain, feed_not_mem_labelSuffix labelled]

theorem feed_not_mem_node_iff {declared : Node} :
    '\n' ∉ line (.node declared) ↔ '\n' ∉ declared.id.toList ∧ '\n' ∉ declared.label.toList := by
  rw [line_node]
  constructor
  · intro plain
    simp only [Reference.write, List.mem_append, List.mem_cons, not_or] at plain
    exact ⟨plain.1.1.2, plain.2.2⟩
  · rintro ⟨named, labelled⟩
    simp [feed_not_mem_write declared.kind named, labelled]

theorem feed_not_mem_line {line : List Char} {statement : Statement}
    (read : read? line = some statement) (plain : '\n' ∉ line) : '\n' ∉ statement.line := by
  have within {text : List Char} (inside : text <:+: line) : '\n' ∉ text :=
    fun member => plain (inside.subset member)
  have trimmed := Text.trim_infix line
  obtain edge | ⟨_, node⟩ := read?_eq_some_iff.mp read
  · obtain ⟨left, right, source, target, label, cut, taken, ended, reached, rfl⟩ :=
      readEdge?_eq_some_iff.mp edge
    obtain ⟨parts, _⟩ := (Text.cut?_eq_some_iff (by simp [arrow]) _ _ _).mp cut
    have leftInside : left <:+: line :=
      (List.IsPrefix.isInfix ⟨arrow ++ right, by rw [parts, List.append_assoc]⟩).trans trimmed
    have rightInside : right <:+: line :=
      (List.IsSuffix.isInfix ⟨left ++ arrow, parts.symm⟩).trans trimmed
    obtain ⟨reference, found, labelled, rfl⟩ := readEnd?_eq_some_iff.mp reached
    have sourceInside := (Reference.id_infix_of_read? taken).trans (Text.trim_infix left)
    have targetInside := (Reference.id_infix_of_read? found).trans (Text.trim_infix right)
    have restInside := (Reference.rest_suffix_of_read? found).isInfix.trans (Text.trim_infix right)
    rw [feed_not_mem_edge_iff, String.toList_ofList, String.toList_ofList]
    refine ⟨within (sourceInside.trans leftInside), within (targetInside.trans rightInside), ?_⟩
    intro written member
    have inside := (written_of_readLabel? labelled written member).2
    exact within (((inside.trans (Text.trim_infix _)).trans restInside).trans rightInside)
  · obtain ⟨found, taken, _, rfl⟩ := readNode?_eq_some_iff.mp node
    have idPlain := within ((Reference.id_infix_of_read? taken).trans trimmed)
    have restInside := (Reference.rest_suffix_of_read? taken).isInfix.trans trimmed
    have labelPlain := within ((Text.trim_infix found.rest).trans restInside)
    rw [feed_not_mem_node_iff, labelOf, String.toList_ofList, String.toList_ofList]
    refine ⟨idPlain, ?_⟩
    split
    · exact idPlain
    · exact labelPlain

end Statement

end Chartbook.FlowText
