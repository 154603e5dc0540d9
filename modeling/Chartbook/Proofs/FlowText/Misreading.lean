import Chartbook.Proofs.FlowText.Brackets
import Chartbook.Proofs.FlowText.Rereading
import Chartbook.Proofs.FlowText.Respacing

/-!
An edge line that is read as a node. The line of that node is read as the same node or not at all, so
nothing leads back from it to an edge.
-/

namespace Chartbook.FlowText.Statement

variable {source target : String} {label : Option String} {found : Reference}

theorem readEnd?_of_no_edge (quiet : ¬ arrow <:+: source.toList)
    (noEdge : readEdge? (line (.edge source target label)) = none)
    (read : Reference.read? (mentionOf source) = some found) (ended : Text.trim found.rest = []) :
    readEnd? (' ' :: (mentionOf target ++ labelSuffix label)) = none := by
  cases ending : readEnd? (' ' :: (mentionOf target ++ labelSuffix label)) with
  | none => rfl
  | some parts =>
      have edge := (readEdge?_arrow_iff (arrow_not_infix_write (Reference.shapeFor source.toList) quiet)
        (trim_write _ _)).mpr ⟨found, parts.1, parts.2, read, ended, ending, rfl⟩
      rw [line_edge, mentionOf, edge] at noEdge
      cases noEdge

theorem second_of_write (kind : NodeKind) {id : List Char} (tidy : Text.Tidy id) (more : List Char) :
    ∀ second ∈ (Reference.write kind id ++ more).tail.head?, Text.isBlank second = false := by
  intro second found
  cases id with
  | nil => exact absurd rfl tidy.nonempty
  | cons first later =>
      have visible := tidy.first first rfl
      cases kind <;> cases found <;> first | exact visible | rfl

theorem trim_append_of_visible {rest more : List Char} (visible : Text.trim rest ≠ [])
    (last : ∀ last ∈ more.getLast?, Text.isBlank last = false) (filled : more ≠ []) :
    Text.trim (rest ++ more) = Text.trimStart rest ++ more := by
  obtain ⟨before, blank, parts, first⟩ := Text.trimStart_parts rest
  cases kept : Text.trimStart rest with
  | nil =>
      rw [kept, List.append_nil] at parts
      rw [parts, Text.trim_of_blanks blank] at visible
      exact absurd rfl visible
  | cons character later =>
      rw [kept] at parts first
      rw [parts, List.append_assoc, Text.trim_blanks_append _ blank]
      refine Text.trim_of_ends first ?_
      rw [List.getLast?_append_of_ne_nil _ filled]
      exact last

theorem arrow_not_infix_reread {left : Reference} (quiet : ¬ arrow <:+: source.toList)
    (read : Reference.read? (mentionOf source) = some left) :
    ¬ arrow <:+: Reference.write left.kind left.id := by
  refine arrow_not_infix_write left.kind fun inside => ?_
  exact arrow_not_infix_write (Reference.shapeFor source.toList) quiet
    (inside.trans (Reference.id_infix_of_read? read))

theorem last_of_end (labelled : ∀ written ∈ label, Text.Tidy written.toList) (before : List Char) :
    ∀ last ∈ (before ++ (mentionOf target ++ labelSuffix label)).getLast?,
      Text.isBlank last = false := by
  rw [List.getLast?_append_of_ne_nil _
    (by simp [mentionOf, Reference.write, NodeKind.closing_ne_nil])]
  exact end_last labelled

theorem no_edge_of_nothing_left (normal : (edge source target label).Normal) {left : Reference}
    (noEdge : readEdge? (line (.edge source target label)) = none)
    (read : Reference.read? (mentionOf source) = some left) (nothing : Text.trim left.rest = [])
    (later : Statement) :
    readEdge? (Reference.write left.kind left.id ++ ' ' ::
      Text.trim (left.rest ++ ([' '] ++ arrow ++ [' '] ++ (mentionOf target ++ labelSuffix label)))) ≠
        some later := by
  obtain ⟨_, quiet, _, labelTidy⟩ := normal
  have blank := (Text.trim_eq_nil_iff left.rest).mp nothing
  have written : Text.trim (left.rest ++ ([' '] ++ arrow ++ [' '] ++
      (mentionOf target ++ labelSuffix label))) =
      arrow ++ [' '] ++ (mentionOf target ++ labelSuffix label) := by
    rw [Text.trim_blanks_append _ blank, List.append_assoc [' '], List.append_assoc [' '],
      Text.trim_blanks_append _ onlyBlanks_space]
    exact Text.trim_of_ends (by simp [arrow, Text.isBlank]) (last_of_end labelTidy _)
  intro edge
  rw [written] at edge
  obtain ⟨_, _, _, _, _, reached, _⟩ :=
    (readEdge?_arrow_iff (arrow_not_infix_reread quiet read) (trim_write _ _)).mp edge
  rw [readEnd?_of_no_edge quiet noEdge read nothing] at reached
  cases reached

theorem no_edge_of_left_over (normal : (edge source target label).Normal) {left : Reference}
    (read : Reference.read? (mentionOf source) = some left) (visible : Text.trim left.rest ≠ [])
    (whole : Reference.read? (line (.edge source target label)) =
      some { left with rest := left.rest ++
        ([' '] ++ arrow ++ [' '] ++ (mentionOf target ++ labelSuffix label)) })
    (behind : ∀ first ∈ (left.rest ++ ([' '] ++ arrow ++ [' '] ++
      (mentionOf target ++ labelSuffix label))).head?, Text.isBlank first = true)
    (later : Statement) :
    readEdge? (Reference.write left.kind left.id ++ ' ' ::
      Text.trim (left.rest ++ ([' '] ++ arrow ++ [' '] ++ (mentionOf target ++ labelSuffix label)))) ≠
        some later := by
  obtain ⟨tidy, quiet, _, labelTidy⟩ := normal
  obtain ⟨before, _, parts, first⟩ := Text.trimStart_parts left.rest
  intro edge
  rw [trim_append_of_visible visible (last_of_end labelTidy _) (by simp), ← List.cons_append,
    ← List.append_assoc] at edge
  have filled : Text.trimStart left.rest ≠ [] := by
    intro empty
    rw [Text.trim, empty] at visible
    exact visible rfl
  have within : Text.trimStart left.rest <:+ mentionOf source :=
    List.IsSuffix.trans ⟨before, parts.symm⟩ (Reference.rest_suffix_of_read? read)
  have quietLeft : ¬ arrow <:+:
      Reference.write left.kind left.id ++ ' ' :: Text.trimStart left.rest := by
    refine arrow_not_infix_append (arrow_not_infix_reread quiet read)
      (arrow_not_infix_space fun inside => ?_) (.inr (by simp))
    exact arrow_not_infix_write (Reference.shapeFor source.toList) quiet
      (inside.trans within.isInfix)
  have trimmed : Text.trim (Reference.write left.kind left.id ++ ' ' :: Text.trimStart left.rest) =
      Reference.write left.kind left.id ++ ' ' :: Text.trimStart left.rest := by
    refine Text.trim_of_ends (write_first _ _ _) ?_
    obtain ⟨start, same⟩ := within
    have final := write_last (Reference.shapeFor source.toList) source.toList
    rw [← mentionOf, ← same, List.getLast?_append_of_ne_nil _ filled] at final
    rw [List.append_cons, List.getLast?_append_of_ne_nil _ filled]
    exact final
  obtain ⟨other, _, _, reread, ended, _, _⟩ := (readEdge?_arrow_iff quietLeft trimmed).mp edge
  have ended := (Text.trim_eq_nil_iff other.rest).mp ended
  obtain rfl | ⟨mark, head, shown⟩ | ⟨plain, entry⟩ := Reference.read?_write_append
    (Reference.tidy_of_read? read) (Reference.unclosed_of_read? read) reread
  · cases kept : Text.trimStart left.rest with
    | nil => exact filled kept
    | cons character more =>
        have shown := first character (by rw [kept]; rfl)
        rw [ended character (by rw [kept]; simp)] at shown
        cases shown
  · rw [ended mark (List.mem_of_mem_head? head)] at shown
    cases shown
  · rw [plain] at reread
    refine Reference.stays_plain whole plain behind ?_ ?_ (by simp) reread entry
    · rw [line_edge]
      exact second_of_write _ tidy _
    · intro doubled
      obtain early | inside := List.infix_cons_iff.mp doubled
      · cases (List.cons_prefix_cons.mp early).1
      · exact (inside.trans (List.IsSuffix.isInfix ⟨before, parts.symm⟩)).trans
          (List.prefix_append _ _).isInfix

theorem bracketed_source (tidy : Text.Tidy source.toList) {left : Reference} {more : List Char}
    (read : Reference.read? (mentionOf source) = some left) (plain : left.kind = .plain)
    (taken : Reference.readAs? (mentionOf source ++ more) .entry = some found) :
    ∃ id, source.toList = '[' :: id ∧ mentionOf source = Reference.write .plain ('[' :: id) := by
  have shape : Reference.shapeFor source.toList = .plain := by
    obtain held | shape := Reference.shapeFor_holds source.toList
    · rw [Reference.holds_iff, ← mentionOf, read, Option.some.injEq] at held
      rw [held] at plain
      exact plain
    · exact shape
  rw [mentionOf, shape] at taken ⊢
  obtain ⟨_, parts⟩ := Reference.bracket_of_entry taken
  cases known : source.toList with
  | nil => exact absurd known tidy.nonempty
  | cons character id =>
      rw [known] at parts
      rw [(List.cons.inj parts).1]
      exact ⟨id, rfl, rfl⟩

theorem no_edge_of_entry (normal : (edge source target label).Normal) {left : Reference}
    (noEdge : readEdge? (line (.edge source target label)) = none)
    (read : Reference.read? (mentionOf source) = some left) (plain : left.kind = .plain)
    (whole : Reference.read? (line (.edge source target label)) = some found)
    (entry : found.kind = .entry) {written : List Char} (visible : Text.Tidy written)
    (same : Text.trim found.rest ≠ [] → written = Text.trim found.rest) (later : Statement) :
    readEdge? (Reference.write .entry found.id ++ ' ' :: written) ≠ some later := by
  intro edge
  obtain ⟨tidy, quiet, _, labelTidy⟩ := normal
  have taken := (Reference.read?_eq_some_iff.mp whole).1
  rw [entry, line_edge] at taken
  obtain ⟨id, bracket, mention⟩ := bracketed_source tidy read plain taken
  obtain ⟨first, alone⟩ := Reference.read?_eq_some_iff.mp read
  have alone := alone plain
  rw [plain] at first
  rw [mention] at taken first alone
  have regrouped : Reference.write .plain ('[' :: id) ++
      ([' '] ++ arrow ++ [' '] ++ (mentionOf target ++ labelSuffix label)) =
      '[' :: '[' :: (id ++ ']' :: ([' '] ++ arrow ++ [' '] ++
        (mentionOf target ++ labelSuffix label))) := by
    simp [Reference.write, NodeKind.marks]
  rw [regrouped] at taken
  have start : ∀ first ∈ (mentionOf target ++ labelSuffix label).head?,
      Text.isBlank first = false ∧ first ≠ ']' := by
    intro first head
    rw [mentionOf] at head
    cases known : Reference.shapeFor target.toList <;> rw [known] at head <;> cases head <;> decide
  obtain ⟨unclosed, inside, blanks, blank, reached, named⟩ :=
    Reference.entry_beyond_mention alone taken start
  obtain ⟨before, _, front, _⟩ := Text.trimStart_parts id
  have rewritten : Reference.write .entry found.id ++ ' ' :: written =
      Reference.write .plain ('[' :: Text.trimStart id) ++
        ([' '] ++ arrow ++ [' '] ++ (inside ++ ']' :: ']' :: ' ' :: written)) := by
    rw [named]
    simp [Reference.write, NodeKind.marks]
  have quietTail : ¬ arrow <:+: '[' :: Text.trimStart id := by
    intro inside
    obtain early | inside := List.infix_cons_iff.mp inside
    · cases (List.cons_prefix_cons.mp early).1
    · apply quiet
      rw [bracket, front]
      exact inside.trans (List.suffix_append ('[' :: before) _).isInfix
  rw [rewritten] at edge
  obtain ⟨other, reading, ending, reread, ended, respaced, _⟩ :=
    (readEdge?_arrow_iff (arrow_not_infix_write .plain quietTail) (trim_write _ _)).mp edge
  have leftEnded := Reference.ended_of_trimStart unclosed first reread ended
  obtain ⟨_, known⟩ := end_of_respaced labelTidy reached blank visible same respaced
  rw [readEnd?_of_no_edge quiet noEdge read leftEnded] at known
  cases known

theorem no_edge_of_node (normal : (edge source target label).Normal)
    (noEdge : readEdge? (line (.edge source target label)) = none)
    (read : Reference.read? (line (.edge source target label)) = some found)
    (behind : ∀ first ∈ found.rest.head?, Text.isBlank first = true) (later : Statement) :
    readEdge? (Reference.write found.kind found.id ++ ' ' :: labelOf found) ≠ some later := by
  have whole := read
  rw [line_edge, mentionOf] at read
  obtain ⟨left, alone⟩ := Reference.read?_mention normal.1 read
  obtain exactly | ⟨plain, other, beyond, entry⟩ := Reference.read?_append alone
    ([' '] ++ arrow ++ [' '] ++ (mentionOf target ++ labelSuffix label))
  · rw [read, Option.some.injEq] at exactly
    subst exactly
    have arrowShown : Text.trim (left.rest ++
        ([' '] ++ arrow ++ [' '] ++ (mentionOf target ++ labelSuffix label))) ≠ [] := by
      intro nothing
      cases (Text.trim_eq_nil_iff _).mp nothing '-' (by simp [arrow])
    rw [labelOf, if_neg arrowShown]
    by_cases nothing : Text.trim left.rest = []
    · exact no_edge_of_nothing_left normal noEdge alone nothing later
    · exact no_edge_of_left_over normal alone nothing whole behind later
  · rw [read, Option.some.injEq] at beyond
    subst beyond
    have same : Text.trim found.rest ≠ [] → labelOf found = Text.trim found.rest := by
      intro visible
      rw [labelOf, if_neg visible]
    have apart := no_edge_of_entry normal noEdge alone plain whole entry (tidy_labelOf whole) same later
    rwa [entry]

theorem reread_edge_as_node (normal : (edge source target label).Normal)
    (noEdge : readEdge? (line (.edge source target label)) = none) {next later : Statement}
    (read : readNode? (line (.edge source target label)) = some next)
    (reread : read? next.line = some later) : later = next := by
  obtain ⟨found, taken, behind, rfl⟩ := readNode?_eq_some_iff.mp read
  have nextNormal : Normal (.node
      { id := String.ofList found.id, label := String.ofList (labelOf found), kind := found.kind }) := by
    simp only [Normal, String.toList_ofList]
    exact ⟨Reference.tidy_of_read? taken, Reference.unclosed_of_read? taken, tidy_labelOf taken⟩
  obtain edge | ⟨_, node⟩ := read?_eq_some_iff.mp reread
  · rw [trim_line nextNormal, line_node, String.toList_ofList, String.toList_ofList] at edge
    exact absurd edge (no_edge_of_node normal noEdge taken behind later)
  · rw [trim_line nextNormal] at node
    obtain same | ⟨plain, other, rfl, entry⟩ := reread_node nextNormal node
    · exact same
    · dsimp only at plain
      obtain ⟨again, retaken, _, same⟩ := readNode?_eq_some_iff.mp node
      rw [line_node, String.toList_ofList, String.toList_ofList, plain] at retaken
      cases same
      refine absurd entry (Reference.stays_plain taken plain behind ?_ ?_ (by simp) retaken)
      · rw [line_edge]
        exact second_of_write _ normal.1 _
      · intro doubled
        obtain early | inside := List.infix_cons_iff.mp doubled
        · cases (List.cons_prefix_cons.mp early).1
        · rw [labelOf] at inside
          split at inside
          · have unclosed := Reference.unclosed_of_read? taken
            rw [plain, NodeKind.marks, List.singleton_infix_iff] at unclosed
            exact absurd (inside.subset List.mem_cons_self) unclosed
          · exact inside.trans (Text.trim_infix found.rest)

end Chartbook.FlowText.Statement
