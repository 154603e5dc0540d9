import Chartbook.FlowText.Reader
import Chartbook.Proofs.Text.Lines

/-!
How a document falls into parts. Reading sees its lines only up to trimming, and a closing fence
makes the lines after it independent of those before it.
-/

namespace Chartbook.FlowText

def statementsIn (document : List (List Char)) : List Statement :=
  (chartLines document).filterMap Statement.read?

@[simp]
theorem opens_trim (line : List Char) : opens (Text.trim line) = opens line := by
  simp [opens]

@[simp]
theorem closes_trim (line : List Char) : closes (Text.trim line) = closes line := by
  simp [closes]

@[simp]
theorem Statement.read?_trim (line : List Char) :
    Statement.read? (Text.trim line) = Statement.read? line := by
  simp [Statement.read?]

def Part.map (change : List Char → List Char) : Part → Part
  | prose line => prose (change line)
  | region opening body closing => region (change opening) (body.map change) (change closing)
  | unfinished opening body => unfinished (change opening) (body.map change)

theorem partsFrom_map {change : List Char → List Char}
    (opens_change : ∀ line, opens (change line) = opens line)
    (closes_change : ∀ line, closes (change line) = closes line)
    (opened : Option (List Char × List (List Char))) (document : List (List Char)) :
    partsFrom (opened.map fun region => (change region.1, region.2.map change))
        (document.map change) =
      (partsFrom opened document).map (Part.map change) := by
  fun_induction partsFrom opened document with
  | case1 => rfl
  | case2 opening body => rfl
  | case3 line rest opening ih => simpa [partsFrom, opens_change, opening] using ih
  | case4 line rest ordinary ih => simpa [partsFrom, opens_change, ordinary, Part.map] using ih
  | case5 opening body line rest closing ih =>
      simpa [partsFrom, closes_change, closing, Part.map] using ih
  | case6 opening body line rest inside ih => simpa [partsFrom, closes_change, inside] using ih

theorem chartLines_map_trim (document : List (List Char)) :
    chartLines (document.map Text.trim) = (chartLines document).map Text.trim := by
  have whole : parts (document.map Text.trim) = (parts document).map (Part.map Text.trim) :=
    partsFrom_map opens_trim closes_trim none document
  have kinds : Part.isProse ∘ Part.map Text.trim = Part.isProse := by
    funext part
    cases part <;> rfl
  have bodies : ∀ part : Part, (part.map Text.trim).body = part.body.map Text.trim := by
    intro part
    cases part <;> rfl
  rw [chartLines, chartLines, whole, List.all_map, kinds]
  split
  · rfl
  · simp [List.flatMap_map, List.map_flatMap, bodies]

theorem statementsIn_map_trim (document : List (List Char)) :
    statementsIn (document.map Text.trim) = statementsIn document := by
  have same : Statement.read? ∘ Text.trim = Statement.read? := by
    funext line
    simp
  rw [statementsIn, chartLines_map_trim, List.filterMap_map, same, statementsIn]

theorem statementsIn_congr {document other : List (List Char)}
    (same : document.map Text.trim = other.map Text.trim) :
    statementsIn document = statementsIn other := by
  rw [← statementsIn_map_trim document, same, statementsIn_map_trim]

/-- The parts that a document can have: inside a region no line is a fence, outside none opens a
region, and only the last part can be unfinished. -/
inductive WellFenced : List Part → Prop
  | nil : WellFenced []
  | prose {line rest} : opens line = false → WellFenced rest → WellFenced (.prose line :: rest)
  | region {opening body closing rest} : opens opening = true →
      (∀ line ∈ body, closes line = false) → closes closing = true → WellFenced rest →
      WellFenced (.region opening body closing :: rest)
  | unfinished {opening body} : opens opening = true → (∀ line ∈ body, closes line = false) →
      WellFenced [.unfinished opening body]

theorem wellFenced_partsFrom (opened : Option (List Char × List (List Char)))
    (document : List (List Char))
    (sound : ∀ region ∈ opened, opens region.1 = true ∧ ∀ line ∈ region.2, closes line = false) :
    WellFenced (partsFrom opened document) := by
  fun_induction partsFrom opened document with
  | case1 => exact .nil
  | case2 opening body =>
      obtain ⟨begun, inside⟩ := sound _ rfl
      exact .unfinished begun inside
  | case3 line rest opening ih =>
      apply ih
      rintro region ⟨⟩
      exact ⟨opening, by simp⟩
  | case4 line rest ordinary ih => exact .prose (by simpa using ordinary) (ih (by simp))
  | case5 opening body line rest closing ih =>
      obtain ⟨begun, inside⟩ := sound _ rfl
      exact .region begun inside closing (ih (by simp))
  | case6 opening body line rest ordinary ih =>
      obtain ⟨begun, inside⟩ := sound _ rfl
      apply ih
      rintro region ⟨⟩
      refine ⟨begun, ?_⟩
      intro other member
      rcases List.mem_append.mp member with earlier | last
      · exact inside other earlier
      · rw [List.mem_singleton.mp last]
        simpa using ordinary

theorem wellFenced_parts (document : List (List Char)) : WellFenced (parts document) :=
  wellFenced_partsFrom none document (by simp)

theorem partsFrom_body_append (opening : List Char) (before body rest : List (List Char))
    (inside : ∀ line ∈ body, closes line = false) :
    partsFrom (some (opening, before)) (body ++ rest) =
      partsFrom (some (opening, before ++ body)) rest := by
  induction body generalizing before with
  | nil => simp
  | cons line body ih =>
      have ordinary : closes line = false := inside line (by simp)
      rw [List.cons_append, partsFrom, if_neg (by simp [ordinary]),
        ih _ fun other member => inside other (by simp [member]), List.append_assoc]
      rfl

theorem parts_flatMap_lines {found : List Part} (fenced : WellFenced found) :
    parts (found.flatMap Part.lines) = found := by
  induction fenced with
  | nil => rfl
  | prose ordinary _ ih =>
      rw [List.flatMap_cons, Part.lines, List.singleton_append, parts, partsFrom,
        if_neg (by simp [ordinary]), ← parts, ih]
  | region begun inside closing _ ih =>
      rw [List.flatMap_cons, Part.lines, List.append_assoc, List.cons_append, parts, partsFrom,
        if_pos begun, partsFrom_body_append _ _ _ _ inside, List.singleton_append, partsFrom,
        if_pos closing, ← parts, ih]
      rfl
  | @unfinished opening body begun inside =>
      have scanned := partsFrom_body_append opening [] body [] inside
      rw [List.append_nil] at scanned
      rw [List.flatMap_singleton, Part.lines, parts, partsFrom, if_pos begun, scanned]
      rfl

theorem WellFenced.withoutRegions {found : List Part} (fenced : WellFenced found) :
    WellFenced (found.filter fun part => !part.isRegion) := by
  induction fenced with
  | nil => exact .nil
  | prose ordinary _ ih => simpa [Part.isRegion] using WellFenced.prose ordinary ih
  | region _ _ _ _ ih => simpa [Part.isRegion] using ih
  | unfinished begun inside => simpa [Part.isRegion] using WellFenced.unfinished begun inside

theorem flatMap_body_of_no_region {found : List Part} (none : found.any Part.isRegion = false) :
    found.flatMap Part.body = [] := by
  rw [List.flatMap_eq_nil_iff]
  intro part member
  have other : part.isRegion = false := by simpa using List.any_eq_false.mp none part member
  cases part with
  | region => cases other
  | prose => rfl
  | unfinished => rfl

theorem flatMap_lines_partsFrom (opened : Option (List Char × List (List Char)))
    (document : List (List Char)) :
    (partsFrom opened document).flatMap Part.lines =
      (opened.toList.flatMap fun region => region.1 :: region.2) ++ document := by
  fun_induction partsFrom opened document with
  | case1 => rfl
  | case2 opening body => simp [Part.lines]
  | case3 line rest opening ih => simpa using ih
  | case4 line rest ordinary ih => simpa [Part.lines] using ih
  | case5 opening body line rest closing ih => simpa [Part.lines] using ih
  | case6 opening body line rest inside ih => simpa using ih

theorem flatMap_lines_parts (document : List (List Char)) :
    (parts document).flatMap Part.lines = document := by
  rw [parts, flatMap_lines_partsFrom none document]
  rfl

theorem parts_prose_append {before : List (List Char)} (rest : List (List Char))
    (quiet : ∀ line ∈ before, opens line = false) :
    parts (before ++ rest) = before.map Part.prose ++ parts rest := by
  induction before with
  | nil => rfl
  | cons line before ih =>
      have ordinary : opens line = false := quiet line (by simp)
      rw [List.cons_append, parts, partsFrom, if_neg (by simp [ordinary]), ← parts,
        ih fun other member => quiet other (by simp [member])]
      rfl

theorem partsFrom_append_fence {fenceLine : List Char} (closing : closes fenceLine = true)
    (quiet : opens fenceLine = false) (opened : Option (List Char × List (List Char)))
    (before rest : List (List Char)) :
    partsFrom opened (before ++ fenceLine :: rest) =
      partsFrom opened (before ++ [fenceLine]) ++ parts rest := by
  fun_induction partsFrom opened before with
  | case1 => simp [partsFrom, quiet, parts]
  | case2 opening body => simp [partsFrom, closing, parts]
  | case3 line tail opening ih => simpa [partsFrom, opening] using ih
  | case4 line tail ordinary ih => simpa [partsFrom, ordinary] using ih
  | case5 opening body line tail ends ih => simpa [partsFrom, ends] using ih
  | case6 opening body line tail inside ih => simpa [partsFrom, inside] using ih

theorem WellFenced.opens_of_all_isProse {found : List Part} (fenced : WellFenced found)
    (prose : found.all Part.isProse = true) : ∀ line ∈ found.flatMap Part.lines, opens line = false := by
  induction fenced with
  | nil => simp
  | prose ordinary _ ih =>
      simp only [List.all_cons, Bool.and_eq_true] at prose
      intro line member
      rw [List.flatMap_cons, Part.lines, List.singleton_append, List.mem_cons] at member
      rcases member with same | later
      · rw [same]
        exact ordinary
      · exact ih prose.2 line later
  | region => simp [Part.isProse] at prose
  | unfinished => simp [Part.isProse] at prose

theorem all_isProse_parts_iff (document : List (List Char)) :
    (parts document).all Part.isProse = true ↔ ∀ line ∈ document, opens line = false := by
  constructor
  · intro prose
    have quiet := (wellFenced_parts document).opens_of_all_isProse prose
    rwa [flatMap_lines_parts] at quiet
  · intro quiet
    have scanned := parts_prose_append [] quiet
    rw [List.append_nil] at scanned
    rw [scanned]
    simp [parts, partsFrom, Part.isProse]

theorem opens_fence : opens fence = false := by decide

theorem closes_fence : closes fence = true := by decide

theorem opens_flowFence : opens flowFence = true := by decide

theorem parts_region_append {body : List (List Char)} (rest : List (List Char))
    (inside : ∀ line ∈ body, closes line = false) :
    parts (flowFence :: body ++ fence :: rest) = .region flowFence body fence :: parts rest := by
  rw [parts, List.cons_append, partsFrom, if_pos opens_flowFence,
    partsFrom_body_append flowFence [] body _ inside, partsFrom, if_pos closes_fence, ← parts]
  rfl

theorem statementsIn_around {before after : List (List Char)} (body : List (List Char))
    (quiet : ∀ line ∈ before, opens line = false)
    (barren : (parts after).flatMap Part.body = []) :
    statementsIn (before ++ (flowFence :: body ++ [fence]) ++ after) =
      statementsIn (flowFence :: body ++ [fence]) := by
  let block := flowFence :: body ++ [fence]
  have opening : flowFence ∈ block := by simp [block]
  have inside : ¬(parts block).all Part.isProse = true := by
    rw [all_isProse_parts_iff]
    intro quiet
    have wrong := quiet flowFence opening
    rw [opens_flowFence] at wrong
    contradiction
  have around : ¬(parts (before ++ block ++ after)).all Part.isProse = true := by
    rw [all_isProse_parts_iff]
    intro quiet
    have wrong := quiet flowFence (by simp [opening])
    rw [opens_flowFence] at wrong
    contradiction
  have scanned : parts (before ++ block ++ after) =
      before.map Part.prose ++ (parts block ++ parts after) := by
    have closed := partsFrom_append_fence closes_fence opens_fence none (flowFence :: body) after
    rw [List.append_assoc, parts_prose_append _ quiet]
    congr 1
    simpa [block, parts] using closed
  have plain : (before.map Part.prose).flatMap Part.body = [] := by
    simp [List.flatMap_map, Part.body]
  rw [statementsIn, statementsIn, chartLines, chartLines, if_neg inside, if_neg around, scanned,
    List.flatMap_append, List.flatMap_append, plain, barren, List.nil_append, List.append_nil]

theorem partsFrom_append_empty (opened : Option (List Char × List (List Char)))
    (document : List (List Char)) :
    partsFrom opened (document ++ [[]]) = partsFrom opened document ++ [.prose []] ∨
      ∃ before opening body, partsFrom opened document = before ++ [.unfinished opening body] ∧
        partsFrom opened (document ++ [[]]) = before ++ [.unfinished opening (body ++ [[]])] := by
  have quiet : opens [] = false := by decide
  have ordinary : closes [] = false := by decide
  fun_induction partsFrom opened document with
  | case1 => simp [partsFrom, quiet]
  | case2 opening body => exact .inr ⟨[], opening, body, rfl, by simp [partsFrom, ordinary]⟩
  | case3 line rest opening ih => simpa [partsFrom, opening] using ih
  | case4 line rest outside ih =>
      rw [List.cons_append, partsFrom, if_neg outside]
      obtain plain | ⟨before, opening, body, shape, longer⟩ := ih
      · exact .inl (by rw [plain, List.cons_append])
      · exact .inr ⟨.prose line :: before, opening, body, by rw [shape]; rfl, by rw [longer]; rfl⟩
  | case5 opening body line rest closing ih =>
      rw [List.cons_append, partsFrom, if_pos closing]
      obtain plain | ⟨before, other, lines, shape, longer⟩ := ih
      · exact .inl (by rw [plain, List.cons_append])
      · exact .inr ⟨.region opening body line :: before, other, lines, by rw [shape]; rfl,
          by rw [longer]; rfl⟩
  | case6 opening body line rest inside ih => simpa [partsFrom, inside] using ih

theorem flatMap_body_append_empty (document : List (List Char)) :
    (parts (document ++ [[]])).flatMap Part.body = (parts document).flatMap Part.body := by
  obtain plain | ⟨before, opening, body, shape, longer⟩ := partsFrom_append_empty none document
  · simp [parts, plain, Part.body]
  · simp [parts, shape, longer, Part.body]

theorem any_isRegion_append_empty (document : List (List Char)) :
    (parts (document ++ [[]])).any Part.isRegion = (parts document).any Part.isRegion := by
  obtain plain | ⟨before, opening, body, shape, longer⟩ := partsFrom_append_empty none document
  · simp [parts, plain, Part.isRegion]
  · simp [parts, shape, longer, Part.isRegion]

theorem statementsIn_append_empty (document : List (List Char)) :
    statementsIn (document ++ [[]]) = statementsIn document := by
  have quiet : opens [] = false := by decide
  have none : Statement.read? [] = none := by decide
  have same : (parts (document ++ [[]])).all Part.isProse = (parts document).all Part.isProse := by
    rw [Bool.eq_iff_iff, all_isProse_parts_iff, all_isProse_parts_iff]
    simp [or_imp, forall_and, quiet]
  rw [statementsIn, statementsIn, chartLines, chartLines, same]
  split
  · simp [none]
  · rw [flatMap_body_append_empty]

theorem statements_eq_pieces (text : List Char) :
    statements text = statementsIn (Text.pieces text) := by
  rcases Text.ended_map_trimEnd (Text.pieces text) with same | more
  · exact statementsIn_congr (Text.map_trim_of_map_trimEnd same)
  · have last : (Text.pieces text).map Text.trimEnd = (Text.lines text ++ [[]]).map Text.trimEnd := by
      rw [← more, List.map_append]
      rfl
    rw [statementsIn_congr (Text.map_trim_of_map_trimEnd last), statementsIn_append_empty]
    rfl

end Chartbook.FlowText
