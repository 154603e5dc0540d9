import Chartbook.Chat.Completions
import Chartbook.Proofs.Agent.Editing

/-!
What the chat-completions format makes of a conversation. A reply holds words and tool calls and
nothing else, and calls tools exactly when it stops to do so; a message becomes either one message or
one for every tool result.
-/

namespace Chartbook.Chat

open Agent

/-- A reply as it comes out of the format. -/
structure WellRead (reply : ChatReply) : Prop where
  blocks : ∀ block ∈ reply.content, block.text?.isSome ∨ isToolUse block
  stop : reply.content.any isToolUse → reply.stopReason = "tool_use"

theorem exists_of_bind {Failure First Second : Type} {first : Except Failure First}
    {next : First → Except Failure Second} {result : Second} (done : first >>= next = .ok result) :
    ∃ value, first = .ok value ∧ next value = .ok result := by
  cases first with
  | error failure => cases done
  | ok value => exact ⟨value, rfl, done⟩

theorem isToolUse_of_readToolCall {call : Json} {block : ContentBlock}
    (read : readToolCall call = .ok (some block)) : isToolUse block := by
  unfold readToolCall at read
  dsimp only at read
  split at read
  · cases read
  · split at read
    · cases read
    · cases read
      rfl

theorem isToolUse_of_readToolCalls {calls : List Json} {blocks : List ContentBlock}
    (read : readToolCalls calls = .ok blocks) : ∀ block ∈ blocks, isToolUse block := by
  induction calls generalizing blocks with
  | nil =>
      cases read
      simp
  | cons call rest ih =>
      obtain ⟨first, here, read⟩ := exists_of_bind read
      obtain ⟨later, there, read⟩ := exists_of_bind read
      cases read
      intro block member
      rw [List.mem_append, Option.mem_toList] at member
      obtain known | behind := member
      · exact isToolUse_of_readToolCall (by rw [here, known])
      · exact ih there block behind

theorem wellRead_of_readReply {body : String} {reply : ChatReply}
    (read : readReply body = .ok reply) : WellRead reply := by
  unfold readReply at read
  split at read
  · cases read
  · split at read
    · obtain ⟨uses, called, read⟩ := exists_of_bind read
      cases read
      constructor
      · intro block member
        rw [List.mem_append, List.mem_map] at member
        obtain ⟨words, _, rfl⟩ | called' := member
        · exact .inl rfl
        · exact .inr (isToolUse_of_readToolCalls called block called')
      · intro asks
        exact if_pos asks
    · cases read

def wordsOf (blocks : List ContentBlock) : Option String :=
  if textOf blocks = "" then none else some (textOf blocks)

theorem toolCallsOf_eq (reply : ChatReply) :
    toolCallsOf reply.content = (toolUses reply).map fun use =>
      { id := use.id, name := use.name, arguments := use.input.compact } := by
  rw [toolCallsOf, toolUses, List.map_filterMap]
  congr 1
  funext block
  cases block <;> rfl

theorem WellRead.stopReason_eq {reply : ChatReply} (read : WellRead reply)
    (asks : toolUses reply ≠ []) : reply.stopReason = "tool_use" := by
  refine read.stop ?_
  obtain ⟨use, among⟩ := List.exists_mem_of_ne_nil _ asks
  obtain ⟨block, member, found⟩ := List.mem_filterMap.mp among
  refine List.any_eq_true.mpr ⟨block, member, ?_⟩
  cases block with
  | toolUse id name input => rfl
  | _ => cases found

theorem messagesOf_reply {reply : ChatReply} (read : WellRead reply) (asks : toolUses reply ≠ [])
    (role : String) :
    messagesOf { role, content := .blocks reply.content } =
      [{ role, content := wordsOf reply.content, toolCalls := toolCallsOf reply.content
         toolCallId := none }] := by
  have calls : toolCallsOf reply.content ≠ [] := by
    rw [toolCallsOf_eq]
    simpa using asks
  have results : toolResultsOf reply.content = [] := by
    rw [toolResultsOf, List.filterMap_eq_nil_iff]
    intro block member
    cases block with
    | toolResult toolUseId content isError =>
        have other := read.blocks _ member
        simp [ContentBlock.text?, isToolUse] at other
    | _ => rfl
  simp [messagesOf, messagesOfBlocks, results, calls, wordsOf]

theorem messagesOf_results {blocks : List ContentBlock}
    (results : ∀ block ∈ blocks, block.text? = none ∧ isToolUse block = false) (role : String) :
    messagesOf { role, content := .blocks blocks } = toolResultsOf blocks := by
  have silent : textOf blocks = "" := by
    rw [textOf, List.filterMap_eq_nil_iff.mpr fun block member => (results block member).1]
    rfl
  have idle : toolCallsOf blocks = [] := by
    rw [toolCallsOf, List.filterMap_eq_nil_iff]
    intro block member
    have other := (results block member).2
    cases block with
    | toolUse id name input => cases other
    | _ => rfl
  simp [messagesOf, messagesOfBlocks, silent, idle]

end Chartbook.Chat
