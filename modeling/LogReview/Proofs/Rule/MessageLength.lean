import LogReview.Proofs.Text.Encoding
import LogReview.Proofs.Tree.Enclosure
import LogReview.Rule.Message

/-! How long a message is. A literal spans bytes, and its message is what its characters are between the quotes; so the
length of a message is that of the text that was written, whatever the widths of its characters and of those around it. -/
namespace LogReview

namespace Place
variable {src : Source} {p : Place} {message literal : String}

/-- A message is written between quotes, or in a block between three quotes at each end. A quote that comes first in the
message would make the one look like the other. -/
inductive Quotes (message : String) : String → Prop
  | line (h : message.toList.head? ≠ some '"') : Quotes message ("\"" ++ message ++ "\"")
  | block : Quotes message ("\"\"\"" ++ message ++ "\"\"\"")

theorem unquote_line {cs : List Char} (h : cs.head? ≠ some '"') : unquote ('"' :: (cs ++ ['"'])) = cs := by
  cases cs with
  | nil => rfl
  | cons c cs =>
    rw [unquote]
    · simp
    · -- Three quotes in front would put one at the head of the message.
      intro rest same
      simp only [List.cons_append, List.cons.injEq] at same
      simp [same.2.1] at h

theorem unquote_block (cs : List Char) : unquote ('"' :: '"' :: '"' :: (cs ++ ['"', '"', '"'])) = cs := by
  simp [unquote]

theorem Quotes.unquote_eq (h : Quotes message literal) : unquote literal.toList = message.toList := by
  cases h with
  | line h => simpa using unquote_line h
  | block => simpa using unquote_block message.toList

/-- The place is a string literal of the message, and spans its bytes in the source. -/
structure Spells (src : Source) (p : Place) (message : String) : Prop where
  sort : p.isStringLiteral
  written : ∃ before literal after : String, src = (before ++ literal ++ after).toUTF8 ∧ Quotes message literal ∧
    p.node.start = before.utf8ByteSize ∧ p.node.stop = (before ++ literal).utf8ByteSize

theorem Spells.stringValue_eq (h : p.Spells src message) : p.stringValue src = message := by
  obtain ⟨before, literal, after, rfl, quotes, start, stop⟩ := h.written
  rw [stringValue, text, start, stop, Source.text_toUTF8, quotes.unquote_eq, String.ofList_toList]

end Place

namespace Rule
variable {d : Document} {call first : Place} {rest front back : List Place} {message : String}

/-- What the rule says of some calls. -/
def verboseIssues (limit : Int) (d : Document) (calls : List Place) : List Issue :=
  (calls.filterMap (verboseOf limit d.source)).map (issue "verbose-message" d)

/-- The issue about a call that tells the length of its message. -/
def lengthIssue (d : Document) (call : Place) (length : Nat) : Issue :=
  ⟨d.file.text, call.line d.source, s!"Overly verbose log message ({length} chars)", "verbose-message"⟩

theorem verboseIssues_append (limit : Int) (d : Document) (cs es : List Place) :
    verboseIssues limit d (cs ++ es) = verboseIssues limit d cs ++ verboseIssues limit d es := by
  simp [verboseIssues]

theorem verboseIssues_single (limit : Int) (arguments : call.arguments = first :: rest)
    (spells : first.Spells d.source message) :
    verboseIssues limit d [call] = if limit < message.length then [lengthIssue d call message.length] else [] := by
  by_cases above : limit < message.length
  · simp only [verboseIssues, List.filterMap_cons, verboseOf, arguments, spells.stringValue_eq, spells.sort, above]
    rfl
  · simp [verboseIssues, verboseOf, arguments, spells.stringValue_eq, above]

/-- A call whose first argument is a literal of a message is reported if the message has more characters than the limit,
once and with their number, and not at all otherwise. -/
theorem verboseMessage_counts (limit : Int) (calls : d.logCalls = front ++ call :: back)
    (arguments : call.arguments = first :: rest) (spells : first.Spells d.source message) :
    first.stringValue d.source = message ∧
      (verboseMessage limit).check d = .ok (verboseIssues limit d front ++
        (if limit < message.length then [lengthIssue d call message.length] else []) ++ verboseIssues limit d back) := by
  have all : (verboseMessage limit).check d = .ok (verboseIssues limit d d.logCalls) := rfl
  refine ⟨spells.stringValue_eq, ?_⟩
  rw [all, calls, List.append_cons, verboseIssues_append, verboseIssues_append,
    verboseIssues_single limit arguments spells]

/-- The tree of a block that holds characters of two, three and four bytes. -/
def wideBlock : Node := .mk { type := "text_block", start := 8, stop := 23 } []

/-- The tree of arguments with that block. -/
def wideArguments : Node :=
  .mk { type := "argument_list", start := 7, stop := 24, field := some "arguments" } [
    .mk { type := "(", start := 7, stop := 8, named := false } [],
    wideBlock,
    .mk { type := ")", start := 23, stop := 24, named := false } []]

def wideMessage : Document :=
  ⟨⟨.relative, ["A.java"]⟩, "é.info(\"\"\"ü€😀\"\"\")//ß".toUTF8,
    .mk { type := "method_invocation", start := 0, stop := 24 } [
      .mk { type := "identifier", start := 0, stop := 2, field := some "object" } [],
      .mk { type := ".", start := 2, stop := 3, named := false } [],
      .mk { type := "identifier", start := 3, stop := 7, field := some "name" } [],
      wideArguments]⟩

/-- The message has three characters: it is reported with the limit two and not with the limit three. -/
theorem verboseMessage_wideMessage :
    ∃ first, wideMessage.logCalls = [] ++ wideMessage.top :: [] ∧ wideMessage.top.arguments = [first] ∧
      first.Spells wideMessage.source "ü€😀" ∧ first.stringValue wideMessage.source = "ü€😀" ∧
      (verboseMessage 2).check wideMessage =
        .ok [⟨"A.java", 1, "Overly verbose log message (3 chars)", "verbose-message"⟩] ∧
      (verboseMessage 3).check wideMessage = .ok [] := by
  have calls : wideMessage.logCalls = [] ++ wideMessage.top :: [] := by decide +kernel
  have arguments : wideMessage.top.arguments = [(wideMessage.top.down wideArguments 3).down wideBlock 1] := rfl
  have spells : ((wideMessage.top.down wideArguments 3).down wideBlock 1).Spells wideMessage.source "ü€😀" :=
    ⟨rfl, "é.info(", "\"\"\"ü€😀\"\"\"", ")//ß", rfl, .block, by decide +kernel, by decide +kernel⟩
  obtain ⟨value, reported⟩ := verboseMessage_counts 2 calls arguments spells
  exact ⟨_, calls, arguments, spells, value, reported, (verboseMessage_counts 3 calls arguments spells).2⟩

end Rule
end LogReview
