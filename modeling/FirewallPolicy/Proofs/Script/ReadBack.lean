import FirewallPolicy.Proofs.Firewall.RuleText
import FirewallPolicy.Proofs.Script.PackagedTemplate

/-!
# Scripts and listings are read back

Both texts hold a line for each command of a transcript, in order, and nothing else that reads like
one.

* `textLines`, `commandLines`: the lines of a text, and those of them that call a program.
* `Command.ofLine?_line`: a line tells the kind and the arguments of its command.
* `script_and_listing_carry_transcript`: a script and a listing have the same lines between what
  frames them, and the transcript is read back from each of them.
-/

namespace FirewallPolicy

open FirewallPolicy.Text (fieldsOf joinLines cutAt?)

/-! ## Lines -/

/-- The lines of a text without their ends.  Behind the end of the last line comes an empty one. -/
def textLines (text : String) : List String := (fieldsOf '\n' text.toList).map String.ofList

/-- A text of lines has these lines. -/
lemma textLines_joinLines {lines : List String} (h : ∀ line ∈ lines, '\n' ∉ line.toList) :
    textLines (joinLines lines) = lines ++ [""] := by
  unfold textLines
  rw [Text.fieldsOf_joinLines h, List.map_append, List.map_map]
  have hback : lines.map (String.ofList ∘ String.toList) = lines := by
    simp [Function.comp_def]
  rw [hback]
  rfl

/-- A line that a shell does nothing for: it is empty or a comment. -/
def isRemark (line : String) : Bool := line.toList.head?.all (· == '#')

/-- The line from which on a script stops where a command fails. -/
def stopLine : String := "set -e"

/-- The lines of a script that call a program. -/
def commandLines (text : String) : List String :=
  (textLines text).filter fun line => !isRemark line && line != stopLine

/-! ## Commands -/

/-- The kind of command that a program is for. -/
def ToolPaths.kindOf? (tools : ToolPaths) (program : String) : Option CommandKind :=
  if program = tools.iptables then some .iptables4
  else if program = tools.ipset then some .ipset
  else none

/-- The command that a line calls. -/
def Command.ofLine? (line : String) : Option Command :=
  (cutAt? ' ' line.toList).bind fun (program, arguments) =>
    (ToolPaths.kindOf? {} (String.ofList program)).map fun kind => ⟨kind, String.ofList arguments⟩

/-- The characters of the line of a command. -/
lemma Command.toList_line (c : Command) :
    c.line.toList = (ToolPaths.tool {} c.kind).toList ++ ' ' :: c.arguments.toList := by
  unfold Command.line
  rw [String.toList_append, String.toList_append, List.append_assoc]
  rfl

/-- A command is read back from its line. -/
theorem Command.ofLine?_line (c : Command) : Command.ofLine? c.line = some c := by
  have hblank : ' ' ∉ (ToolPaths.tool {} c.kind).toList := by
    cases c.kind <;> decide
  have hkind : ToolPaths.kindOf? {} (ToolPaths.tool {} c.kind) = some c.kind := by
    cases c.kind <;> decide
  unfold Command.ofLine?
  rw [c.toList_line, Text.cutAt?_append hblank]
  simp only [Option.bind_some, String.ofList_toList, hkind, Option.map_some]

/-- A line begins with the name of a program. -/
lemma Command.head?_line (c : Command) : c.line.toList.head? = some 'i' := by
  rw [c.toList_line]
  cases c.kind <;> rfl

/-- The line of a command calls a program, whatever its arguments are. -/
lemma Command.isCommandLine (c : Command) : (!isRemark c.line && c.line != stopLine) = true := by
  have hstop : c.line ≠ stopLine := by
    intro h
    have hhead := c.head?_line
    rw [h] at hhead
    exact absurd hhead (by decide)
  simp [isRemark, c.head?_line, hstop]

/-- A line holds no line feed that its arguments do not hold. -/
lemma Command.notMem_line {c : Command} (h : '\n' ∉ c.arguments.toList) : '\n' ∉ c.line.toList := by
  have htool : '\n' ∉ (ToolPaths.tool {} c.kind).toList := by
    cases c.kind <;> decide
  rw [c.toList_line, List.mem_append, List.mem_cons, not_or, not_or]
  exact ⟨htool, by decide, h⟩

/-- No line of a transcript holds a line feed. -/
lemma notMem_of_mem_lines {transcript : Transcript}
    (h : ∀ c ∈ transcript, '\n' ∉ c.arguments.toList) :
    ∀ line ∈ transcript.map (·.line), '\n' ∉ line.toList := by
  intro line hline
  obtain ⟨c, hc, rfl⟩ := List.mem_map.mp hline
  exact Command.notMem_line (h c hc)

/-- A transcript is read back from its lines. -/
lemma mapM_ofLine?_line (transcript : Transcript) :
    (transcript.map (·.line)).mapM Command.ofLine? = some transcript := by
  induction transcript with
  | nil => rfl
  | cons c transcript ih =>
    rw [List.map_cons, List.mapM_cons, Command.ofLine?_line, ih]
    rfl

/-! ## Listings -/

/-- The lines of a listing between its separators: two stand before them, and two and the end of the
text behind them. -/
def listedLines (text : String) : List String :=
  ((textLines text).drop 2).dropLast.dropLast.dropLast

/-- The transcript of a listing. -/
def readListing (text : String) : Option Transcript := (listedLines text).mapM Command.ofLine?

/-- A listing has the lines of its transcript between two separators on either side. -/
lemma textLines_listing {transcript : Transcript}
    (h : ∀ c ∈ transcript, '\n' ∉ c.arguments.toList) :
    textLines (listing transcript) =
      [separator, separator] ++ transcript.map (·.line) ++ [separator, separator, ""] := by
  have hseparator : '\n' ∉ separator.toList := by decide
  have hlines : ∀ line ∈ [separator, separator] ++ transcript.map (·.line) ++
      [separator, separator], '\n' ∉ line.toList := by
    simp only [List.forall_mem_append, List.forall_mem_cons]
    refine ⟨⟨⟨hseparator, hseparator, ?_⟩, notMem_of_mem_lines h⟩, hseparator, hseparator, ?_⟩
    all_goals simp
  unfold listing
  rw [← Text.joinLines_eq_intercalate (by simp), textLines_joinLines hlines]
  simp only [List.append_assoc, List.cons_append, List.nil_append]

/-- A transcript is read back from its listing. -/
lemma readListing_listing {transcript : Transcript}
    (h : ∀ c ∈ transcript, '\n' ∉ c.arguments.toList) :
    readListing (listing transcript) = some transcript := by
  have hlines : listedLines (listing transcript) = transcript.map (·.line) := by
    unfold listedLines
    rw [textLines_listing h]
    simp
  unfold readListing
  rw [hlines, mapM_ofLine?_line]

/-! ## Scripts -/

/-- Circumstances that fit into a line: neither the name of a user nor a time has a line feed. -/
structure Circumstances.InLine (made : Circumstances) : Prop where
  timestamp : '\n' ∉ made.timestamp.toList
  user : '\n' ∉ made.user.toList

/-- The transcript of a script. -/
def readScript (text : String) : Option Transcript := (commandLines text).mapM Command.ofLine?

/-- The head of a script is made of lines. -/
lemma notMem_scriptHead {job : String} {made : Circumstances} (d : Direction)
    (hjob : '\n' ∉ job.toList) (hmade : made.InLine) :
    ∀ line ∈ scriptHead job d made, '\n' ∉ line.toList := by
  have hdirection : '\n' ∉ d.name.toList := by
    cases d <;> decide
  have hversion : '\n' ∉ version.toList := by decide
  unfold scriptHead
  simp only [List.forall_mem_cons, String.toList_append, List.mem_append, not_or]
  refine ⟨?_, ?_, ⟨?_, hversion⟩, ⟨⟨⟨⟨?_, hjob⟩, ?_⟩, hdirection⟩, ?_⟩,
    ⟨⟨⟨?_, hmade.timestamp⟩, ?_⟩, hmade.user⟩, ?_⟩
  all_goals simp

/-- A script calls no program before the line from which on it stops. -/
lemma scriptHead_eq (job : String) (d : Direction) (made : Circumstances) :
    ∃ remarks : List String, scriptHead job d made = remarks ++ [stopLine, ""] ∧
      ∀ line ∈ remarks, isRemark line := by
  refine ⟨(scriptHead job d made).take 9, rfl, ?_⟩
  simp [scriptHead, isRemark]

/-- The lines of a script: remarks, the line from which on it stops, and the lines of its
transcript. -/
lemma textLines_script {transcript : Transcript} {job : String} {made : Circumstances}
    (d : Direction) (h : ∀ c ∈ transcript, '\n' ∉ c.arguments.toList) (hjob : '\n' ∉ job.toList)
    (hmade : made.InLine) :
    ∃ remarks : List String, (∀ line ∈ remarks, isRemark line) ∧
      textLines (joinLines (scriptHead job d made ++ transcript.map (·.line))) =
        remarks ++ stopLine :: "" :: transcript.map (·.line) ++ [""] := by
  obtain ⟨remarks, hhead, hremarks⟩ := scriptHead_eq job d made
  have hlines : ∀ line ∈ scriptHead job d made ++ transcript.map (·.line), '\n' ∉ line.toList :=
    List.forall_mem_append.mpr ⟨notMem_scriptHead d hjob hmade, notMem_of_mem_lines h⟩
  refine ⟨remarks, hremarks, ?_⟩
  rw [textLines_joinLines hlines, hhead]
  simp only [List.append_assoc, List.cons_append, List.nil_append]

/-- All lines of a transcript call programs. -/
lemma filter_lines (transcript : Transcript) :
    (transcript.map (·.line)).filter (fun line => !isRemark line && line != stopLine) =
      transcript.map (·.line) := by
  rw [List.filter_eq_self]
  intro line hline
  obtain ⟨c, -, rfl⟩ := List.mem_map.mp hline
  exact c.isCommandLine

/-- Remarks call no program. -/
lemma filter_remarks {remarks : List String} (h : ∀ line ∈ remarks, isRemark line) :
    remarks.filter (fun line => !isRemark line && line != stopLine) = [] := by
  rw [List.filter_eq_nil_iff]
  intro line hline
  simp [h line hline]

/-- A script and a listing carry exactly the transcript.  The script is rendered; behind its remarks
stand the line from which on it stops and then the lines of the commands, so that these are what is
left of it without the remarks and that line; the listing has the same lines between its separators;
and the transcript is read back from either text.

Who makes the script, and when, is no part of the transcript: both are written into a remark, and it
is assumed of them that they fit into a line. -/
theorem script_and_listing_carry_transcript {transcript : Transcript} {job : String}
    {made : Circumstances} (d : Direction) (h : ∀ c ∈ transcript, '\n' ∉ c.arguments.toList)
    (hjob : '\n' ∉ job.toList) (hmade : made.InLine) :
    ∃ script, renderScript transcript job d {} made none = .ok script ∧
      (∃ remarks : List String, (∀ line ∈ remarks, isRemark line) ∧
        textLines script = remarks ++ stopLine :: "" :: transcript.map (·.line) ++ [""]) ∧
      commandLines script = transcript.map (·.line) ∧
      textLines (listing transcript) =
        [separator, separator] ++ commandLines script ++ [separator, separator, ""] ∧
      readScript script = some transcript ∧ readListing (listing transcript) = some transcript := by
  obtain ⟨remarks, hremarks, hlines⟩ := textLines_script d h hjob hmade
  have hcommands : commandLines (joinLines (scriptHead job d made ++ transcript.map (·.line))) =
      transcript.map (·.line) := by
    unfold commandLines
    rw [hlines, List.filter_append, List.filter_append, filter_remarks hremarks,
      List.filter_cons_of_neg (by decide), List.filter_cons_of_neg (by decide), filter_lines]
    exact List.append_nil _
  refine ⟨_, renderScript_packaged transcript job d {} made, ⟨remarks, hremarks, hlines⟩,
    hcommands, ?_, ?_, readListing_listing h⟩
  · rw [hcommands, textLines_listing h]
  · unfold readScript
    rw [hcommands, mapM_ofLine?_line]

/-- Arguments that look like a remark, a separator, an insertion of the template or the line from
which on a script stops, arguments that are empty, and a job of such a name. -/
theorem lookalikes_carried :
    let transcript : Transcript :=
      [⟨.ipset, "# set -e"⟩, ⟨.iptables4, ""⟩, ⟨.ipset, separator⟩,
        ⟨.iptables4, " {{ line }}{% endfor %} "⟩]
    ∃ script, renderScript transcript "set -e" .install {} ⟨"2024", "root"⟩ none = .ok script ∧
      (∃ remarks : List String, (∀ line ∈ remarks, isRemark line) ∧
        textLines script = remarks ++ stopLine :: "" :: transcript.map (·.line) ++ [""]) ∧
      commandLines script = transcript.map (·.line) ∧
      textLines (listing transcript) =
        [separator, separator] ++ commandLines script ++ [separator, separator, ""] ∧
      readScript script = some transcript ∧ readListing (listing transcript) = some transcript :=
  script_and_listing_carry_transcript .install (by decide) (by decide) ⟨by decide, by decide⟩

end FirewallPolicy
