import FirewallPolicy.Proofs.Text.EndedLines
import FirewallPolicy.Script.Script
import Mathlib.Tactic.Common

/-!
# The packaged template

A template is cut at its tags, its tags are read, and then it is filled in.

* `lexFrom_data`, `lexFrom_output`, `lexFrom_block`: how text and tags are cut off, whatever stands
  in them.  A block takes the line end behind it away, and nothing of the line before it.
* `parse_packagedTemplate`: the parts of the packaged template.
* `renderScript_packaged`: a script is a head of lines that tell about it, and a line for each
  command.  What the lines hold is put in as it is; a tag in it is not read again.
-/

namespace FirewallPolicy

open FirewallPolicy.Text (unifyLineEnds)

/-- A text without carriage returns has its line ends as they shall be. -/
lemma Text.unifyLineEnds_of_notMem {cs : List Char} (h : '\r' ∉ cs) : unifyLineEnds cs = cs := by
  induction cs with
  | nil => rfl
  | cons c cs ih =>
    rw [List.mem_cons, not_or] at h
    unfold unifyLineEnds
    split
    · rename_i heq
      cases heq
    · rename_i heq
      cases heq
      exact absurd rfl h.1
    · rename_i heq
      cases heq
      rw [if_neg (Ne.symm h.1), ih h.2]

namespace Template

/-! ## Cutting -/

/-- Only a brace opens a tag. -/
lemma opening?_of_ne {c : Char} (h : c ≠ '{') (cs : List Char) : opening? (c :: cs) = none := by
  unfold opening?
  split
  all_goals first | rfl | (rename_i heq; cases heq; exact absurd rfl h)

/-- Text without braces is gathered up to the next tag. -/
lemma lexFrom_data {text : List Char} (h : '{' ∉ text) (atLineStart : Bool)
    (data cs : List Char) :
    lexFrom atLineStart data (text ++ cs) = lexFrom atLineStart (text.reverse ++ data) cs := by
  induction text generalizing data with
  | nil => rfl
  | cons c text ih =>
    rw [List.mem_cons, not_or] at h
    rw [List.cons_append, lexFrom, opening?_of_ne (Ne.symm h.1)]
    simp only
    rw [ih h.2, List.reverse_cons, List.append_assoc, List.singleton_append]

/-- A tag goes up to its closing bracket if the mark of that bracket does not stand in it. -/
lemma closing?_append {mark : Char} {inner : List Char} (h : mark ∉ inner) (cs : List Char) :
    closing? mark (inner ++ mark :: '}' :: cs) = some (inner, cs) := by
  induction inner with
  | nil => simp [closing?]
  | cons c inner ih =>
    rw [List.mem_cons, not_or] at h
    have hc : ¬ (c = mark) := Ne.symm h.1
    cases inner with
    | nil => simp [closing?, hc]
    | cons d inner => simpa [closing?, hc] using ih h.2

/-- The character inside the opening bracket of a tag. -/
def TagKind.openingMark : TagKind → Char
  | .output => '{'
  | .block => '%'
  | .comment => '#'

/-- A tag as it is written, without signs. -/
def tagText (kind : TagKind) (inner : List Char) : List Char :=
  '{' :: kind.openingMark :: (inner ++ [kind.closingMark, '}'])

/-- What may stand in a tag: no mark of the closing bracket, and no sign at either end. -/
def IsInner (kind : TagKind) (inner : List Char) : Prop :=
  kind.closingMark ∉ inner ∧ takeSign inner = (none, inner) ∧
    takeSign inner.reverse = (none, inner.reverse)

instance (kind : TagKind) (inner : List Char) : Decidable (IsInner kind inner) :=
  inferInstanceAs (Decidable (_ ∧ _ ∧ _))

/-- A tag is cut off with the text before it, and takes away what it takes of the text behind it. -/
lemma lexFrom_tag {kind : TagKind} {inner : List Char} (h : IsInner kind inner)
    (atLineStart : Bool) (data cs : List Char) :
    lexFrom atLineStart data (tagText kind inner ++ cs) =
      (lexFrom ((taken kind none cs).getLast? == some '\n') []
        (cs.drop (taken kind none cs).length)).map fun pieces =>
          dataPiece (beforeTag kind none atLineStart data.reverse) ++
            .tag kind inner :: pieces := by
  obtain ⟨hmark, hopen, hclose⟩ := h
  have hopening : opening? ('{' :: kind.openingMark :: (inner ++ kind.closingMark :: '}' :: cs)) =
      some kind := by
    cases kind <;> rfl
  have htext : tagText kind inner ++ cs =
      '{' :: kind.openingMark :: (inner ++ kind.closingMark :: '}' :: cs) := by
    simp [tagText]
  rw [htext, lexFrom, hopening]
  simp only
  split
  · rename_i hnone
    rw [List.drop_one, List.tail_cons, closing?_append hmark] at hnone
    cases hnone
  · rename_i inner' after hsome
    rw [List.drop_one, List.tail_cons, closing?_append hmark] at hsome
    cases hsome
    simp only [hopen, hclose, List.reverse_reverse]

/-- A tag that puts in a value takes nothing of the text around it away. -/
lemma lexFrom_output {text inner : List Char} (htext : '{' ∉ text) (h : IsInner .output inner)
    (atLineStart : Bool) (cs : List Char) :
    lexFrom atLineStart [] (text ++ (tagText .output inner ++ cs)) =
      (lexFrom false [] cs).map fun pieces => dataPiece text ++ .tag .output inner :: pieces := by
  rw [lexFrom_data htext, lexFrom_tag h, List.append_nil, List.reverse_reverse]
  rfl

/-- Text that ends with a line has no indent to drop. -/
lemma dropIndent_append (atLineStart : Bool) (text : List Char) :
    dropIndent atLineStart (text ++ ['\n']) = text ++ ['\n'] := by
  simp [dropIndent]

/-- A block on a line of its own takes the end of that line away. -/
lemma lexFrom_block {text inner : List Char} (htext : '{' ∉ text) (h : IsInner .block inner)
    (atLineStart : Bool) (cs : List Char) :
    lexFrom atLineStart [] (text ++ '\n' :: (tagText .block inner ++ '\n' :: cs)) =
      (lexFrom true [] cs).map fun pieces =>
        .data (text ++ ['\n']) :: .tag .block inner :: pieces := by
  have hline : '{' ∉ text ++ ['\n'] := by
    rw [List.mem_append, not_or]
    exact ⟨htext, by decide⟩
  have hbefore : beforeTag .block none atLineStart (text ++ ['\n']) = text ++ ['\n'] :=
    dropIndent_append atLineStart text
  have hpiece : dataPiece (text ++ ['\n']) = [.data (text ++ ['\n'])] := by
    simp [dataPiece]
  rw [List.append_cons, lexFrom_data hline, lexFrom_tag h, List.append_nil, List.reverse_reverse,
    hbefore, hpiece]
  rfl

/-! ## Reading the tags -/

/-- Text is a part of its own. -/
lemma parseFrom_data (parts : List Part) (frames : List Frame) (text : String)
    (rest : List Lexeme) :
    parseFrom parts frames (.data text.toList :: rest) =
      parseFrom (parts ++ [.text text]) frames rest := by
  rw [parseFrom, String.ofList_toList]

/-- A tag with a term puts in its value. -/
lemma parseFrom_output {inner : List Char} {t : Term} (h : term? inner = some t)
    (parts : List Part) (frames : List Frame) (rest : List Lexeme) :
    parseFrom parts frames (.tag .output inner :: rest) =
      parseFrom (parts ++ [.value t]) frames rest := by
  rw [parseFrom, h]

/-- A loop keeps the parts before it until it ends. -/
lemma parseFrom_for {inner v : List Char} {list : List (List Char)} {name : String} {t : Term}
    (h : words inner = ['f', 'o', 'r'] :: v :: ['i', 'n'] :: list) (hname : name? v = some name)
    (hlist : term? (Text.joinWith ' ' list) = some t) (parts : List Part) (frames : List Frame)
    (rest : List Lexeme) :
    parseFrom parts frames (.tag .block inner :: rest) =
      parseFrom [] (⟨name, t, parts⟩ :: frames) rest := by
  rw [parseFrom.eq_def]
  simp only [h, hname, hlist]

/-- Where a loop ends, it is one part with all that it encloses. -/
lemma parseFrom_endfor {inner : List Char} (h : words inner = [['e', 'n', 'd', 'f', 'o', 'r']])
    (parts : List Part) (f : Frame) (frames : List Frame) (rest : List Lexeme) :
    parseFrom parts (f :: frames) (.tag .block inner :: rest) =
      parseFrom (f.before ++ [.each f.name f.list parts]) frames rest := by
  simp only [parseFrom, h]

/-! ## The pieces and the parts of the packaged template -/

/-- The text of the packaged template between the line for the date and the commands. -/
def packagedAdvice : String :=
  "\n#\n" ++
  "# Commands must run in this order: chains are created before they are\n" ++
  "# populated and populated before INPUT/OUTPUT jump to them.\n" ++
  "\n" ++
  "set -e\n"

/-- The pieces of the packaged template. -/
def packagedPieces : List Lexeme :=
  [.data "#!/bin/sh\n#\n# Generated by NetfilterFabrik ".toList, .tag .output " version ".toList,
    .data "\n# Job: ".toList, .tag .output " job_name ".toList, .data " (".toList,
    .tag .output " direction ".toList, .data ")\n# Date: ".toList,
    .tag .output " timestamp ".toList, .data " by ".toList, .tag .output " user ".toList,
    .data (packagedAdvice ++ "\n").toList, .tag .block " for line in command_lines ".toList,
    .tag .output " line ".toList, .data "\n".toList, .tag .block " endfor ".toList]

/-- The parts of the packaged template. -/
def packagedParts : List Part :=
  [.text "#!/bin/sh\n#\n# Generated by NetfilterFabrik ", .value (.name "version"),
    .text "\n# Job: ", .value (.name "job_name"), .text " (", .value (.name "direction"),
    .text ")\n# Date: ", .value (.name "timestamp"), .text " by ", .value (.name "user"),
    .text (packagedAdvice ++ "\n"),
    .each "line" (.name "command_lines") [.value (.name "line"), .text "\n"]]

set_option maxRecDepth 4000 in
/-- The packaged template, cut at its tags. -/
lemma toList_packagedTemplate : packagedTemplate.toList =
      "#!/bin/sh\n#\n# Generated by NetfilterFabrik ".toList ++
      (tagText .output " version ".toList ++ ("\n# Job: ".toList ++
      (tagText .output " job_name ".toList ++ (" (".toList ++
      (tagText .output " direction ".toList ++ (")\n# Date: ".toList ++
      (tagText .output " timestamp ".toList ++ (" by ".toList ++
      (tagText .output " user ".toList ++ (packagedAdvice.toList ++ '\n' ::
      (tagText .block " for line in command_lines ".toList ++ '\n' ::
      ([] ++ (tagText .output " line ".toList ++ ([] ++ '\n' ::
      (tagText .block " endfor ".toList ++ ['\n']))))))))))))))) := by
  unfold packagedTemplate packagedAdvice
  simp only [String.toList_append]
  repeat rw [String.toList_ofList]
  simp only [tagText, TagKind.openingMark, TagKind.closingMark, List.cons_append, List.nil_append]

/-- The packaged template is cut into its pieces. -/
lemma lex_packagedTemplate : lex packagedTemplate.toList = .ok packagedPieces := by
  have hadvice : '{' ∉ packagedAdvice.toList := by
    unfold packagedAdvice
    simp only [String.toList_append, List.mem_append, not_or]
    repeat rw [String.toList_ofList]
    decide
  have hreturn : '\r' ∉ packagedTemplate.toList := by
    unfold packagedTemplate
    simp only [String.toList_append, List.mem_append, not_or]
    repeat rw [String.toList_ofList]
    decide
  unfold lex
  rw [Text.unifyLineEnds_of_notMem hreturn, toList_packagedTemplate]
  rw [lexFrom_output, lexFrom_output, lexFrom_output, lexFrom_output, lexFrom_output,
    lexFrom_block hadvice, lexFrom_output, lexFrom_block]
  · unfold packagedPieces
    rw [lexFrom, String.toList_append]
    simp only [Except.map, dataPiece]
    repeat rw [String.toList_ofList]
    rfl
  all_goals
    repeat rw [String.toList_ofList]
    decide

/-- The names that the packaged template puts in. -/
lemma terms_packagedPieces :
    [" version ", " job_name ", " direction ", " timestamp ", " user ", " line "].map
        (fun inner => term? inner.toList) =
      ["version", "job_name", "direction", "timestamp", "user", "line"].map
        fun name => some (.name name) := by
  simp only [List.map_cons]
  repeat rw [String.toList_ofList]
  decide +kernel

/-- The loop of the packaged template. -/
lemma words_packagedPieces :
    words " for line in command_lines ".toList =
      [['f', 'o', 'r'], "line".toList, ['i', 'n'], "command_lines".toList] ∧
    words " endfor ".toList = [['e', 'n', 'd', 'f', 'o', 'r']] ∧
    name? "line".toList = some "line" ∧
    term? (Text.joinWith ' ' ["command_lines".toList]) = some (.name "command_lines") := by
  repeat rw [String.toList_ofList]
  decide +kernel

/-- The packaged template is read into its parts. -/
theorem parse_packagedTemplate : parse packagedTemplate.toList = .ok packagedParts := by
  have hterms := terms_packagedPieces
  simp only [List.map_cons, List.cons.injEq, List.map_nil, and_true] at hterms
  obtain ⟨hversion, hjob, hdirection, htimestamp, huser, hline⟩ := hterms
  obtain ⟨hfor, hend, hname, hlist⟩ := words_packagedPieces
  rw [parse, lex_packagedTemplate]
  simp only [Bind.bind, Except.bind]
  unfold packagedPieces
  rw [parseFrom_data, parseFrom_output hversion, parseFrom_data, parseFrom_output hjob,
    parseFrom_data, parseFrom_output hdirection, parseFrom_data, parseFrom_output htimestamp,
    parseFrom_data, parseFrom_output huser, parseFrom_data, parseFrom_for hfor hname hlist,
    parseFrom_output hline, parseFrom_data, parseFrom_endfor hend]
  rfl

/-! ## Filling in -/

/-- Parts are filled in one after the other. -/
lemma renderAll_of_forall₂ {b : Bindings} {ps : List Part} {texts : List String}
    (h : List.Forall₂ (fun (p : Part) s => p.render b = .ok s) ps texts) :
    renderAll b ps = .ok (String.join texts) := by
  induction h with
  | nil => rw [renderAll, String.join_nil]
  | cons hp _ ih =>
    rw [renderAll, hp, ih, String.join_cons]
    rfl

/-- A value is put in as it is. -/
lemma render_value {b : Bindings} {name s : String}
    (h : Term.value b (.name name) = .ok (.text s)) :
    (Part.value (.name name)).render b = .ok s := by
  rw [Part.render, h]
  rfl

/-- A loop over lines puts in each of them with a line end behind it. -/
lemma render_lines {b : Bindings} {name : String} {lines : List String}
    (h : Term.value b (.name name) = .ok (.lines lines)) :
    (Part.each "line" (.name name) [.value (.name "line"), .text "\n"]).render b =
      .ok (Text.joinLines lines) := by
  have hline : ∀ line : String,
      renderAll (("line", .text line) :: b) [.value (.name "line"), .text "\n"] =
        .ok (line ++ "\n") := by
    intro line
    rfl
  have hlines : (Datum.lines lines).elements.mapM (fun line =>
      renderAll (("line", .text line) :: b) [.value (.name "line"), .text "\n"]) =
        .ok (lines.map (· ++ "\n")) := by
    simp only [hline]
    exact List.mapM_pure
  rw [Part.render, h]
  simp only [Bind.bind, Except.bind, hlines]
  rfl

end Template

/-! ## Scripts -/

/-- The lines of a script in front of its commands. -/
def scriptHead (job : String) (d : Direction) (made : Circumstances) : List String :=
  ["#!/bin/sh", "#", "# Generated by NetfilterFabrik " ++ version,
    "# Job: " ++ job ++ " (" ++ d.name ++ ")",
    "# Date: " ++ made.timestamp ++ " by " ++ made.user, "#",
    "# Commands must run in this order: chains are created before they are",
    "# populated and populated before INPUT/OUTPUT jump to them.", "", "set -e", ""]

set_option maxRecDepth 4000 in
open Template in
/-- A script from the packaged template is its head and a line for each command. -/
theorem renderScript_packaged (transcript : Transcript) (job : String) (d : Direction)
    (tools : ToolPaths) (made : Circumstances) :
    renderScript transcript job d tools made none =
      .ok (Text.joinLines (scriptHead job d made ++ transcript.map (·.line tools))) := by
  have hparts : List.Forall₂
      (fun (p : Part) s => p.render (scriptBindings transcript job d tools made) = .ok s)
      packagedParts
      ["#!/bin/sh\n#\n# Generated by NetfilterFabrik ", version, "\n# Job: ", job, " (", d.name,
        ")\n# Date: ", made.timestamp, " by ", made.user, packagedAdvice ++ "\n",
        Text.joinLines (transcript.map (·.line tools))] := by
    simp only [packagedParts, List.forall₂_cons, Part.render.eq_1]
    refine ⟨trivial, render_value ?_, trivial, render_value ?_, trivial, render_value ?_, trivial,
      render_value ?_, trivial, render_value ?_, trivial, render_lines ?_, .nil⟩
    all_goals simp [Term.value, scriptBindings]
  unfold renderScript Template.render
  rw [Option.getD_none, Template.parse_packagedTemplate]
  show renderAll _ packagedParts = _
  rw [renderAll_of_forall₂ hparts]
  refine congrArg Except.ok (String.toList_injective ?_)
  unfold scriptHead packagedAdvice Text.joinLines
  simp only [List.map_append, List.map_cons, List.map_nil, String.join_append, String.join_cons,
    String.join_nil, String.toList_append, List.append_assoc]
  repeat rw [String.toList_ofList]
  simp only [List.cons_append, List.nil_append, List.append_nil]

end FirewallPolicy
