import FirewallPolicy.Script.Listing
import FirewallPolicy.Script.Template
import FirewallPolicy.Workflow.Direction

/-!
# Shell scripts

A transcript becomes a shell script by filling in a template: the one that comes with this program,
or one of the user that takes its place.  The script stops at the first command that fails.
-/

namespace FirewallPolicy

open FirewallPolicy.Template (Bindings TemplateError)

/-- The version of this program. -/
def version : String := "0.1.0"

/-- The template that comes with this program. -/
def packagedTemplate : String :=
  "#!/bin/sh\n" ++
  "#\n" ++
  "# Generated by NetfilterFabrik \x7b\x7b version \x7d\x7d\n" ++
  "# Job: \x7b\x7b job_name \x7d\x7d (\x7b\x7b direction \x7d\x7d)\n" ++
  "# Date: \x7b\x7b timestamp \x7d\x7d by \x7b\x7b user \x7d\x7d\n" ++
  "#\n" ++
  "# Commands must run in this order: chains are created before they are\n" ++
  "# populated and populated before INPUT/OUTPUT jump to them.\n" ++
  "\n" ++
  "set -e\n" ++
  "\n" ++
  "\x7b% for line in command_lines %\x7d\n" ++
  "\x7b\x7b line \x7d\x7d\n" ++
  "\x7b% endfor %\x7d\n"

/-- What a script says about the circumstances in which it was made. -/
structure Circumstances where
  timestamp : String
  user : String
  deriving DecidableEq, Repr

/-- The values for a template. -/
def scriptBindings (transcript : Transcript) (job : String) (direction : Direction)
    (tools : ToolPaths) (made : Circumstances) : Bindings :=
  [("version", .text version), ("job_name", .text job), ("direction", .text direction.name),
    ("timestamp", .text made.timestamp), ("user", .text made.user),
    ("command_lines", .lines (transcript.map (·.line tools)))]

/-- The script of a transcript. -/
def renderScript (transcript : Transcript) (job : String) (direction : Direction)
    (tools : ToolPaths) (made : Circumstances) (userTemplate : Option String) :
    Except TemplateError String :=
  Template.render (userTemplate.getD packagedTemplate)
    (scriptBindings transcript job direction tools made)

/-- Where templates are looked for. -/
inductive TemplatePlace where
  | user
  | package
  deriving DecidableEq, Repr

/-- The name of a place. -/
def TemplatePlace.name : TemplatePlace → String
  | .user => "user"
  | .package => "package"

/-- The places where templates are looked for, in order: the user's only if it is there. -/
def templatePlaces (userPlaceExists : Bool) : List TemplatePlace :=
  if userPlaceExists then [.user, .package] else [.package]

end FirewallPolicy
