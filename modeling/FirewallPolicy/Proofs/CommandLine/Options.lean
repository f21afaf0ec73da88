import FirewallPolicy.CommandLine.CompileJob
import FirewallPolicy.Proofs.Policy.Accepted
import Mathlib.Data.List.Induction
import Mathlib.Tactic.Common

/-!
# Options that were read

Options are read by rules, and what was read keeps to them: a flag is a flag of the rules, a value
is one of the choices of its rule where there are any, and no required option is left out.

* `Given.FitsIn`: an option, as it was given, is one of the rules.
* `readOptions_fitsIn`: so are all options that were read, whichever way they were written.
* `CompileJob.Arguments.exists_direction`: the action that was read is the name of a direction.
-/

namespace FirewallPolicy.CommandLine

section

variable {κ : Type} {rules : List (OptionRule κ)}

/-- An option, as it was given, is one of the rules; a value is one of the choices there. -/
def Given.FitsIn (rules : List (OptionRule κ)) : Given κ → Prop
  | .flag key => ∃ r ∈ rules, r.effect = .flag key
  | .value key text =>
    ∃ r ∈ rules, ∃ choices, r.effect = .value key choices ∧ ∀ cs ∈ choices, text ∈ cs

/-! ## Arguments -/

/-- A word that is an option is one of the rules. -/
def Word.IsFrom (rules : List (OptionRule κ)) : Word κ → Prop
  | .option r _ _ => r ∈ rules
  | _ => True

lemma mem_of_named? {name : List Char} {r : OptionRule κ} (h : named? rules name = some r) :
    r ∈ rules :=
  List.mem_of_find?_eq_some h

lemma isFrom_of_fullName? {cs : List Char} {w : Word κ} (h : fullName? rules cs = some w) :
    w.IsFrom rules := by
  unfold fullName? at h
  split at h
  · rename_i hnamed
    cases h
    exact mem_of_named? hnamed
  · split at h
    · cases h
    · obtain ⟨r, hr, rfl⟩ := Option.map_eq_some_iff.mp h
      exact mem_of_named? hr

lemma isFrom_of_mem_candidates {cs : List Char} {w : Word κ} (h : w ∈ candidates rules cs) :
    w.IsFrom rules := by
  unfold candidates at h
  split at h
  · obtain ⟨r, hr, h⟩ := List.mem_flatMap.mp h
    obtain ⟨name, -, rfl⟩ := List.mem_map.mp h
    exact hr
  · obtain ⟨r, hr, rfl⟩ := Option.map_eq_some_iff.mp (Option.mem_toList.mp h)
    exact mem_of_named? hr

lemma isFrom_of_wordOf {cs : List Char} {w : Word κ} (h : wordOf rules cs = .ok w) :
    w.IsFrom rules := by
  unfold wordOf at h
  split at h
  · cases h
    trivial
  · split at h
    · rename_i hfull
      cases h
      exact isFrom_of_fullName? hfull
    · split at h
      · rename_i hone
        cases h
        exact isFrom_of_mem_candidates (by rw [hone]; exact List.mem_singleton_self _)
      · cases h
      · split at h <;> cases h <;> trivial

lemma isFrom_of_wordsOf {args : List String} {words : List (Word κ × String)}
    (h : wordsOf rules args = .ok words) : ∀ w ∈ words, w.1.IsFrom rules := by
  induction args generalizing words with
  | nil =>
    cases h
    simp
  | cons arg rest ih =>
    rw [wordsOf] at h
    split at h
    · cases h
      simp [Word.IsFrom]
    · obtain ⟨w, hw, h⟩ := exists_of_bind_eq_ok h
      obtain ⟨ws, hws, h⟩ := exists_of_bind_eq_ok h
      cases h
      exact List.forall_mem_cons.mpr ⟨isFrom_of_wordOf hw, ih hws⟩

/-! ## Joined options -/

/-- All options in an argument are rules. -/
def Group.IsFrom (rules : List (OptionRule κ)) (g : Group κ) : Prop :=
  g.last ∈ rules ∧ ∀ r ∈ g.flags, r ∈ rules

lemma isFrom_of_joinedGroup {cs : List Char} {r : OptionRule κ} {g : Group κ} (hr : r ∈ rules)
    (h : joinedGroup rules r cs = .ok g) : g.IsFrom rules := by
  induction cs generalizing r g with
  | nil =>
    rw [joinedGroup] at h
    split at h <;> cases h
    exact ⟨hr, by simp⟩
  | cons c cs ih =>
    rw [joinedGroup] at h
    split at h
    · cases h
      exact ⟨hr, by simp⟩
    · split at h
      · cases h
      · rename_i next hnext
        split at h
        · cases h
          exact ⟨mem_of_named? hnext, by simpa using hr⟩
        · cases hgroup : joinedGroup rules next cs with
          | error halt => simp [hgroup, Except.map] at h
          | ok g' =>
            rw [hgroup] at h
            cases h
            obtain ⟨hlast, hflags⟩ := ih (mem_of_named? hnext) hgroup
            exact ⟨hlast, List.forall_mem_cons.mpr ⟨hr, hflags⟩⟩

lemma isFrom_of_groupOf {r : OptionRule κ} {long : Bool} {attached : Option (List Char)}
    {g : Group κ} (hr : r ∈ rules) (h : groupOf rules r long attached = .ok g) :
    g.IsFrom rules := by
  unfold groupOf at h
  split at h
  · cases h
    exact ⟨hr, by simp⟩
  · split at h
    · split at h <;> cases h
      exact ⟨hr, by simp⟩
    · exact isFrom_of_joinedGroup hr h

/-! ## Effects -/

lemma fitsIn_of_flagEffect {r : OptionRule κ} {given : List (Given κ)} (hr : r ∈ rules)
    (h : flagEffect r = .ok given) : ∀ g ∈ given, g.FitsIn rules := by
  unfold flagEffect at h
  split at h
  · rename_i heffect
    cases h
    simpa [Given.FitsIn] using ⟨r, hr, heffect⟩
  · cases h
  · cases h

lemma fitsIn_of_flagEffects {rs : List (OptionRule κ)} {given : List (Given κ)}
    (hrs : ∀ r ∈ rs, r ∈ rules) (h : flagEffects rs = .ok given) :
    ∀ g ∈ given, g.FitsIn rules := by
  induction rs generalizing given with
  | nil =>
    cases h
    simp
  | cons r rs ih =>
    rw [List.forall_mem_cons] at hrs
    obtain ⟨first, hfirst, h⟩ := exists_of_bind_eq_ok h
    obtain ⟨rest, hrest, h⟩ := exists_of_bind_eq_ok h
    cases h
    exact List.forall_mem_append.mpr ⟨fitsIn_of_flagEffect hrs.1 hfirst, ih hrs.2 hrest⟩

lemma fitsIn_of_valueEffect {r : OptionRule κ} {text : String} {given : List (Given κ)}
    (hr : r ∈ rules) (h : valueEffect r text = .ok given) : ∀ g ∈ given, g.FitsIn rules := by
  unfold valueEffect at h
  split at h
  · rename_i key choices heffect
    split at h
    · rename_i hchoice
      cases h
      rw [List.forall_mem_singleton]
      refine ⟨r, hr, choices, heffect, fun cs hcs => ?_⟩
      rw [Option.mem_def] at hcs
      simpa [hcs] using hchoice
    · cases h
  · cases h

lemma fitsIn_of_groupEffects {g : Group κ} {next : Option String} {given : List (Given κ)}
    {used : Bool} (hg : g.IsFrom rules) (h : groupEffects g next = .ok (given, used)) :
    ∀ g ∈ given, g.FitsIn rules := by
  obtain ⟨hlast, hflags⟩ := hg
  unfold groupEffects at h
  split at h
  · cases heffects : flagEffects (g.flags ++ [g.last]) with
    | error halt => simp [heffects, Except.map] at h
    | ok effects =>
      rw [heffects] at h
      cases h
      exact fitsIn_of_flagEffects (List.forall_mem_append.mpr ⟨hflags, by simpa using hlast⟩)
        heffects
  · obtain ⟨flags, hflagEffects, h⟩ := exists_of_bind_eq_ok h
    split at h
    · cases h
    · obtain ⟨value, hvalue, h⟩ := exists_of_bind_eq_ok h
      cases h
      exact List.forall_mem_append.mpr
        ⟨fitsIn_of_flagEffects hflags hflagEffects, fitsIn_of_valueEffect hlast hvalue⟩
  · obtain ⟨flags, hflagEffects, h⟩ := exists_of_bind_eq_ok h
    obtain ⟨value, hvalue, h⟩ := exists_of_bind_eq_ok h
    cases h
    exact List.forall_mem_append.mpr
      ⟨fitsIn_of_flagEffects hflags hflagEffects, fitsIn_of_valueEffect hlast hvalue⟩
  · cases h

/-- What the words of a command line give fits in the rules. -/
lemma fitsIn_of_readWords {words : List (Word κ × String)} {skip : Bool} {reading : Reading κ}
    (hwords : ∀ w ∈ words, w.1.IsFrom rules) (h : readWords rules skip words = .ok reading) :
    ∀ g ∈ reading.given, g.FitsIn rules := by
  induction words generalizing skip reading with
  | nil =>
    cases h
    simp
  | cons word rest ih =>
    rw [List.forall_mem_cons] at hwords
    obtain ⟨word, text⟩ := word
    unfold readWords at h
    split at h
    · exact ih hwords.2 h
    · split at h
      · rename_i r long attached
        have hr : r ∈ rules := hwords.1
        obtain ⟨group, hgroup, h⟩ := exists_of_bind_eq_ok h
        obtain ⟨⟨given, used⟩, hgiven, h⟩ := exists_of_bind_eq_ok h
        obtain ⟨more, hmore, h⟩ := exists_of_bind_eq_ok h
        cases h
        exact List.forall_mem_append.mpr
          ⟨fitsIn_of_groupEffects (isFrom_of_groupOf hr hgroup) hgiven, ih hwords.2 hmore⟩
      · obtain ⟨more, hmore, h⟩ := exists_of_bind_eq_ok h
        cases h
        have hfits := ih hwords.2 hmore
        exact hfits

end

section

variable {κ : Type} [DecidableEq κ] {rules : List (OptionRule κ)} {required : List κ}
  {args : List String} {given : List (Given κ)} {key : κ}

/-- Options that were read fit in the rules, and none that is required is left out. -/
theorem readOptions_fitsIn (h : readOptions rules required args = .ok given) :
    (∀ g ∈ given, g.FitsIn rules) ∧ ∀ key ∈ required, ∃ g ∈ given, g.key = key := by
  obtain ⟨words, hwords, h⟩ := exists_of_bind_eq_ok h
  obtain ⟨reading, hreading, h⟩ := exists_of_bind_eq_ok h
  split at h
  · cases h
  · rename_i hcomplete
    cases h
    refine ⟨fitsIn_of_readWords (isFrom_of_wordsOf hwords) hreading, fun key hkey => ?_⟩
    simp only [Bool.or_eq_true, Bool.not_eq_true', not_or, Bool.not_eq_false,
      List.all_eq_true] at hcomplete
    simpa using hcomplete.2 key hkey

/-- The value of a key is one of those that were given for it. -/
lemma value_valueOf_mem {text : String} (h : .value key text ∈ given) :
    .value key (valueOf given key) ∈ given := by
  induction given using List.reverseRecOn with
  | nil => cases h
  | append_singleton given last ih =>
    -- The last option counts if it is for the key, and else those in front of it.
    cases last with
    | flag k =>
      have hlast : valueOf (given ++ [.flag k]) key = valueOf given key := by
        rw [valueOf, List.foldl_append]
        rfl
      have hmem : .value key text ∈ given := by simpa using h
      rw [hlast]
      exact List.mem_append_left _ (ih hmem)
    | value k text' =>
      have hlast : valueOf (given ++ [.value k text']) key =
          if k = key then text' else valueOf given key := by
        rw [valueOf, List.foldl_append]
        rfl
      rw [hlast]
      split
      · rename_i hkey
        exact List.mem_append_right _ (by simp [hkey])
      · rename_i hkey
        have hmem : .value key text ∈ given := by simpa [Ne.symm hkey] using h
        exact List.mem_append_left _ (ih hmem)

end

end FirewallPolicy.CommandLine

namespace FirewallPolicy.CompileJob

open FirewallPolicy.CommandLine

/-- The action that was read is the name of a direction. -/
theorem Arguments.exists_direction {argv : List String} {args : Arguments}
    (h : Arguments.read argv = .ok args) : ∃ d : Direction, args.action = d.name := by
  obtain ⟨given, hgiven, h⟩ := exists_of_bind_eq_ok h
  cases h
  obtain ⟨hfits, hrequired⟩ := readOptions_fitsIn hgiven
  obtain ⟨g, hg, hkey⟩ := hrequired .action (by decide)
  -- No rule has a flag for the action, so it was given with a value.
  have hvalue : ∃ text, g = .value .action text := by
    cases g with
    | flag key =>
      obtain rfl : key = .action := hkey
      obtain ⟨r, hr, heffect⟩ := hfits _ hg
      have hnoFlag : ∀ r ∈ rules, r.effect ≠ .flag .action := by decide
      exact absurd heffect (hnoFlag r hr)
    | value key text =>
      obtain rfl : key = .action := hkey
      exact ⟨text, rfl⟩
  obtain ⟨text, rfl⟩ := hvalue
  obtain ⟨r, hr, choices, heffect, hchoices⟩ := hfits _ (value_valueOf_mem hg)
  have hnames : choices = some [Direction.install.name, Direction.uninstall.name] := by
    simp only [rules, List.mem_cons, List.not_mem_nil, or_false] at hr
    rcases hr with rfl | rfl | rfl | rfl | rfl | rfl | rfl | rfl | rfl <;> cases heffect
    rfl
  have haction := hchoices _ hnames
  simp only [List.mem_cons, List.not_mem_nil, or_false] at haction
  rcases haction with h | h
  · exact ⟨.install, h⟩
  · exact ⟨.uninstall, h⟩

end FirewallPolicy.CompileJob
