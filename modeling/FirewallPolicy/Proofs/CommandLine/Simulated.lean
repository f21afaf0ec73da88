import FirewallPolicy.CommandLine.Surroundings
import FirewallPolicy.Proofs.Files.Writing

/-!
# Surroundings that are a value

What a program gets when it asks, and what is left of the files then.

* `run_bind_of_run`: a run goes on from what its first step gives.
* `simulated_write_cases`: what is left of writing, the only step that changes what files hold.
-/

namespace FirewallPolicy.CommandLine

open Files (FileSystem IsWritable Path)

/-- What a run leaves behind that leaves nothing. -/
structure LeavesNothing (fs : FileSystem) (after : Report × FileSystem) : Prop where
  output : after.1.output = ""
  files : after.2 = fs
  status : after.1.status ≠ .ok 0

variable {given : Setting} {fs : FileSystem}

/-- The run of a program whose first step is known goes on from there. -/
lemma run_bind_of_run {σ α β : Type} {x : StateM σ α} {before after : σ} {a : α}
    (h : x.run before = (a, after)) (f : α → StateM σ β) :
    (x >>= f).run before = (f a).run after := by
  rw [StateT.run_bind, h]
  rfl

lemma simulated_read_run (path : Path) :
    ((Surroundings.simulated given).read path).run fs = (fs.read path, fs) := rfl

lemma simulated_isFile_run (path : Path) :
    ((Surroundings.simulated given).isFile path).run fs = (fs.isFile path, fs) := rfl

lemma simulated_isDirectory_run (path : Path) :
    ((Surroundings.simulated given).isDirectory path).run fs = (fs.askDirectory path, fs) := rfl

lemma simulated_home_run : (Surroundings.simulated given).home.run fs = (given.home, fs) := rfl

lemma simulated_circumstances_run :
    (Surroundings.simulated given).circumstances.run fs = (given.circumstances, fs) := rfl

lemma simulated_moment_run :
    (Surroundings.simulated given).moment.run fs = (given.moment, fs) := rfl

lemma simulated_identifiers_run (count : Nat) :
    ((Surroundings.simulated given).identifiers count).run fs = (given.identifier, fs) := rfl

lemma simulated_write_run (path : Path) (bytes : List UInt8) :
    ((Surroundings.simulated given).write path bytes).run fs =
      match Files.writeText fs path bytes with
      | (after, none) => (.ok (), after)
      | (after, some e) => (.error e, after) := by
  show (match Files.writeText fs path bytes with
    | (fs, none) => _
    | (fs, some e) => _ : StateM FileSystem _).run fs = _
  split <;> rfl

/-- Writing either succeeds, and the file holds what was written, or the file cannot be written. -/
lemma simulated_write_cases (given : Setting) (fs : FileSystem) (path : Path)
    (bytes : List UInt8) :
    (∃ after, ((Surroundings.simulated given).write path bytes).run fs = (.ok (), after) ∧
      IsWritable fs path ∧ after.read path = .ok bytes) ∨
    (∃ after e, ((Surroundings.simulated given).write path bytes).run fs = (.error e, after) ∧
      ¬ IsWritable fs path) := by
  rw [simulated_write_run]
  obtain ⟨after, hwritten, hwritable, hread⟩ | ⟨after, e, hwritten, hnot⟩ :=
    Files.writeText_cases fs path bytes
  · exact .inl ⟨after, by rw [hwritten], hwritable, hread⟩
  · exact .inr ⟨after, e, by rw [hwritten], hnot⟩

end FirewallPolicy.CommandLine
