import CallScript.Proofs.Disk.Requests
import CallScript.Scenario.Compile

/-!
# Writing the two files

What the requests for the script and the capture leave behind, one after the other.

Main statements:
* `Artifacts.write_eq_ok`: both files have been written exactly when each of them has.
* `Artifacts.removed_of_cleanUp`: a clean-up whose requests are served leaves neither file.
-/

namespace CallScript
namespace Artifacts

open Disk

section Confined

open Tree

/-- Writing a file changes the file and makes directories above it. -/
theorem confined_writeFile (path : Path) (content : Bytes) :
    Confined [path] [path] (writeFile path content : StateM Tree _) := by
  refine .bind (confined_ensure.mono (by simp) (by simp)) fun answer => ?_
  split
  · exact confined_pure _
  · exact (confined_write content).mono (by simp) (by simp)

/-- Cleaning up changes the two files and makes no directory. -/
theorem confined_cleanUp (artifacts : Artifacts) :
    Confined [artifacts.script, artifacts.capture] [] (cleanUp artifacts : StateM Tree _) := by
  refine .bind ((confined_discard _).mono (by simp) (by simp)) fun answer => ?_
  split
  · exact confined_pure _
  · refine .bind confined_hasDirectory fun found => ?_
    split
    · exact confined_pure _
    · exact confined_pure _
    · exact (confined_discard _).mono (by simp) (by simp)

end Confined

section Runs

variable {t after : Tree} {path : Path} {content : Bytes}

/-- A file that has been written stands at its path. -/
theorem nodeAt_of_writeFile
    (h : (writeFile path content : StateM Tree _).run t = (.ok (), after)) :
    after.nodeAt path = .ok (.file content) := by
  unfold writeFile at h
  rw [Tree.run_bind] at h
  rcases hensure : (Storage.ensure path.parent : StateM Tree _).run t with ⟨failure | _, above⟩
  · rw [hensure] at h
    cases h
  · rw [hensure] at h
    exact Tree.nodeAt_of_write h

/-- A write that fails without being refused has only made directories. -/
theorem touches_of_unrefused
    {failure : Failure}
    (h : (writeFile path content : StateM Tree _).run t = (.error failure, after))
    (hfailure : ∀ reason p, failure ≠ .refused reason p) :
    Tree.Touches [] [path] t after := by
  have habove : Tree.Touches [] [path] t _ := Tree.confined_ensure t
  unfold writeFile at h
  rw [Tree.run_bind] at h
  rcases hensure : (Storage.ensure path.parent : StateM Tree _).run t with ⟨other | _, above⟩
  · rw [hensure] at h habove
    cases h
    exact habove
  · rw [hensure] at h habove
    dsimp only at h
    rw [Tree.run_write] at h
    split at h
    · cases h
      exact absurd rfl (hfailure _ _)
    · split at h
      · cases h
      · cases h
        exact habove.trans (Tree.touches_asked _ _ _)

theorem run_writeScript (path : Path) (script : Text) (t : Tree) :
    (writeScript path script : StateM Tree _).run t =
      match (writeFile path (script.encode?.getD []) : StateM Tree _).run t with
      | (.error failure, left) => (.error (Fault.wrapping (.scriptUnwritable path) failure), left)
      | (.ok (), left) =>
          (if script.encode?.isSome then .ok () else .error .unencodable, left) := by
  unfold writeScript
  rw [Tree.run_bind]
  rcases (writeFile path (script.encode?.getD []) : StateM Tree _).run t with ⟨failure | _, left⟩
  · rfl
  · rfl

/-- A script has been written when it has bytes and the file of them has been written. -/
theorem writeScript_eq_ok {script : Text} :
    (writeScript path script : StateM Tree _).run t = (.ok (), after) ↔
      ∃ document,
        script.encode? = some document ∧
        (writeFile path document : StateM Tree _).run t = (.ok (), after) := by
  rw [run_writeScript]
  cases hdocument : script.encode? with
  | none =>
      constructor
      · intro h
        split at h <;> cases h
      · rintro ⟨document, hnone, _⟩
        cases hnone
  | some document =>
      constructor
      · intro h
        split at h
        · cases h
        · next left hwrite =>
            cases h
            exact ⟨document, rfl, hwrite⟩
      · rintro ⟨other, heq, hwrite⟩
        cases heq
        rw [Option.getD_some, hwrite]
        rfl

/-- Once the script has been written, the outcome is that of the capture. -/
theorem run_write
    {artifacts : Artifacts} {script : Text} {written : Tree}
    (hscript : (writeScript artifacts.script script : StateM Tree _).run t = (.ok (), written))
    (capture : Bytes) :
    (artifacts.write script capture : StateM Tree _).run t =
      match (writeFile artifacts.capture capture : StateM Tree _).run written with
      | (.ok (), left) => (.ok (), left)
      | (.error (.refused reason path), refused) =>
          match (cleanUp artifacts : StateM Tree _).run refused with
          | (.error other, left) => (.error (.ofFailure other), left)
          | (.ok (), left) =>
              (.error (.captureUnwritable artifacts.capture (.refused reason path)), left)
      | (.error failure, left) => (.error (.ofFailure failure), left) := by
  unfold write
  rw [Tree.run_bind, hscript]
  dsimp only
  rw [Tree.run_bind]
  rcases (writeFile artifacts.capture capture : StateM Tree _).run written with
    ⟨(⟨reason, path⟩ | _ | _) | _, refused⟩
  · dsimp only
    rw [Tree.run_bind]
    rcases (cleanUp artifacts : StateM Tree _).run refused with ⟨other | _, left⟩ <;> rfl
  · rfl
  · rfl
  · rfl

/-- Both files have been written when each of them has, one after the other. -/
theorem write_eq_ok
    {artifacts : Artifacts} {script : Text} {capture : Bytes} :
    (artifacts.write script capture : StateM Tree _).run t = (.ok (), after) ↔
      ∃ document written,
        script.encode? = some document ∧
        (writeFile artifacts.script document : StateM Tree _).run t = (.ok (), written) ∧
        (writeFile artifacts.capture capture : StateM Tree _).run written = (.ok (), after) := by
  constructor
  · intro h
    rcases hscript : (writeScript artifacts.script script : StateM Tree _).run t with
      ⟨fault | _, written⟩
    · unfold write at h
      rw [Tree.run_bind, hscript] at h
      cases h
    · obtain ⟨document, hdocument, hwritten⟩ := writeScript_eq_ok.mp hscript
      refine ⟨document, written, hdocument, hwritten, ?_⟩
      rw [run_write hscript] at h
      split at h
      · next hcapture =>
          cases h
          exact hcapture
      · split at h <;> cases h
      · cases h
  · rintro ⟨document, written, hdocument, hscript, hcapture⟩
    rw [run_write (writeScript_eq_ok.mpr ⟨document, hdocument, hscript⟩), hcapture]

/-- The first of two files is kept unless the paths of both end at one place. -/
theorem read_first_iff
    {first second : Path} {content other : Bytes} {written : Tree}
    (hfirst : (writeFile first content : StateM Tree _).run t = (.ok (), written))
    (hsecond : (writeFile second other : StateM Tree _).run written = (.ok (), after)) :
    after.read first = .ok content ↔
      after.target first ≠ after.target second ∨ content = other := by
  have htouches := confined_writeFile second other written
  rw [hsecond] at htouches
  obtain ⟨name, hends, hnode⟩ := Tree.nodeAt_eq_file_iff.mp (nodeAt_of_writeFile hfirst)
  obtain ⟨place, hplace, hlast⟩ := Tree.nodeAt_eq_file_iff.mp (nodeAt_of_writeFile hsecond)
  have hkept : after.target first = .ok (.entry name) := htouches.target hends
  rw [Tree.read_eq_ok_iff, Tree.nodeAt_of_target hkept, hkept, hplace]
  by_cases hsame : name = place
  · subst hsame
    simp [hlast, eq_comm]
  · -- The second file is the only one that its own write changes.
    have hfile : after.node? name = some (.file content) := by
      refine htouches.node?_file hnode fun path hpath hreaches => ?_
      obtain rfl := List.mem_singleton.mp hpath
      rw [hplace] at hreaches
      cases hreaches
      exact hsame rfl
    simp [hfile, hsame]

end Runs

/-- The requests of a clean-up that has come to its end. -/
inductive Cleaned (artifacts : Artifacts) (before after : Tree) : Prop
  /-- A directory is in the place of the capture. -/
  | directory (first : Tree)
      (script : (Storage.discard artifacts.script : StateM Tree _).run before = (.ok (), first))
      (found : (Storage.hasDirectory artifacts.capture : StateM Tree _).run first =
        (.ok true, after))
  /-- No directory is there, and the capture has been removed too. -/
  | file (first second : Tree)
      (script : (Storage.discard artifacts.script : StateM Tree _).run before = (.ok (), first))
      (found : (Storage.hasDirectory artifacts.capture : StateM Tree _).run first =
        (.ok false, second))
      (capture : (Storage.discard artifacts.capture : StateM Tree _).run second = (.ok (), after))

theorem cleaned_of_cleanUp
    {artifacts : Artifacts} {before after : Tree}
    (h : (cleanUp artifacts : StateM Tree _).run before = (.ok (), after)) :
    Cleaned artifacts before after := by
  unfold cleanUp at h
  rw [Tree.run_bind] at h
  rcases hscript : (Storage.discard artifacts.script : StateM Tree _).run before with
    ⟨failure | _, first⟩
  · rw [hscript] at h
    cases h
  · rw [hscript] at h
    dsimp only at h
    rw [Tree.run_bind] at h
    rcases hfound : (Storage.hasDirectory artifacts.capture : StateM Tree _).run first with
      ⟨failure | _ | _, second⟩
    · rw [hfound] at h
      cases h
    · rw [hfound] at h
      exact .file first second hscript hfound h
    · rw [hfound] at h
      cases h
      exact .directory first hscript hfound

/-- What a clean-up has left of two files: nothing of the script and no file of the capture. -/
structure Removed (artifacts : Artifacts) (before after : Tree) : Prop where
  script : after.nodeAt artifacts.script = .error (.refused .noEntry artifacts.script)
  capture : ∀ content, after.nodeAt artifacts.capture ≠ .ok (.file content)
  /-- Directories stay, also one in the place of the capture. -/
  directory : ∀ path, before.nodeAt path = .ok .directory → after.nodeAt path = .ok .directory

/-- A file whose removal is served is gone, and stays so while later requests make nothing there. -/
theorem nodeAt_of_served_discard
    {path : Path} {before first after : Tree} {name : List String}
    (hends : before.target path = .ok (.entry name))
    (hfirst : (Storage.discard path : StateM Tree _).run before = (.ok (), first))
    (hkeeps : before.Keeps after)
    (hserved : before.Served after)
    (hplan : after.plan <:+ first.plan)
    (hlater : first.node? name = none → after.node? name = none) :
    after.nodeAt path = .error (.refused .noEntry path) ∧ first.Served after := by
  have hleft := Tree.run_discard_snd path before
  have hstep := Tree.confined_discard path before
  rw [hfirst] at hleft hstep
  obtain ⟨hhead, hrest⟩ := hserved.step hleft.1 hplan
  have habsent := Tree.nodeAt_of_discard hhead hfirst
  rw [Tree.nodeAt_of_target (hstep.target hends)] at habsent
  have hnone : first.node? name = none := by
    cases hnode : first.node? name with
    | none =>
        rfl
    | some node =>
        rw [hnode] at habsent
        cases habsent
  rw [Tree.nodeAt_of_target (hkeeps.target hends), hlater hnone]
  exact ⟨rfl, hrest⟩

/-- A clean-up whose requests are served leaves neither file, and every directory. -/
theorem removed_of_cleanUp
    {artifacts : Artifacts} {before after : Tree} {name : List String}
    (hends : before.target artifacts.script = .ok (.entry name))
    (hclean : (cleanUp artifacts : StateM Tree _).run before = (.ok (), after))
    (hserved : before.Served after) :
    Removed artifacts before after := by
  have htouches := confined_cleanUp artifacts before
  rw [hclean] at htouches
  have hkeeps : before.Keeps after := htouches.toKeeps
  cases cleaned_of_cleanUp hclean with
  | directory first script found =>
      have hafter := Tree.run_hasDirectory_snd artifacts.capture first
      rw [found] at hafter
      subst hafter
      obtain ⟨hgone, _⟩ :=
        nodeAt_of_served_discard hends script hkeeps hserved (List.tail_suffix _) id
      have hdirectory := Tree.nodeAt_of_hasDirectory found
      refine ⟨hgone, fun content hfile => ?_, fun path => hkeeps.nodeAt_directory⟩
      rw [hdirectory] at hfile
      cases hfile
  | file first second script found capture =>
      have hsecond := Tree.run_hasDirectory_snd artifacts.capture first
      rw [found] at hsecond
      subst hsecond
      have hleft := Tree.run_discard_snd artifacts.capture first.asked
      have hstep := Tree.confined_discard artifacts.capture first.asked
      rw [capture] at hleft hstep
      -- The capture is removed after the script, and a removal brings no name back.
      obtain ⟨hgone, hrest⟩ :=
        nodeAt_of_served_discard hends script hkeeps hserved
          (hstep.plan.trans (List.tail_suffix _)) (hleft.2 name)
      obtain ⟨_, hlast⟩ := hrest.step rfl hstep.plan
      obtain ⟨hhead, _⟩ := hlast.step hleft.1 List.suffix_rfl
      have habsent := Tree.nodeAt_of_discard hhead capture
      refine ⟨hgone, fun content hfile => ?_, fun path => hkeeps.nodeAt_directory⟩
      rw [habsent] at hfile
      cases hfile

end Artifacts
end CallScript
