import CallScript.Disk.Tree

/-!
# File systems in memory

What stands under a name after a change, and where a path ends in a tree that has grown.

Main statement: `Tree.Keeps.target`.  While the directories of a tree stay, a path that ended
somewhere goes on to end there.
-/

namespace CallScript
namespace Disk
namespace Tree

section Nodes

variable (t : Tree) (name other : List String)

theorem lookup_cons (node : Node) (rest : List (List String × Node)) :
    ((name, node) :: rest).lookup other = if other = name then some node else rest.lookup other := by
  rw [List.lookup_cons]
  by_cases h : other = name
  · simp [h]
  · have hbeq : (other == name) = false := by simpa using h
    rw [if_neg h, hbeq]

theorem lookup_filter_ne (entries : List (List String × Node)) :
    (entries.filter (·.1 ≠ name)).lookup other =
      if other = name then none else entries.lookup other := by
  induction entries with
  | nil =>
      simp
  | cons entry rest ih =>
      obtain ⟨key, node⟩ := entry
      by_cases hkey : key = name
      · rw [List.filter_cons_of_neg (by simpa using hkey), ih, lookup_cons, hkey]
        by_cases hother : other = name
        · rw [if_pos hother, if_pos hother]
        · rw [if_neg hother, if_neg hother, if_neg hother]
      · rw [List.filter_cons_of_pos (by simpa using hkey), lookup_cons, lookup_cons, ih]
        by_cases hother : other = key
        · have hne : other ≠ name := by
            rw [hother]
            exact hkey
          rw [if_pos hother, if_neg hne, if_pos hother]
        · rw [if_neg hother, if_neg hother]

theorem node?_set
    {name : List String} (node : Node)
    (hname : name ≠ []) :
    (t.set name node).node? other = if other = name then some node else t.node? other := by
  by_cases hother : other = name
  · subst hother
    simp [node?, set, hname]
  · rw [if_neg hother]
    by_cases hempty : other = []
    · simp [node?, hempty]
    · have hlookup := lookup_cons name other node (t.nodes.filter (·.1 ≠ name))
      rw [lookup_filter_ne, if_neg hother, if_neg hother] at hlookup
      simpa [node?, set, hempty] using hlookup

theorem node?_erase
    {name : List String}
    (hname : name ≠ []) :
    (t.erase name).node? other = if other = name then none else t.node? other := by
  by_cases hempty : other = []
  · have hne : other ≠ name := by
      rw [hempty]
      exact hname.symm
    rw [if_neg hne]
    simp [node?, hempty]
  · have hlookup := lookup_filter_ne name other t.nodes
    simpa [node?, erase, hempty] using hlookup

end Nodes

/-- The directories of a tree are still there later, and the working directory is the same. -/
structure Keeps (before after : Tree) : Prop where
  working : after.working = before.working
  directory : ∀ name, before.node? name = some .directory → after.node? name = some .directory

namespace Keeps

variable {before middle after : Tree}

theorem refl (t : Tree) :
    Keeps t t :=
  ⟨rfl, fun _ h => h⟩

theorem trans
    (first : Keeps before middle) (second : Keeps middle after) :
    Keeps before after :=
  ⟨second.working.trans first.working,
    fun name h => second.directory name (first.directory name h)⟩

/-- A way through directories stays one. -/
theorem walk
    (h : Keeps before after)
    {place found : List String} {names : List String}
    (hwalk : before.walk place names = .ok found) :
    after.walk place names = .ok found := by
  induction names generalizing place with
  | nil =>
      exact hwalk
  | cons name rest ih =>
      rw [Tree.walk] at hwalk ⊢
      split at hwalk
      · next hup =>
          rw [if_pos hup]
          exact ih hwalk
      · next hdown =>
          rw [if_neg hdown]
          split at hwalk
          · cases hwalk
          · next hshort =>
              rw [if_neg hshort]
              split at hwalk
              · cases hwalk
              · cases hwalk
              · next hdirectory =>
                  rw [h.directory _ hdirectory]
                  exact ih hwalk

/-- A path goes on to end where it did. -/
theorem target
    (h : Keeps before after)
    {path : Path} {place : Target}
    (htarget : before.target path = .ok place) :
    after.target path = .ok place := by
  unfold Tree.target at htarget ⊢
  rw [h.working]
  split at htarget
  · cases htarget
  · next hplain =>
      rw [if_neg hplain]
      split at htarget
      · cases htarget
      · next hshort =>
          rw [if_neg hshort]
          dsimp only at htarget ⊢
          split at htarget
          · exact htarget
          · split at htarget
            · cases htarget
            · next directory hwalk =>
                rw [h.walk hwalk]
                exact htarget

end Keeps

section Ends

variable {t : Tree} {path : Path} {name : List String}

/-- A path that ends inside a directory ends there at its own last name. -/
theorem exists_last_of_target
    (h : t.target path = .ok (.entry name)) :
    ∃ directory last, name = directory ++ [last] ∧ path.names.getLast? = some last := by
  unfold target at h
  split at h
  · cases h
  · split at h
    · cases h
    · dsimp only at h
      split at h
      · cases h
      · next last hlast =>
          split at h
          · cases h
          · next directory _ =>
              split at h
              · cases h
              · split at h
                · cases h
                · cases h
                  exact ⟨directory, last, rfl, hlast⟩

theorem ne_nil_of_target
    (h : t.target path = .ok (.entry name)) :
    name ≠ [] := by
  obtain ⟨directory, last, rfl, _⟩ := exists_last_of_target h
  simp

theorem nodeAt_of_target
    (h : t.target path = .ok (.entry name)) :
    t.nodeAt path = (t.node? name).elim (.error (.refused .noEntry path)) .ok := by
  unfold nodeAt
  rw [h]
  dsimp only
  cases t.node? name <;> rfl

/-- A file stands at a path exactly when the path ends at the name of the file. -/
theorem nodeAt_eq_file_iff {content : Bytes} :
    t.nodeAt path = .ok (.file content) ↔
      ∃ name, t.target path = .ok (.entry name) ∧ t.node? name = some (.file content) := by
  constructor
  · intro h
    cases htarget : t.target path with
    | error failure =>
        unfold nodeAt at h
        rw [htarget] at h
        cases h
    | ok place =>
        cases place with
        | place directory =>
            unfold nodeAt at h
            rw [htarget] at h
            cases h
        | entry name =>
            rw [nodeAt_of_target htarget] at h
            refine ⟨name, rfl, ?_⟩
            cases hnode : t.node? name with
            | none =>
                rw [hnode] at h
                cases h
            | some node =>
                rw [hnode] at h
                cases h
                rfl
  · rintro ⟨name, htarget, hnode⟩
    rw [nodeAt_of_target htarget, hnode]
    rfl

/-- What is read at a path is the content of the file there. -/
theorem read_eq_ok_iff {content : Bytes} :
    t.read path = .ok content ↔ t.nodeAt path = .ok (.file content) := by
  unfold Tree.read
  rcases t.nodeAt path with failure | _ | other <;> simp

/-- A directory at a path stays there. -/
theorem Keeps.nodeAt_directory
    {after : Tree}
    (h : Keeps t after)
    (hdirectory : t.nodeAt path = .ok .directory) :
    after.nodeAt path = .ok .directory := by
  cases htarget : t.target path with
  | error failure =>
      unfold nodeAt at hdirectory
      rw [htarget] at hdirectory
      cases hdirectory
  | ok place =>
      cases place with
      | place directory =>
          unfold nodeAt
          rw [h.target htarget]
      | entry name =>
          rw [nodeAt_of_target htarget] at hdirectory
          rw [nodeAt_of_target (h.target htarget)]
          cases hnode : t.node? name with
          | none =>
              rw [hnode] at hdirectory
              cases hdirectory
          | some node =>
              rw [hnode] at hdirectory
              cases hdirectory
              rw [h.directory name hnode]
              rfl

end Ends

end Tree
end Disk
end CallScript
