import CallScript.Proofs.Disk.Tree

/-!
# Requests to a file system in memory

How far requests reach.  A request for a path changes what the path ends at and nothing else, and
directories are only made above a path; whatever a plan refuses, directories stay.

Main statements:
* `Tree.confined_ensure` and `Tree.confined_discard`: making the directories above a path and
  removing a file are confined to the path.
* `Tree.nodeAt_of_write`: what has been written stands where it was to be written.
* `Tree.nodeAt_of_discard`: what has been removed without a refusal is gone.
-/

namespace CallScript
namespace Disk

/-- Holds of the paths to the directories above the end of a path. -/
def Path.IsAbove (parent path : Path) : Prop :=
  parent.root = path.root ∧ parent.names <+: path.names.dropLast

theorem Path.isAbove_parent (path : Path) :
    path.parent.IsAbove path :=
  ⟨rfl, List.prefix_rfl⟩

/-- What lies above a directory above the end of a path lies above that end as well. -/
theorem Path.IsAbove.parent
    {parent path : Path}
    (h : parent.IsAbove path) :
    parent.parent.IsAbove path :=
  ⟨h.1, (List.dropLast_prefix _).trans h.2⟩

namespace Tree

/--
How what stands under a name may change when requests are made for some files and for directories
above some paths.
-/
inductive Change (files paths : List Path) (before after : Tree) (name : List String) : Prop
  /-- It stays as it was. -/
  | same (node : after.node? name = before.node? name)
  /-- The path of one of the files ends there. -/
  | file (path : Path) (mem : path ∈ files) (ends : after.target path = .ok (.entry name))
  /-- There was nothing, and a directory above one of the paths has been made. -/
  | directory (path parent : Path) (mem : path ∈ paths) (above : parent.IsAbove path)
      (ends : after.target parent = .ok (.entry name))
      (absent : before.node? name = none)
      (made : after.node? name = some .directory)

/-- Requests for some files, and for directories above some paths, lead from one tree to another. -/
structure Touches (files paths : List Path) (before after : Tree) : Prop
    extends Keeps before after where
  /-- Refusals are taken from the front of the plan. -/
  plan : after.plan <:+ before.plan
  change : ∀ name, Change files paths before after name

namespace Touches

variable {files paths moreFiles morePaths : List Path} {before middle after : Tree}

theorem refl (t : Tree) :
    Touches files paths t t where
  toKeeps := .refl t
  plan := List.suffix_rfl
  change _ := .same rfl

theorem trans
    (first : Touches files paths before middle) (second : Touches files paths middle after) :
    Touches files paths before after where
  toKeeps := first.toKeeps.trans second.toKeeps
  plan := second.plan.trans first.plan
  change name := by
    -- Where a path ended in the middle it ends afterwards, because directories stay.
    cases second.change name with
    | same hnode =>
        cases first.change name with
        | same hbefore =>
            exact .same (hnode.trans hbefore)
        | file path mem ends =>
            exact .file path mem (second.target ends)
        | directory path parent mem above ends absent made =>
            exact .directory path parent mem above (second.target ends) absent (hnode.trans made)
    | file path mem ends =>
        exact .file path mem ends
    | directory path parent mem above ends absent made =>
        cases first.change name with
        | same hbefore =>
            exact .directory path parent mem above ends (hbefore.symm.trans absent) made
        | file other mem' ends' =>
            exact .file other mem' (second.target ends')
        | directory _ _ _ _ _ _ made' =>
            rw [made'] at absent
            cases absent

theorem mono
    (h : Touches files paths before after)
    (hfiles : files ⊆ moreFiles) (hpaths : paths ⊆ morePaths) :
    Touches moreFiles morePaths before after where
  toKeeps := h.toKeeps
  plan := h.plan
  change name := by
    cases h.change name with
    | same hnode =>
        exact .same hnode
    | file path mem ends =>
        exact .file path (hfiles mem) ends
    | directory path parent mem above ends absent made =>
        exact .directory path parent (hpaths mem) above ends absent made

/-- A file stays as it is unless the path of one of the files ends at it. -/
theorem node?_file
    (h : Touches files paths before after)
    {name : List String} {content : Bytes}
    (hfile : before.node? name = some (.file content))
    (hends : ∀ path ∈ files, after.target path ≠ .ok (.entry name)) :
    after.node? name = some (.file content) := by
  cases h.change name with
  | same hnode =>
      exact hnode.trans hfile
  | file path mem ends =>
      exact absurd ends (hends path mem)
  | directory _ _ _ _ _ absent _ =>
      rw [hfile] at absent
      cases absent

end Touches

/-- The tree after a request that has changed nothing. -/
def asked (t : Tree) : Tree :=
  { t with plan := t.plan.tail }

theorem touches_asked (files paths : List Path) (t : Tree) :
    Touches files paths t t.asked :=
  ⟨⟨rfl, fun _ h => h⟩, List.tail_suffix _, fun _ => .same rfl⟩

section Single

variable {t after : Tree} {path : Path}

theorem touches_makeDirectory
    {parent : Path}
    (habove : parent.IsAbove path)
    (h : t.makeDirectory parent = .ok after) :
    Touches [] [path] t after := by
  unfold makeDirectory at h
  split at h
  · cases h
  · cases h
  · next name htarget =>
      split at h
      · cases h
      · next hnone =>
          cases h
          have hname := ne_nil_of_target htarget
          have hkeeps : Keeps t (t.set name .directory) := by
            refine ⟨rfl, fun other hother => ?_⟩
            rw [node?_set t other _ hname]
            split
            · rfl
            · exact hother
          refine ⟨hkeeps, List.suffix_rfl, fun other => ?_⟩
          by_cases hother : other = name
          · subst hother
            refine .directory path parent (List.mem_singleton.mpr rfl) habove
              (hkeeps.target htarget) hnone ?_
            rw [node?_set t _ _ hname, if_pos rfl]
          · refine .same ?_
            rw [node?_set t other _ hname, if_neg hother]

/-- What is written is a file where the path ends. -/
theorem write_eq_ok
    {content : Bytes}
    (h : t.write path content = .ok after) :
    ∃ name,
      t.target path = .ok (.entry name) ∧
      t.node? name ≠ some .directory ∧
      after = t.set name (.file content) := by
  unfold Tree.write at h
  split at h
  · cases h
  · cases h
  · next name htarget =>
      split at h
      · cases h
      · next hnode =>
          cases h
          exact ⟨name, htarget, hnode, rfl⟩

/-- What is removed was a file where the path ends. -/
theorem remove_eq_ok
    (h : t.remove path = .ok after) :
    ∃ name,
      t.target path = .ok (.entry name) ∧
      t.node? name ≠ some .directory ∧
      after = t.erase name := by
  unfold Tree.remove at h
  split at h
  · cases h
  · cases h
  · next name htarget =>
      split at h
      · cases h
      · cases h
      · next content hnode =>
          cases h
          exact ⟨name, htarget, by rw [hnode]; simp, rfl⟩

/-- A change at the name where a path ends, which is no directory, is a change of its file. -/
theorem touches_of_entry
    {name : List String}
    (htarget : t.target path = .ok (.entry name))
    (hnode : t.node? name ≠ some .directory)
    (hworking : after.working = t.working)
    (hplan : after.plan <:+ t.plan)
    (hothers : ∀ other, other ≠ name → after.node? other = t.node? other) :
    Touches [path] [] t after := by
  have hkeeps : Keeps t after := by
    refine ⟨hworking, fun other hother => ?_⟩
    have hne : other ≠ name := by
      rintro rfl
      exact hnode hother
    rw [hothers other hne]
    exact hother
  refine ⟨hkeeps, hplan, fun other => ?_⟩
  by_cases hother : other = name
  · subst hother
    exact .file path (List.mem_singleton.mpr rfl) (hkeeps.target htarget)
  · exact .same (hothers other hother)

theorem touches_write
    {content : Bytes}
    (h : t.write path content = .ok after) :
    Touches [path] [] t after ∧ after.nodeAt path = .ok (.file content) := by
  obtain ⟨name, htarget, hnode, rfl⟩ := write_eq_ok h
  have hname := ne_nil_of_target htarget
  have htouches : Touches [path] [] t (t.set name (.file content)) := by
    refine touches_of_entry htarget hnode rfl List.suffix_rfl fun other hother => ?_
    rw [node?_set t other _ hname, if_neg hother]
  refine ⟨htouches, ?_⟩
  rw [nodeAt_of_target (htouches.target htarget), node?_set t name _ hname, if_pos rfl]
  rfl

theorem touches_remove
    (h : t.remove path = .ok after) :
    Touches [path] [] t after ∧ after.nodeAt path = .error (.refused .noEntry path) := by
  obtain ⟨name, htarget, hnode, rfl⟩ := remove_eq_ok h
  have hname := ne_nil_of_target htarget
  have htouches : Touches [path] [] t (t.erase name) := by
    refine touches_of_entry htarget hnode rfl List.suffix_rfl fun other hother => ?_
    rw [node?_erase t other hname, if_neg hother]
  refine ⟨htouches, ?_⟩
  rw [nodeAt_of_target (htouches.target htarget), node?_erase t name hname, if_pos rfl]
  rfl

/-- A refusal of a path names the path. -/
theorem path_of_target
    {reason : Reason} {refused : Path}
    (h : t.target path = .error (.refused reason refused)) :
    refused = path := by
  unfold target at h
  split at h
  · cases h
  · split at h
    · cases h
      rfl
    · dsimp only at h
      split at h
      · cases h
      · split at h
        · cases h
          rfl
        · split at h
          · cases h
          · split at h
            · cases h
              rfl
            · cases h

/-- Nothing stands where there is nothing to remove. -/
theorem nodeAt_of_remove
    {refused : Path}
    (h : t.remove path = .error (.refused .noEntry refused)) :
    t.nodeAt path = .error (.refused .noEntry path) := by
  unfold Tree.remove at h
  unfold nodeAt
  split at h
  · next failure htarget =>
      cases h
      simp only [path_of_target htarget]
  · cases h
  · next name htarget =>
      split at h
      · next hnode =>
          simp only [hnode]
      · cases h
      · cases h

theorem touches_writePart (content : Bytes) (refusal : Refusal) (t : Tree) :
    Touches [path] [] t (writePart path content refusal t) := by
  unfold writePart
  split
  · exact .refl t
  · split
    · next written hwrite =>
        exact (touches_write hwrite).1
    · exact .refl t

end Single

/-- Holds of the actions that reach no further than some files and the directories above paths. -/
def Confined {α : Type} (files paths : List Path) (action : StateM Tree α) : Prop :=
  ∀ t, Touches files paths t (action.run t).2

section Actions

variable {α β : Type} {files paths : List Path} {path : Path}

theorem run_bind (action : StateM Tree α) (next : α → StateM Tree β) (t : Tree) :
    (action >>= next).run t = (next (action.run t).1).run (action.run t).2 := by
  rfl

theorem confined_pure (a : α) :
    Confined files paths (pure a : StateM Tree α) :=
  fun t => .refl t

theorem Confined.bind
    {action : StateM Tree α} {next : α → StateM Tree β}
    (first : Confined files paths action)
    (second : ∀ a, Confined files paths (next a)) :
    Confined files paths (action >>= next) :=
  fun t => (first t).trans (second _ _)

theorem Confined.mono
    {moreFiles morePaths : List Path} {action : StateM Tree α}
    (h : Confined files paths action)
    (hfiles : files ⊆ moreFiles) (hpaths : paths ⊆ morePaths) :
    Confined moreFiles morePaths action :=
  fun t => (h t).mono hfiles hpaths

/-- A request that only looks is answered unless the plan refuses it. -/
theorem run_look (act : Tree → Except Failure α) (t : Tree) :
    (look path act).run t =
      match t.plan.head?.join with
      | some refusal => (.error (.refused refusal.reason path), t.asked)
      | none => (act t.asked, t.asked) := by
  obtain ⟨working, nodes, plan⟩ := t
  rcases plan with _ | ⟨_ | refusal, rest⟩ <;> rfl

/-- A request that changes the tree is answered unless the plan refuses it. -/
theorem run_change
    (act : Tree → Except Failure Tree) (refused : Refusal → Tree → Tree) (t : Tree) :
    (change path act refused).run t =
      match t.plan.head?.join with
      | some refusal => (.error (.refused refusal.reason path), refused refusal t.asked)
      | none =>
          match act t.asked with
          | .ok after => (.ok (), after)
          | .error failure => (.error failure, t.asked) := by
  obtain ⟨working, nodes, plan⟩ := t
  rcases plan with _ | ⟨_ | refusal, rest⟩ <;> rfl

theorem confined_look (act : Tree → Except Failure α) :
    Confined files paths (look path act) := by
  intro t
  rw [run_look]
  split <;> exact touches_asked files paths t

theorem confined_change
    {act : Tree → Except Failure Tree} {refused : Refusal → Tree → Tree}
    (hact : ∀ t after, act t = .ok after → Touches files paths t after)
    (hrefused : ∀ refusal t, Touches files paths t (refused refusal t)) :
    Confined files paths (change path act refused) := by
  intro t
  have hasked := touches_asked files paths t
  rw [run_change]
  split
  · next refusal _ =>
      exact hasked.trans (hrefused refusal t.asked)
  · split
    · next after hafter =>
        exact hasked.trans (hact t.asked after hafter)
    · exact hasked

theorem confined_makeDirectory
    {parent : Path}
    (habove : parent.IsAbove path) :
    Confined [] [path] (Storage.makeDirectory parent : StateM Tree _) :=
  confined_change (fun _ _ h => touches_makeDirectory habove h) fun _ t => .refl t

theorem confined_write (content : Bytes) :
    Confined [path] [] (Storage.write path content : StateM Tree _) :=
  confined_change (fun _ _ h => (touches_write h).1) fun refusal t =>
    touches_writePart content refusal t

theorem confined_remove :
    Confined [path] [] (Storage.remove path : StateM Tree _) :=
  confined_change (fun _ _ h => (touches_remove h).1) fun _ t => .refl t

theorem confined_hasDirectory :
    Confined files paths (Storage.hasDirectory path : StateM Tree _) := by
  refine .bind (confined_look _) fun answer => ?_
  rcases answer with failure | ⟨isDirectory, isFile⟩
  · exact confined_pure _
  · exact confined_pure _

theorem confined_settle (failure : Failure) :
    Confined files paths (Storage.settle path failure : StateM Tree _) := by
  cases failure with
  | refused reason refused =>
      refine .bind confined_hasDirectory fun answer => ?_
      rcases answer with other | _ | _ <;> exact confined_pure _
  | _ =>
      exact confined_pure _

theorem confined_ensureOne
    {parent : Path}
    (habove : parent.IsAbove path) :
    Confined [] [path] (Storage.ensureOne parent : StateM Tree _) := by
  refine .bind (confined_makeDirectory habove) fun answer => ?_
  split
  · exact confined_pure _
  · exact confined_pure _
  · exact confined_settle _

theorem confined_ensureUpTo
    (depth : Nat) {parent : Path}
    (habove : parent.IsAbove path) :
    Confined [] [path] (Storage.ensureUpTo depth parent : StateM Tree _) := by
  induction depth generalizing parent with
  | zero =>
      refine .bind (confined_ensureOne habove) fun answer => ?_
      split <;> exact confined_pure _
  | succ depth ih =>
      -- The directories above the parent are above the path too.
      refine .bind (confined_makeDirectory habove) fun answer => ?_
      split
      · exact confined_pure _
      · refine .bind (ih habove.parent) fun above => ?_
        split
        · exact confined_ensureOne habove
        · exact confined_pure _
      · exact confined_settle _

/-- Making the directories above a path changes no file. -/
theorem confined_ensure :
    Confined [] [path] (Storage.ensure path.parent : StateM Tree _) :=
  confined_ensureUpTo _ path.isAbove_parent

/-- Removing a file changes nothing else. -/
theorem confined_discard (path : Path) :
    Confined [path] [] (Storage.discard path : StateM Tree _) := by
  refine .bind confined_remove fun answer => ?_
  split <;> exact confined_pure _

end Actions

section Answers

variable {t after : Tree} {path : Path}

theorem run_write (path : Path) (content : Bytes) (t : Tree) :
    (Storage.write path content : StateM Tree _).run t =
      match t.plan.head?.join with
      | some refusal =>
          (.error (.refused refusal.reason path), writePart path content refusal t.asked)
      | none =>
          match t.asked.write path content with
          | .ok after => (.ok (), after)
          | .error failure => (.error failure, t.asked) :=
  run_change (·.write path content) (writePart path content) t

theorem run_remove (path : Path) (t : Tree) :
    (Storage.remove path : StateM Tree _).run t =
      match t.plan.head?.join with
      | some refusal => (.error (.refused refusal.reason path), t.asked)
      | none =>
          match t.asked.remove path with
          | .ok after => (.ok (), after)
          | .error failure => (.error failure, t.asked) :=
  run_change (·.remove path) (fun _ t => t) t

theorem run_status (path : Path) (t : Tree) :
    (Storage.status path : StateM Tree _).run t =
      match t.plan.head?.join with
      | some refusal => (.error (.refused refusal.reason path), t.asked)
      | none => ((t.asked.nodeAt path).map statusOf, t.asked) :=
  run_look (fun t => (t.nodeAt path).map statusOf) t

/-- What has been written stands at its path. -/
theorem nodeAt_of_write
    {content : Bytes}
    (h : (Storage.write path content : StateM Tree _).run t = (.ok (), after)) :
    after.nodeAt path = .ok (.file content) := by
  rw [run_write] at h
  split at h
  · cases h
  · split at h
    · next written hwrite =>
        cases h
        exact (touches_write hwrite).2
    · cases h

/-- A question leaves everything as it is. -/
theorem run_hasDirectory_snd (path : Path) (t : Tree) :
    ((Storage.hasDirectory path : StateM Tree _).run t).2 = t.asked := by
  have hstatus : ((Storage.status path : StateM Tree _).run t).2 = t.asked := by
    rw [run_status]
    split <;> rfl
  unfold Storage.hasDirectory
  rw [run_bind]
  rcases hrun : (Storage.status path : StateM Tree _).run t with ⟨failure | ⟨isDirectory, isFile⟩, asked⟩
  all_goals
    rw [hrun] at hstatus
    exact hstatus

/-- A directory that has been found stands at its path. -/
theorem nodeAt_of_hasDirectory
    (h : (Storage.hasDirectory path : StateM Tree _).run t = (.ok true, after)) :
    after.nodeAt path = .ok .directory := by
  have hafter := run_hasDirectory_snd path t
  rw [h] at hafter
  dsimp only at hafter
  subst hafter
  unfold Storage.hasDirectory at h
  rw [run_bind, run_status] at h
  have hno : ∀ failure : Failure,
      (if Storage.meansAbsent failure then .ok false else .error failure : Except Failure Bool) ≠
        .ok true := by
    intro failure
    split <;> simp
  cases hplan : t.plan.head?.join with
  | some refusal =>
      rw [hplan] at h
      exact absurd (congrArg Prod.fst h) (hno (.refused refusal.reason path))
  | none =>
      rw [hplan] at h
      cases hnode : t.asked.nodeAt path with
      | error failure =>
          rw [hnode] at h
          exact absurd (congrArg Prod.fst h) (hno failure)
      | ok node =>
          cases node with
          | directory =>
              rfl
          | file content =>
              rw [hnode] at h
              cases h

/-- Removing a file without a refusal leaves nothing at its path. -/
theorem nodeAt_of_discard
    (hserved : t.plan.head?.join = none)
    (h : (Storage.discard path : StateM Tree _).run t = (.ok (), after)) :
    after.nodeAt path = .error (.refused .noEntry path) := by
  unfold Storage.discard at h
  rw [run_bind, run_remove, hserved] at h
  dsimp only at h
  cases hremove : t.asked.remove path with
  | ok removed =>
      rw [hremove] at h
      cases h
      exact (touches_remove hremove).2
  | error failure =>
      rw [hremove] at h
      dsimp only at h
      split at h
      · next heq =>
          cases h
          cases heq
          exact nodeAt_of_remove hremove
      · cases h

/-- What a request to remove a file leaves behind: what was absent stays so. -/
theorem run_discard_snd (path : Path) (t : Tree) :
    let left := ((Storage.discard path : StateM Tree _).run t).2
    left.plan = t.plan.tail ∧ ∀ name, t.node? name = none → left.node? name = none := by
  have hremove :
      let left := ((Storage.remove path : StateM Tree _).run t).2
      left.plan = t.plan.tail ∧ ∀ name, t.node? name = none → left.node? name = none := by
    rw [run_remove]
    split
    · exact ⟨rfl, fun _ h => h⟩
    · split
      · next removed hremoved =>
          obtain ⟨name, htarget, _, rfl⟩ := remove_eq_ok hremoved
          refine ⟨rfl, fun other hother => ?_⟩
          rw [node?_erase t.asked other (ne_nil_of_target htarget)]
          split
          · rfl
          · exact hother
      · exact ⟨rfl, fun _ h => h⟩
  unfold Storage.discard
  rw [run_bind]
  split <;> exact hremove

end Answers

/-- Every request between two states of a tree has been served: no refusal was planned for it. -/
def Served (before after : Tree) : Prop :=
  ∃ served, (∀ refusal ∈ served, refusal = none) ∧ before.plan = served ++ after.plan

/-- Where every request has been served, so have been the first one and all that follow it. -/
theorem Served.step
    {before middle after : Tree}
    (h : Served before after)
    (hasked : middle.plan = before.plan.tail)
    (hlater : after.plan <:+ middle.plan) :
    before.plan.head?.join = none ∧ Served middle after := by
  obtain ⟨served, hnone, hplan⟩ := h
  cases served with
  | nil =>
      have hsame : before.plan = after.plan := hplan
      have hempty : before.plan = [] := by
        have hlength := hlater.length_le
        rw [hasked, ← hsame, List.length_tail] at hlength
        exact List.length_eq_zero_iff.mp (by omega)
      refine ⟨by rw [hempty]; rfl, [], by simp, ?_⟩
      rw [hasked, ← hsame, hempty]
      rfl
  | cons refusal rest =>
      obtain rfl := hnone refusal (List.mem_cons_self ..)
      refine ⟨by rw [hplan]; rfl, rest, fun r hr => hnone r (List.mem_cons_of_mem _ hr), ?_⟩
      rw [hasked, hplan]
      rfl

end Tree
end Disk
end CallScript
