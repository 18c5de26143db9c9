import HostLookup.Logs
import HostLookup.Proofs.Sink.Closing

/-!
# Where the logs are

What the program does to the files around it is little: each log is created, and gets its contents
in the end. Nothing else in the tree changes.

* **`FileTree.node?_put`** and **`FileTree.node?_fill`**: one place changes.
* **`Logs.of_openBoth`**: the logs as they are opened, one after the other, and the sinks on them.
* **`Logs.node?_save`**: a regular file keeps what its sink has accepted.
-/

namespace HostLookup

namespace FileTree

variable {tree after : FileTree} {place other : Place} {path : String}

/-- Is there a regular file at a place? -/
def IsRegular (tree : FileTree) (place : Place) : Prop :=
  ∃ bytes, tree.node? place = some (.file bytes)

theorem lookup_map_put (nodes : List (Place × FileNode)) (place other : Place) (node : FileNode) :
    (nodes.map fun entry => if entry.1 = place then (place, node) else entry).lookup other =
      if other = place then (nodes.lookup place).map fun _ => node else nodes.lookup other := by
  induction nodes with
  | nil => simp
  | cons entry rest ih =>
    obtain ⟨at', old⟩ := entry
    by_cases hentry : at' = place
    · subst hentry
      by_cases hother : other = at'
      · subst hother
        simp
      · have hkey : (other == at') = false := beq_eq_false_iff_ne.mpr hother
        simp [List.lookup_cons, hkey, ih, hother]
    · by_cases hother : other = at'
      · subst hother
        simp [hentry]
      · have hkey : (other == at') = false := beq_eq_false_iff_ne.mpr hother
        have hkey' : (place == at') = false := beq_eq_false_iff_ne.mpr (Ne.symm hentry)
        simp [List.lookup_cons, hkey, hkey', ih, hentry]

/-- **One place changes.** The root stays a directory, whatever is put there. -/
theorem node?_put (hplace : place ≠ []) (node : FileNode) :
    (tree.put place node).node? other =
      if other = place then some node else tree.node? other := by
  by_cases hroot : other = []
  · subst hroot
    simp [node?, Ne.symm hplace]
  · simp only [node?, if_neg hroot, put]
    cases hfound : tree.nodes.lookup place with
    | some old =>
      rw [Option.isSome_some, if_pos rfl, lookup_map_put, hfound]
      rfl
    | none =>
      rw [Option.isSome_none, if_neg Bool.false_ne_true, List.lookup_append]
      by_cases hother : other = place
      · subst hother
        simp [hfound]
      · have hkey : (other == place) = false := beq_eq_false_iff_ne.mpr hother
        simp [List.lookup_cons, hkey, hother]

/-- The root is a directory. -/
theorem ne_root {node : Option FileNode} (hnode : tree.node? place = node)
    (hne : node ≠ some .directory) : place ≠ [] := by
  rintro rfl
  exact hne hnode.symm

/-- **A regular file gets its contents**, and nothing else changes. -/
theorem node?_fill (tree : FileTree) (place : Place) (bytes : Bytes) :
    (tree.IsRegular place → (tree.fill place bytes).node? place = some (.file bytes)) ∧
      ∀ other, other ≠ place → (tree.fill place bytes).node? other = tree.node? other := by
  unfold fill
  split
  · next old hnode =>
    have hplace : place ≠ [] := ne_root hnode nofun
    refine ⟨fun _ => ?_, fun other hne => ?_⟩
    · rw [node?_put hplace, if_pos rfl]
    · rw [node?_put hplace, if_neg hne]
  · next hnot =>
    refine ⟨fun ⟨old, hnode⟩ => ?_, fun _ _ => rfl⟩
    exact absurd hnode (hnot old)

/-- To create a file changes nothing but that file. -/
theorem node?_of_create (hcreate : tree.create path = (.ok place, after)) (hne : other ≠ place) :
    after.node? other = tree.node? other := by
  unfold create at hcreate
  split at hcreate
  · cases hcreate
  · split at hcreate
    · cases hcreate
    · split at hcreate
      · cases hcreate
      · -- a device is left as it is
        cases hcreate
        rfl
      · cases hcreate
        rfl
      all_goals
        next hnode =>
          cases hcreate
          have hplace : place ≠ [] := ne_root hnode nofun
          rw [node?_put hplace, if_neg hne]

end FileTree

namespace Logs

variable {logs : Logs} {tree opened : FileTree} {requesterLog resolverLog : String}
  {stdout stderr : Stream} {sink : Sink} {place : Place}

/-- The place of a sink, if it has one. -/
def place? (logs : Logs) : Sink → Option Place
  | .requesterLog => some logs.requesterLog
  | .resolverLog => some logs.resolverLog
  | .stdout | .stderr => none

/-- The logs at two places of a tree, with new sinks on them and on the streams. -/
def ofPlaces (tree : FileTree) (requesterLog resolverLog : Place) (stdout stderr : Stream := {}) :
    Logs where
  sinks := .ofDevices fun
    | .requesterLog => deviceAt tree requesterLog
    | .resolverLog => deviceAt tree resolverLog
    | .stdout => stdout.device
    | .stderr => stderr.device
  requesterLog := requesterLog
  resolverLog := resolverLog

section Opening

variable {mid after : FileTree} {failure : IoFailure} {requesterPlace resolverPlace : Place}
  {path : String}

theorem openLog_of_error (hcreate : tree.create path = (.error failure, after)) :
    openLog tree path = (.error (.io path failure), after) := by
  rw [openLog, hcreate]

theorem openLog_of_ok (hcreate : tree.create path = (.ok place, after)) :
    openLog tree path = (.ok place, after) := by
  rw [openLog, hcreate]

/-- If the first log cannot be opened all files are as they were. -/
theorem openBoth_of_first (hfirst : tree.create requesterLog = (.error failure, after)) :
    openBoth tree requesterLog resolverLog stdout stderr =
      (.error (.io requesterLog failure), tree) := by
  obtain rfl := FileTree.create_of_error hfirst
  rw [openBoth, openLog_of_error hfirst]

/-- If the second log cannot be opened all files are as the first left them. -/
theorem openBoth_of_second (hfirst : tree.create requesterLog = (.ok requesterPlace, mid))
    (hsecond : mid.create resolverLog = (.error failure, after)) :
    openBoth tree requesterLog resolverLog stdout stderr =
      (.error (.io resolverLog failure), mid) := by
  obtain rfl := FileTree.create_of_error hsecond
  simp only [openBoth, openLog_of_ok hfirst, openLog_of_error hsecond]

theorem openBoth_of_both (hfirst : tree.create requesterLog = (.ok requesterPlace, mid))
    (hsecond : mid.create resolverLog = (.ok resolverPlace, opened)) :
    openBoth tree requesterLog resolverLog stdout stderr =
      (.ok (ofPlaces opened requesterPlace resolverPlace stdout stderr), opened) := by
  simp only [openBoth, openLog_of_ok hfirst, openLog_of_ok hsecond]
  rfl

end Opening

/-- Both logs are open, the requesters' first, and the sinks on them are new. -/
structure Opens (tree : FileTree) (requesterLog resolverLog : String) (logs : Logs)
    (opened : FileTree) : Prop where
  files : ∃ mid, tree.create requesterLog = (.ok logs.requesterLog, mid) ∧
    mid.create resolverLog = (.ok logs.resolverLog, opened)
  unclaimed : logs.sinks.destroyed = false
  fresh : ∀ sink, (logs.sinks.get sink).released = false ∧
    (logs.sinks.get sink).device.flushes = 0 ∧ logs.sinks.written sink = []
  /-- The device behind a regular file refuses nothing. -/
  obliging : ∀ sink place, logs.place? sink = some place → opened.IsRegular place →
    (logs.sinks.get sink).device.Obliging

theorem fresh_deviceAt (tree : FileTree) (place : Place) :
    (deviceAt tree place).flushes = 0 ∧ (deviceAt tree place).written = [] := by
  unfold deviceAt
  split <;> exact ⟨rfl, rfl⟩

theorem fresh_device (stream : Stream) :
    stream.device.flushes = 0 ∧ stream.device.written = [] :=
  ⟨rfl, rfl⟩

theorem obliging_deviceAt (hregular : tree.IsRegular place) : (deviceAt tree place).Obliging := by
  obtain ⟨bytes, hnode⟩ := hregular
  rw [deviceAt, hnode]
  exact Device.obliging_file

/-- **The logs as they are opened.** -/
theorem of_openBoth
    (hopen : openBoth tree requesterLog resolverLog stdout stderr = (.ok logs, opened)) :
    Opens tree requesterLog resolverLog logs opened := by
  rcases hfirst : tree.create requesterLog with ⟨failure | requesterPlace, mid⟩
  · cases hopen.symm.trans (openBoth_of_first hfirst)
  rcases hsecond : mid.create resolverLog with ⟨failure | resolverPlace, after⟩
  · cases hopen.symm.trans (openBoth_of_second hfirst hsecond)
  · cases hopen.symm.trans (openBoth_of_both hfirst hsecond)
    refine ⟨⟨mid, hfirst, hsecond⟩, rfl, fun sink => ?_, fun sink place hplace hregular => ?_⟩
    · cases sink with
      | requesterLog | resolverLog => exact ⟨rfl, fresh_deviceAt _ _⟩
      | stdout => exact ⟨rfl, fresh_device stdout⟩
      | stderr => exact ⟨rfl, fresh_device stderr⟩
    · cases sink with
      | requesterLog | resolverLog =>
        cases hplace
        exact obliging_deviceAt hregular
      | stdout | stderr => contradiction

/-- **A regular file keeps what its sink has accepted**, if the other log is elsewhere. -/
theorem node?_save (hdistinct : logs.requesterLog ≠ logs.resolverLog) (sinks : Sinks)
    (hplace : logs.place? sink = some place) (hregular : tree.IsRegular place) :
    (logs.save sinks tree).node? place = some (.file (sinks.contents sink)) := by
  obtain ⟨hfirst, hothers⟩ :=
    FileTree.node?_fill tree logs.requesterLog (sinks.contents .requesterLog)
  obtain ⟨hsecond, hothers'⟩ :=
    FileTree.node?_fill (tree.fill logs.requesterLog (sinks.contents .requesterLog))
      logs.resolverLog (sinks.contents .resolverLog)
  rw [save, if_neg hdistinct]
  cases sink with
  | requesterLog =>
    cases hplace
    rw [hothers' _ hdistinct, hfirst hregular]
  | resolverLog =>
    cases hplace
    obtain ⟨bytes, hnode⟩ := hregular
    exact hsecond ⟨bytes, (hothers _ hdistinct.symm).trans hnode⟩
  | stdout | stderr => contradiction

/-- Nothing but the logs is written. -/
theorem node?_save_of_ne (sinks : Sinks) (hrequester : place ≠ logs.requesterLog)
    (hresolver : place ≠ logs.resolverLog) :
    (logs.save sinks tree).node? place = tree.node? place := by
  unfold save
  split
  · exact (FileTree.node?_fill _ _ _).2 place hrequester
  · rw [(FileTree.node?_fill _ _ _).2 place hresolver]
    exact (FileTree.node?_fill _ _ _).2 place hrequester

end Logs

end HostLookup
