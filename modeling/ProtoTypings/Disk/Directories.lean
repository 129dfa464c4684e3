import ProtoTypings.Disk.Basic

/-!
# Making directories

A directory is made together with the directories that enclose it. The enclosing path is found on
the path text alone, by cutting off its last part; it is made first where nothing stands there. A
directory that is there already is no fault, but a file in its place is.
-/

namespace ProtoTypings

/-- A path text cut before its last part: the path that encloses it, and the part. Slashes at the
end of either are left out, except where the enclosing path has nothing else. -/
def Text.splitLastPart (path : Text) : Text × Text :=
  let core := Text.trimEnd (· == '/') path
  let part := core.reverse.takeWhile (· != '/')
  let before := (core.reverse.dropWhile (· != '/')).reverse
  (if before.all (· == '/') then before else Text.trimEnd (· == '/') before, part.reverse)

theorem Text.length_trimEnd_le (drops : Char → Bool) (text : Text) :
    (text.trimEnd drops).length ≤ text.length := by
  have := (List.dropWhile_sublist (l := text.reverse) (p := drops)).length_le
  simpa [trimEnd] using this

theorem Text.length_splitLastPart_lt {path : Text} (h : path.splitLastPart.2 ≠ []) :
    path.splitLastPart.1.length < path.length := by
  have hCore := Text.length_trimEnd_le (· == '/') path
  generalize hc : Text.trimEnd (· == '/') path = core at hCore
  have hParts := congrArg List.length
    (List.takeWhile_append_dropWhile (p := (· != '/')) (l := core.reverse))
  simp only [List.length_append, List.length_reverse] at hParts
  simp only [Text.splitLastPart, hc, ne_eq, List.reverse_eq_nil_iff] at h ⊢
  have hPart := List.length_pos_iff.2 h
  have hBefore := Text.length_trimEnd_le (· == '/') (core.reverse.dropWhile (· != '/')).reverse
  simp only [List.length_reverse] at hBefore
  split
  · simp only [List.length_reverse]
    omega
  · omega

/-- Whether a fault keeps a directory from being made inside one that could not be made itself.
Something that stands in the place of the enclosing directory does not yet do so. -/
def DiskFault.blocks : DiskFault → Bool
  | .refused .exists _ => false
  | _ => true

namespace Disk

/-- Makes a directory in an existing one. -/
def makeDirectory (disk : Disk) (workplace : Place) (path : Text) : Except DiskFault Disk := do
  match ← disk.locate workplace path with
  | .found _ _ => throw (.refused .exists path)
  | .vacant place => return disk.put place .directory

/-- Makes a directory in an existing one, unless it is there already. -/
def ensureDirectory (disk : Disk) (workplace : Place) (path : Text) :
    Disk × Except DiskFault Unit :=
  match disk.makeDirectory workplace path with
  | .ok made => (made, .ok ())
  | .error .nullInPath => (disk, .error .nullInPath)
  | .error fault => (disk, if disk.isDirectory workplace path then .ok () else .error fault)

/-- Makes a directory and those that enclose it, as far as they are not there already. What has
been made before a fault stays. Where the enclosing path turns out to lead to something once the
directories in front of it are made, the directory is still tried. -/
def makeDirectories (disk : Disk) (workplace : Place) (path : Text) :
    Disk × Except DiskFault Unit :=
  if _h : path.splitLastPart.2 ≠ [] then
    let (enclosing, part) := path.splitLastPart
    if enclosing = [] ∨ disk.holds workplace enclosing then disk.ensureDirectory workplace path
    else
      let goOn (made : Disk) : Disk × Except DiskFault Unit :=
        if part = ['.'] then (made, .ok ()) else made.ensureDirectory workplace path
      match disk.makeDirectories workplace path.splitLastPart.1 with
      | (made, .ok ()) => goOn made
      | (made, .error fault) => if fault.blocks then (made, .error fault) else goOn made
  else disk.ensureDirectory workplace path
termination_by path.length
decreasing_by exact Text.length_splitLastPart_lt _h

end Disk

end ProtoTypings
