import Uiml.Asset.Fetch
import Uiml.Proofs.Asset.Spot

/-!
# Resources without an extension

A logical resource may be named without its extension. Those of pictures are then tried one after
another, and the first file answers. A name that has an extension is tried as it stands; but if
there is no such file, the known extensions are tried in place of the one that was given, so that
the file that answers may be another one.

## Main definitions

* `Files.content?` — the bytes of the file that a path leads to
* `Assets.firstOf` — the bytes of the first file among some paths

## Main results

* `Files.content?_eq_none` — a path whose last name leads nowhere or up does not lead to a file
* `Assets.readResource_probing` — which paths are tried for a resource
-/

namespace Uiml

namespace Files

variable {files : Files} {here out : List String} {path part : String} {bytes : List UInt8}

/-! ### What a path to a file ends with -/

/-- The bytes of the file that a path leads to, if it leads to one. -/
def content? (files : Files) (path : String) : Option (List UInt8) := (files.read path).toOption

theorem content?_eq_some_iff :
    files.content? path = some bytes ↔ files.resolve path = .ok (.file bytes) := by
  rw [content?, read]
  cases files.resolve path with
  | error fault => simp [Except.toOption]
  | ok entry => cases entry <;> simp [Except.toOption]

theorem isFile_eq (files : Files) (path : String) :
    files.isFile path = (files.content? path).isSome := by
  rw [isFile, content?, read]
  cases files.resolve path with
  | error fault => rfl
  | ok entry => cases entry <;> rfl

/-- Names that have been followed through directories. -/
def Open (files : Files) (here : List String) : Prop :=
  ∀ above, above <+: here → above ≠ here → files.entry? above = some .directory

theorem entry_of_isPrefix (h : here <+: files.start) : files.entry? here = some .directory := by
  have hstart : (files.start :: files.directories).any here.isPrefixOf = true := by
    rw [List.any_cons, List.isPrefixOf_iff_prefix.mpr h, Bool.true_or]
  rw [ entry?, if_pos hstart]

theorem origin_isPrefix (start : List String) (path : String) :
    Path.origin start path <+: start := by
  rw [Path.origin]
  split
  · exact List.nil_prefix
  · exact List.prefix_refl _

theorem open_origin (files : Files) (path : String) :
    files.Open (Path.origin files.start path) :=
  fun _ habove _ => entry_of_isPrefix (habove.trans (origin_isPrefix ..))

/-- What has been reached through directories is in a directory. -/
theorem Open.up (h : files.Open here) (hat : files.entry? here = some .directory) :
    files.entry? here.dropLast = some .directory := by
  by_cases htop : here.dropLast = here
  · rw [htop]
    exact hat
  · exact h _ (List.dropLast_prefix here) htop

theorem Open.enter (h : files.Open here) (hat : files.entry? here = some .directory)
    (name : String) : files.Open (Path.enter here name) := by
  intro above habove hne
  rw [Path.enter] at habove hne
  split at habove
  · next hup =>
    rw [if_pos hup] at hne
    by_cases heq : above = here
    · rw [heq]
      exact hat
    · exact h above (habove.trans (List.dropLast_prefix here)) heq
  · next hup =>
    rw [if_neg hup] at hne
    have habove := (List.prefix_concat_iff.mp habove).resolve_left hne
    by_cases heq : above = here
    · rw [heq]
      exact hat
    · exact h above habove heq

/-- A walk whose last part leads nowhere or up ends in a directory. -/
theorem directory_of_walk {parts : List String} (hopen : files.Open here)
    (hpart : part = "" ∨ part = "." ∨ part = "..")
    (h : files.walk here (parts ++ [part]) = .ok out) : files.entry? out = some .directory := by
  -- along the walk the names stay open, so that two dots find a directory to lead up to
  induction parts generalizing here with
  | nil =>
    obtain ⟨hat, ⟨-, hend⟩ | ⟨hleads, hend⟩⟩ := walk_cons h
    · cases hend
      exact hat
    · rcases hpart with rfl | rfl | rfl
      · cases hleads
      · cases hleads
      · cases hend
        exact hopen.up hat
  | cons name rest ih =>
    obtain ⟨hat, ⟨-, hrest⟩ | ⟨-, hrest⟩⟩ := walk_cons h
    · exact ih hopen hrest
    · exact ih (hopen.enter hat name) hrest

/-- A path whose last part leads nowhere or up does not lead to a file. -/
theorem content?_eq_none (h : Path.LastPart path part)
    (hpart : part = "" ∨ part = "." ∨ part = "..") : files.content? path = none := by
  obtain ⟨parts, hparts⟩ : ∃ parts,
      (path.toList.splitOn '/').map String.ofList = parts ++ [part] := by
    rcases h.2 with rfl | ⟨before, rfl⟩
    · exact ⟨[], by simp [List.splitOn_eq_singleton h.1]⟩
    · refine ⟨(before.toList.splitOn '/').map String.ofList, ?_⟩
      have htext : (before ++ "/" ++ part).toList = before.toList ++ '/' :: part.toList := by simp
      rw [htext, List.splitOn_append_cons_self, List.splitOn_eq_singleton h.1]
      simp
  rw [Option.eq_none_iff_forall_ne_some]
  intro bytes hbytes
  obtain ⟨names, hwalk, hentry⟩ := exists_walk (content?_eq_some_iff.mp hbytes)
  rw [hparts] at hwalk
  have hdirectory := directory_of_walk (files.open_origin path) hpart hwalk
  rw [hentry] at hdirectory
  cases hdirectory

end Files

namespace Assets

open Uiml.Path

variable {assets : Assets} {name path front last tail extension : String}

/-! ### The first file among paths -/

/-- The bytes of the first file among the paths of a resource. -/
def firstOf (assets : Assets) (name : String) (paths : List String) :
    Except FetchError (List UInt8) :=
  match paths.findSome? assets.files.content? with
  | some bytes => .ok bytes
  | none => .error (.resourceNotFound name)

theorem readResource_eq (assets : Assets) (name : String) :
    assets.readResource name = assets.firstOf name (assets.resourcePaths name) := by
  rw [readResource, firstOf]
  induction assets.resourcePaths name with
  | nil => rfl
  | cons path paths ih =>
    rw [List.find?_cons, List.findSome?_cons, Files.isFile_eq]
    cases hcontent : assets.files.content? path with
    | none => exact ih
    | some bytes =>
      have hread : assets.files.read path = .ok bytes := by
        rw [Files.read, Files.content?_eq_some_iff.mp hcontent]
      simp only [Option.isSome_some, readFile, hread]
      rfl

theorem firstOf_eq_error_iff {paths : List String} :
    assets.firstOf name paths = .error (.resourceNotFound name) ↔
      ∀ path ∈ paths, assets.files.content? path = none := by
  rw [firstOf, ← List.findSome?_eq_none_iff]
  split
  · next bytes hsome => simp [hsome]
  · next hnone => simp [hnone]

theorem firstOf_cons_of_none (h : assets.files.content? path = none) (others : List String) :
    assets.firstOf name (path :: others) = assets.firstOf name others := by
  rw [firstOf, List.findSome?_cons, h, firstOf]

/-- A path answers for others after it if it leads to a file, or none of them does. -/
theorem firstOf_cons_eq_iff {others : List String} :
    assets.firstOf name (path :: others) = assets.firstOf name [path] ↔
      (assets.files.content? path).isSome ∨
        ∀ other ∈ others, assets.files.content? other = none := by
  cases hcontent : assets.files.content? path with
  | some bytes => simp [firstOf, hcontent]
  | none =>
    have hsingle : assets.firstOf name [path] = .error (.resourceNotFound name) :=
      firstOf_eq_error_iff.mpr (by simpa using hcontent)
    rw [firstOf_cons_of_none hcontent, hsingle, firstOf_eq_error_iff]
    simp

/-- The path of a resource as it is named. -/
def named (assets : Assets) (name : String) : String := join assets.resourceRoot (relative name)

theorem components_named (assets : Assets) (name : String) :
    components (assets.named name) = components assets.resourceRoot ++ components name := by
  rw [named, components_join, components_relative]

theorem resourcePaths_eq (assets : Assets) (name : String) :
    assets.resourcePaths name =
      (if (extension? (assets.named name)).isSome then [assets.named name] else []) ++
        probedExtensions.map (withExtension (assets.named name)) := rfl

/-! ### Which paths are tried -/

/-- The paths with each of the known extensions after a text. -/
def extended (assets : Assets) (stem : String) : List String :=
  probedExtensions.map fun extension => join assets.resourceRoot (stem ++ "." ++ extension)

theorem map_withExtension (h : EndsIn (relative name) front last tail) (hup : last ≠ "..") :
    probedExtensions.map (withExtension (assets.named name)) =
      assets.extended (front ++ (cutName last).1) := by
  refine List.map_congr_left fun extension _ => ?_
  rw [named, (h.join assets.resourceRoot).withExtension_eq hup, join_append, join_append,
    join_append]

theorem resourcePaths_of_endsIn (h : EndsIn (relative name) front last tail) (hup : last ≠ "..") :
    assets.resourcePaths name =
      (if (cutName last).2.isSome then [assets.named name] else []) ++
        assets.extended (front ++ (cutName last).1) := by
  rw [resourcePaths_eq, map_withExtension h hup, named,
    (h.join assets.resourceRoot).extension?_eq hup]

theorem content?_of_fileName? (h : fileName? path = none) : assets.files.content? path = none := by
  obtain ⟨part, hpart⟩ := exists_lastPart path
  exact Files.content?_eq_none hpart (hpart.of_fileName? h)

/-- Where the path of a resource has no last name, there is nothing but that path to try, and it
does not lead to a file. -/
theorem readResource_of_fileName? (h : fileName? (assets.named name) = none) :
    assets.readResource name = .error (.resourceNotFound name) := by
  rw [readResource_eq, firstOf_eq_error_iff, resourcePaths_eq, extension?_of_none h]
  intro path hpath
  obtain ⟨extension, -, rfl⟩ : ∃ extension ∈ probedExtensions,
      withExtension (assets.named name) extension = path := by simpa using hpath
  rw [withExtension_of_none h]
  exact content?_of_fileName? h

/-- A resource whose name has no names leads to the files beside the directory of resources. -/
theorem readResource_of_components (h : components name = []) :
    assets.readResource name =
      assets.firstOf name (probedExtensions.map (withExtension assets.resourceRoot)) := by
  have hrelative : components (relative name) = [] := by rw [components_relative, h]
  cases hroot : fileName? assets.resourceRoot with
  | none =>
    have hnamed : fileName? (assets.named name) = none := by
      rw [fileName?_eq_none_iff] at hroot ⊢
      rwa [components_named, h, List.append_nil]
    rw [readResource_of_fileName? hnamed, eq_comm, firstOf_eq_error_iff]
    intro path hpath
    obtain ⟨extension, -, rfl⟩ := List.mem_map.mp hpath
    rw [withExtension_of_none hroot]
    exact content?_of_fileName? hroot
  | some last =>
    obtain ⟨front, tail, hends, hup⟩ := exists_endsIn_of_fileName? hroot
    obtain ⟨tail', hnamed⟩ := hends.join_idle hrelative
    have hothers : probedExtensions.map (withExtension (assets.named name)) =
        probedExtensions.map (withExtension assets.resourceRoot) := by
      refine List.map_congr_left fun extension _ => ?_
      rw [named, hnamed.withExtension_eq hup, hends.withExtension_eq hup]
    rw [readResource_eq, resourcePaths_eq, hothers]
    split
    · -- the path as named ends with a slash, or with a slash and a dot
      obtain ⟨part, hpart⟩ := exists_lastPart (relative name)
      have hidle := hpart.of_components hrelative
      have hcontent : assets.files.content? (assets.named name) = none :=
        Files.content?_eq_none (hpart.join _) (hidle.imp_right .inl)
      rw [List.singleton_append, firstOf_cons_of_none hcontent]
    · rw [List.nil_append]

/-- The paths that are tried for a resource. Without an extension they are its name with each of the
known ones. With an extension they are the name itself, and then those with a known extension in
place of its own; that gives the answer of the name itself exactly if that leads to a file, or none
of the others does. -/
theorem readResource_probing (assets : Assets) (name : String) :
    (∀ front last tail, EndsIn (relative name) front last tail → last ≠ ".." →
      ((cutName last).2 = none →
        assets.readResource name = assets.firstOf name (assets.extended (front ++ last))) ∧
      ∀ stem extension, cutName last = (stem, some extension) →
        assets.readResource name =
          assets.firstOf name (assets.named name :: assets.extended (front ++ stem)) ∧
        (assets.readResource name = assets.firstOf name [assets.named name] ↔
          (assets.files.content? (assets.named name)).isSome ∨
            ∀ path ∈ assets.extended (front ++ stem), assets.files.content? path = none)) ∧
    (∀ front tail, EndsIn (relative name) front ".." tail →
      assets.readResource name = .error (.resourceNotFound name)) ∧
    (components name = [] →
      assets.readResource name =
        assets.firstOf name (probedExtensions.map (withExtension assets.resourceRoot))) := by
  refine ⟨fun front last tail h hup => ⟨?_, ?_⟩, ?_, readResource_of_components⟩
  · intro hbare
    have hstem : (cutName last).1 = last := cutName_eq_none (Prod.ext rfl hbare)
    rw [readResource_eq, resourcePaths_of_endsIn h hup, hbare, hstem]
    rfl
  · intro stem extension hcut
    have hpaths : assets.readResource name =
        assets.firstOf name (assets.named name :: assets.extended (front ++ stem)) := by
      rw [readResource_eq, resourcePaths_of_endsIn h hup, hcut]
      rfl
    exact ⟨hpaths, by rw [hpaths, firstOf_cons_eq_iff]⟩
  · intro front tail h
    refine readResource_of_fileName? (fileName?_eq_none_iff.mpr (.inr ?_))
    rw [components_named, ← components_relative name, h.components_eq, ← List.append_assoc,
      List.getLast?_concat]

/-- A directory of resources with one picture in it, whose extension is not the first that is
tried. -/
def starred : Assets :=
  { files := .ofList [("assets/star.jpg", [106, 112, 103])], resourceRoot := "assets" }

/-- A picture that is named with an extension is looked for with the other ones. -/
theorem readResource_probing_star :
    EndsIn (relative "star.png") "" "star.png" "" ∧ "star.png" ≠ ".." ∧
      cutName "star.png" = ("star", some "png") ∧
      starred.readResource "star.png" =
        starred.firstOf "star.png" ["assets/star.png", "assets/star.png", "assets/star.jpg",
          "assets/star.jpeg"] := by
  have hends : EndsIn (relative "star.png") "" "star.png" "" :=
    ⟨by decide +kernel, .inl rfl, by decide +kernel, by decide +kernel, .nil⟩
  have hcut : cutName "star.png" = ("star", some "png") := by decide +kernel
  obtain ⟨-, hextended⟩ := (readResource_probing starred "star.png").1 _ _ _ hends (by decide)
  have hothers : starred.named "star.png" :: starred.extended ("" ++ "star") =
      ["assets/star.png", "assets/star.png", "assets/star.jpg", "assets/star.jpeg"] := by
    decide +kernel
  exact ⟨hends, by decide, hcut, by rw [(hextended _ _ hcut).1, hothers]⟩

-- the directory of resources may be given from the topmost one, or lead up from where paths start
example : ∀ root ∈ ["/home/assets", "../assets", "empty/../../assets"],
    (readResource
      { files :=
          { start := ["home", "user"]
            directories := [["home", "user", "empty"]]
            contents := .ofList [(["home", "assets", "star.jpg"], [1])] }
        resourceRoot := root } "star").toOption = some [1] := by
  decide +kernel

/-- There is no picture of the name that is asked for, and another one answers. -/
theorem readResource_star :
    extension? "star.png" = some "png" ∧
      starred.files.isFile (starred.named "star.png") = false ∧
      (starred.readResource "star.png").toOption = some [106, 112, 103] ∧
      starred.readResource "star.png" ≠ starred.firstOf "star.png" [starred.named "star.png"] := by
  have hread : (starred.readResource "star.png").toOption = some [106, 112, 103] := by
    decide +kernel
  have hnamed : (starred.firstOf "star.png" [starred.named "star.png"]).toOption = none := by
    decide +kernel
  refine ⟨by decide +kernel, by decide +kernel, hread, fun heq => ?_⟩
  rw [heq, hnamed] at hread
  cases hread

end Assets

end Uiml
