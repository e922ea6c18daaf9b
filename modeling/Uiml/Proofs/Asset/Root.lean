import Uiml.Proofs.Asset.Probing

/-!
# The directory of logical resources

The paths of a logical resource start from the directory of resources, but two dots in its name lead
up, and a name without names is taken for that of the directory itself. A path therefore leads to
that directory or below it exactly if the names before its last one do, or it happens to lead back.

## Main definitions

* `Assets.resource?` — the logical resource that is asked for
* `Path.folder` — the names that lead to the directory of a path

## Main results

* `Assets.holds_spot_iff` — which paths of a resource are in the directory of resources
* `Assets.resource_within` — the same for all that can be asked for, and for what is found
-/

namespace Uiml

namespace Path

variable {path front last tail : String}

/-- The names that lead to the directory that a path is in: all but the last one, unless that leads
up. -/
def folder (path : String) : List String :=
  if (fileName? path).isSome then (components path).dropLast else components path

theorem folder_of_none (h : fileName? path = none) : folder path = components path := by
  rw [folder, h]
  rfl

theorem folder_of_concat {names : List String} (h : components path = names ++ [last])
    (hup : last ≠ "..") : folder path = names := by
  have hname : fileName? path = some last := by
    rw [fileName?, h, List.getLast?_concat]
    simp [hup]
  rw [folder, hname, h, Option.isSome_some, if_pos rfl, List.dropLast_concat]

/-- The spot of a path that is joined to another one, if it has no slash at its start. -/
theorem spot_join (base : String) (h : path.toList.head? ≠ some '/') :
    spot (join base path) = (spot base).follow (components path) := by
  have htop : decide ((join base path).toList.head? = some '/') =
      decide (base.toList.head? = some '/') := decide_eq_decide.mpr (head?_join h)
  rw [spot, spot, htop, components_join, Spot.follow_append]

/-- A path with a last name is in a directory. -/
theorem EndsIn.spot_eq (h : EndsIn path front last tail) (hup : last ≠ "..") :
    spot path = (spot front).down [last] := by
  have htop : decide (path.toList.head? = some '/') = decide (front.toList.head? = some '/') :=
    decide_eq_decide.mpr h.head?_iff
  rw [spot, spot, htop, h.components_eq, Spot.follow_concat, Spot.enter_of_ne_up hup]

end Path

namespace Assets

open Uiml.Path

variable {assets : Assets} {kind : SourceKind} {source name path : String} {bytes : List UInt8}

theorem isExtension_of_mem {extension : String} (h : extension ∈ probedExtensions) :
    IsExtension extension := by
  simp only [probedExtensions, List.mem_cons, List.not_mem_nil, or_false] at h
  rcases h with rfl | rfl | rfl <;> exact ⟨by decide, by decide, by decide⟩

theorem mem_resourcePaths (h : path ∈ assets.resourcePaths name) :
    path = assets.named name ∨
      ∃ extension ∈ probedExtensions, path = withExtension (assets.named name) extension := by
  rw [resourcePaths_eq, List.mem_append] at h
  rcases h with h | h
  · split at h
    · exact .inl (List.mem_singleton.mp h)
    · cases h
  · obtain ⟨extension, hextension, rfl⟩ := List.mem_map.mp h
    exact .inr ⟨extension, hextension, rfl⟩

theorem eq_named (hpath : path ∈ assets.resourcePaths name)
    (h : fileName? (assets.named name) = none) : path = assets.named name := by
  rcases mem_resourcePaths hpath with hnamed | ⟨extension, -, hextension⟩
  · exact hnamed
  · rw [hextension, withExtension_of_none h]

/-- Each path of a resource has the same names before its last one. -/
theorem exists_last {front last tail : String} (hpath : path ∈ assets.resourcePaths name)
    (h : EndsIn (assets.named name) front last tail) (hup : last ≠ "..") :
    ∃ last' tail', EndsIn path front last' tail' ∧ last' ≠ ".." := by
  rcases mem_resourcePaths hpath with rfl | ⟨extension, hextension, rfl⟩
  · exact ⟨last, tail, h, hup⟩
  · have hextension := isExtension_of_mem hextension
    exact ⟨_, _, h.withExtension_endsIn hup hextension, hextension.append_ne_up _⟩

theorem spot_named (assets : Assets) (name : String) :
    spot (assets.named name) = (spot assets.resourceRoot).follow (components name) := by
  rw [named, spot_join _ (head?_relative name), components_relative]

/-- A name without names gives paths beside the directory of resources, if not that directory
itself. -/
theorem holds_spot_iff_of_nil (hpath : path ∈ assets.resourcePaths name)
    (hempty : components name = []) :
    (spot assets.resourceRoot).Holds (spot path) ↔ spot path = spot assets.resourceRoot := by
  have hroot : spot (assets.named name) = spot assets.resourceRoot := by
    rw [spot_named, hempty]
    rfl
  cases hnamed : fileName? (assets.named name) with
  | none =>
    rw [eq_named hpath hnamed, hroot]
    exact iff_of_true (.refl _) rfl
  | some last =>
    obtain ⟨front, tail, hends, hup⟩ := exists_endsIn_of_fileName? hnamed
    obtain ⟨last', tail', hends', hup'⟩ := exists_last hpath hends hup
    rw [hends'.spot_eq hup', Spot.holds_down_iff, ← hroot, hends.spot_eq hup]
    -- what is in a directory does not hold the directory
    exact or_iff_left Spot.not_holds_down

/-- A name that leads up at its end has no last name that an extension could replace. -/
theorem spot_of_up {front : List String} (hpath : path ∈ assets.resourcePaths name)
    (hlast : components name = front ++ [".."]) :
    spot path = (spot assets.resourceRoot).follow (folder name) := by
  have hname : fileName? name = none :=
    fileName?_eq_none_iff.mpr (.inr (by rw [hlast, List.getLast?_concat]))
  have hnamed : fileName? (assets.named name) = none :=
    fileName?_eq_none_iff.mpr (.inr (by
      rw [components_named, hlast, ← List.append_assoc, List.getLast?_concat]))
  rw [eq_named hpath hnamed, spot_named, folder_of_none hname]

/-- If the last name does not lead up, all paths are in the directory that those before it lead
to. -/
theorem exists_spot_eq_down {front : List String} {last : String}
    (hpath : path ∈ assets.resourcePaths name) (hlast : components name = front ++ [last])
    (hup : last ≠ "..") : ∃ last',
      spot path = ((spot assets.resourceRoot).follow (folder name)).down [last'] := by
  obtain ⟨before, last', tail, hends⟩ : ∃ before last' tail,
      EndsIn (assets.named name) before last' tail :=
    exists_endsIn (by simp [components_named, hlast])
  have hlasts := hends.components_eq
  rw [components_named, hlast, ← List.append_assoc] at hlasts
  obtain ⟨hbefore, hlasts⟩ := List.append_inj' hlasts rfl
  cases hlasts
  obtain ⟨last', tail', hends', hup'⟩ := exists_last hpath hends hup
  have hfolder : spot before = (spot assets.resourceRoot).follow (folder name) := by
    have htop : decide (before.toList.head? = some '/') =
        decide (assets.resourceRoot.toList.head? = some '/') :=
      decide_eq_decide.mpr (hends.head?_iff.symm.trans (head?_join (head?_relative name)))
    rw [spot, htop, ← hbefore, Spot.follow_append, folder_of_concat hlast hup]
    rfl
  exact ⟨last', by rw [hends'.spot_eq hup', hfolder]⟩

/-- A path of a resource leads to the directory of resources or below it exactly if the names before
its last one do, or it leads back to that directory itself. -/
theorem holds_spot_iff (hpath : path ∈ assets.resourcePaths name) :
    (spot assets.resourceRoot).Holds (spot path) ↔
      spot path = spot assets.resourceRoot ∨
        components name ≠ [] ∧
          (spot assets.resourceRoot).Holds ((spot assets.resourceRoot).follow (folder name)) := by
  by_cases hempty : components name = []
  · rw [holds_spot_iff_of_nil hpath hempty]
    simp [hempty]
  · obtain ⟨front, last, hlast⟩ := (List.eq_nil_or_concat (components name)).resolve_left hempty
    rw [List.concat_eq_append] at hlast
    simp only [hempty, ne_eq, not_false_eq_true, true_and]
    by_cases hup : last = ".."
    · subst hup
      rw [spot_of_up hpath hlast]
      refine ⟨.inr, ?_⟩
      rintro (hroot | hholds)
      · rw [hroot]
        exact .refl _
      · exact hholds
    · obtain ⟨last', hspot⟩ := exists_spot_eq_down hpath hlast hup
      rw [hspot, Spot.holds_down_iff]

/-! ### What is asked for -/

/-- The logical resource that is asked for, by its name or by an address that is not a server's. -/
def resource? (assets : Assets) (kind : SourceKind) (source : String) : Option String :=
  match kind with
  | .logicalResource => some source
  | .managedAddress => (assets.addressables.get? source).filter fun location => !isUrl location
  | .localFile | .bundledAsset | .remoteUrl => none

theorem eq_of_resource? (h : assets.resource? kind source = some name) :
    assets.paths kind source = assets.resourcePaths name ∧
      assets.fetch kind source = assets.readResource name := by
  cases kind with
  | localFile | bundledAsset | remoteUrl => cases h
  | logicalResource =>
    cases h
    exact ⟨rfl, rfl⟩
  | managedAddress =>
    obtain ⟨hget, hurl⟩ := Option.filter_eq_some_iff.mp h
    have hurl : isUrl name = false := by simpa using hurl
    rw [paths, fetch, hget]
    simp [hurl]

/-- What a resource holds is the content of the file that one of its paths leads to. -/
theorem exists_file (h : assets.readResource name = .ok bytes) :
    ∃ path ∈ assets.resourcePaths name,
      assets.files.contents.get? (place assets.files.start path) = some bytes := by
  rw [readResource_eq, firstOf] at h
  split at h
  · next found hfound =>
    cases h
    obtain ⟨path, hpath, hcontent⟩ := List.exists_of_findSome?_eq_some hfound
    exact ⟨path, hpath, Files.contents_of_resolve (Files.content?_eq_some_iff.mp hcontent)⟩
  · cases h

/-- A path below the directory of resources leads to a place below that of the directory, wherever
paths start from. -/
theorem place_isPrefix (h : (spot assets.resourceRoot).Holds (spot path)) (start : List String) :
    place start assets.resourceRoot <+: place start path := by
  rw [place_eq, place_eq]
  exact h.namesFrom start

/-- A path that is tried for a logical resource is in the directory of resources exactly if the
names before the last one lead there, or the path leads back to it. All paths are, if the name has
names, and those before the last one do not lead above their start. What is found is the content of
the file at the place of one of the paths, which is below the place of the directory if the path
is. -/
theorem resource_within (h : assets.resource? kind source = some name) :
    (∀ path ∈ assets.paths kind source,
      (spot assets.resourceRoot).Holds (spot path) ↔
        spot path = spot assets.resourceRoot ∨
          components name ≠ [] ∧
            (spot assets.resourceRoot).Holds ((spot assets.resourceRoot).follow (folder name))) ∧
      (components name ≠ [] → (Spot.way (folder name)).above = 0 →
        ∀ path ∈ assets.paths kind source, (spot assets.resourceRoot).Holds (spot path)) ∧
      ∀ bytes, assets.fetch kind source = .ok bytes →
        ∃ path ∈ assets.paths kind source,
          assets.files.contents.get? (place assets.files.start path) = some bytes ∧
            ((spot assets.resourceRoot).Holds (spot path) →
              place assets.files.start assets.resourceRoot <+: place assets.files.start path) := by
  obtain ⟨hpaths, hfetch⟩ := eq_of_resource? h
  rw [hpaths, hfetch]
  refine ⟨fun path hpath => holds_spot_iff hpath, fun hempty habove path hpath => ?_,
    fun bytes hbytes => ?_⟩
  · exact (holds_spot_iff hpath).mpr (.inr ⟨hempty, Spot.holds_follow _ habove⟩)
  · obtain ⟨path, hpath, hcontent⟩ := exists_file hbytes
    exact ⟨path, hpath, hcontent, fun hholds => place_isPrefix hholds _⟩

/-- A directory of resources with a picture in it, given from the topmost directory, and a file next
to it. Paths start from somewhere else. -/
def rooted : Assets :=
  { files := .ofList [("/srv/assets/star.png", [1]), ("/srv/secret.png", [2])] ["home", "user"]
    resourceRoot := "/srv/assets"
    addressables := .ofList [("ui/star", "star")] }

/-- The picture at an address is looked for in the directory of resources only, and found there. -/
theorem resource_within_address :
    rooted.resource? .managedAddress "ui/star" = some "star" ∧
      (∀ path ∈ rooted.paths .managedAddress "ui/star",
        (spot rooted.resourceRoot).Holds (spot path)) ∧
      rooted.fetch .managedAddress "ui/star" = .ok [1] ∧
      ∃ path ∈ rooted.paths .managedAddress "ui/star",
        rooted.files.contents.get? (place rooted.files.start path) = some [1] ∧
          ["srv", "assets"] <+: place rooted.files.start path := by
  have h : rooted.resource? .managedAddress "ui/star" = some "star" := by decide +kernel
  have hfetch : rooted.fetch .managedAddress "ui/star" = .ok [1] := by decide +kernel
  obtain ⟨-, hall, hfound⟩ := resource_within h
  have hholds := hall (by decide +kernel) (by decide +kernel)
  obtain ⟨path, hpath, hcontent, hbelow⟩ := hfound _ hfetch
  exact ⟨h, hholds, hfetch, path, hpath, hcontent, hbelow (hholds path hpath)⟩

/-- A picture in the directory of resources, and a file next to that directory. -/
def secretive : Assets :=
  { files := .ofList [("assets/star.png", [1]), ("secret.png", [2])], resourceRoot := "assets" }

/-- A name that leads up finds a file that is not in the directory of resources. -/
theorem resource_secret :
    secretive.resource? .logicalResource "../secret.png" = some "../secret.png" ∧
      (∃ path ∈ secretive.paths .logicalResource "../secret.png",
        ¬ (spot secretive.resourceRoot).Holds (spot path) ∧
          secretive.files.contents.get? (place secretive.files.start path) = some [2] ∧
          ¬ place secretive.files.start secretive.resourceRoot <+:
            place secretive.files.start path) ∧
      secretive.fetch .logicalResource "../secret.png" = .ok [2] := by
  refine ⟨rfl, ⟨"assets/../secret.png", ?_, ?_, ?_, ?_⟩, ?_⟩ <;> decide +kernel

end Assets

end Uiml
