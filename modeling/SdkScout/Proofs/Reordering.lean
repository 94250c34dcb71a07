import Mathlib.Data.List.Forall2
import SdkScout.Proofs.Applications
import SdkScout.Proofs.Walk

/-!
# The order of listings

Two trees are reorderings of each other if they differ only in the order in which their directories
deliver the entries (`Node.Reordered`). The same path then leads to reorderings in both, or meets the
same obstacle (`World.Reordered.find`). So files have the same contents, tests have the same outcome,
and a listing has the same entries in some order. What is sorted after it has been listed, such as
applications and platform directories, is the same in both.
-/

namespace SdkScout

namespace Node

/-- Trees that differ only in the order in which directories deliver their entries. -/
inductive Reordered : Node → Node → Prop
  | file (content : Except Refusal (List UInt8)) : Reordered (.file content) (.file content)
  | link (target : String) : Reordered (.link target) (.link target)
  | directory (access : Access) {entries entries' : List (Path.Component × Node)} :
    (names entries).Perm (names entries') →
    (∀ name node node', entry? name entries = some node → entry? name entries' = some node' →
      Reordered node node') →
    Reordered (.directory access entries) (.directory access entries')
  | sealed (refusal : Refusal) : Reordered (.sealed refusal) (.sealed refusal)

variable {name : String} {entries entries' : List (Path.Component × Node)} {node node' : Node}

namespace Reordered

theorem refl : (node : Node) → node.Reordered node
  | .file content => .file content
  | .link target => .link target
  | .sealed refusal => .sealed refusal
  | .directory access entries => .directory access (.refl _) fun name node node' h h' => by
    obtain ⟨c, -, hmem⟩ := exists_mem_of_entry? h
    have hlt : sizeOf node < sizeOf (Node.directory access entries) := by
      have hentry := List.sizeOf_lt_of_mem hmem
      simp only [Prod.mk.sizeOf_spec, directory.sizeOf_spec] at hentry ⊢
      omega
    cases h.symm.trans h'
    exact refl node
termination_by node => sizeOf node
decreasing_by exact hlt

theorem symm (h : node.Reordered node') : node'.Reordered node := by
  induction h with
  | file content => exact .file content
  | link target => exact .link target
  | directory access hnames _ ih =>
    exact .directory access hnames.symm fun name _ _ h h' => ih name _ _ h' h
  | sealed refusal => exact .sealed refusal

/-- A name leads to reorderings in both directories, or is missing in both. -/
theorem entry? {access : Access}
    (h : (Node.directory access entries).Reordered (.directory access entries')) (name : String) :
    Option.Rel Reordered ( Node.entry? name entries) ( Node.entry? name entries') := by
  cases h with
  | directory access hnames hentries =>
    have hmissing : Node.entry? name entries = none ↔ Node.entry? name entries' = none := by
      simp only [entry?_eq_none_iff, hnames.mem_iff]
    cases hentry : Node.entry? name entries with
    | none =>
      rw [hmissing.mp hentry]
      exact .none
    | some node =>
      cases hentry' : Node.entry? name entries' with
      | none => simp [hmissing.mpr hentry'] at hentry
      | some node' => exact .some (hentries name node node' hentry hentry')

/-- A directory may deliver its entries in any order, and each of them may be reordered in turn. -/
theorem of_perm (access : Access) (hperm : (entries.map (·.1)).Perm (entries'.map (·.1)))
    (hentries : ∀ c node node', (c, node) ∈ entries → (c, node') ∈ entries' →
      node.Reordered node') :
    (Node.directory access entries).Reordered (.directory access entries') := by
  have hnames : ∀ es : List (Path.Component × Node), (names es).Nodup ∧
      ∀ c, c ∈ names es ↔ c ∈ es.map (·.1) := fun es =>
    ⟨List.nodup_eraseDups _, fun c => List.mem_eraseDups⟩
  refine .directory access ?_ fun name node node' h h' => ?_
  · refine (List.perm_ext_iff_of_nodup (hnames entries).1 (hnames entries').1).mpr fun c => ?_
    rw [(hnames entries).2, (hnames entries').2, hperm.mem_iff]
  · obtain ⟨c, hc, hmem⟩ := exists_mem_of_entry? h
    obtain ⟨c', hc', hmem'⟩ := exists_mem_of_entry? h'
    cases Path.Component.text_injective (hc.trans hc'.symm)
    exact hentries c node node' hmem hmem'

theorem singleton (access : Access) (c : Path.Component) (h : node.Reordered node') :
    (Node.directory access [(c, node)]).Reordered (.directory access [(c, node')]) := by
  refine .of_perm access (.refl _) fun c n n' hn hn' => ?_
  cases List.mem_singleton.mp hn
  cases List.mem_singleton.mp hn'
  exact h

end Reordered

/-! ## Walks -/

section
variable {top top' here here' : Node} {above above' : List Node} {followLast : Bool}

/-- A walk meets the same obstacle in a reordering, or arrives at reorderings. -/
theorem walkWith_reordered {follow follow' : Node → List Node → List String → Except Obstacle Node}
    (htop : top.Reordered top')
    (hfollow : ∀ here here' above above' steps, here.Reordered here' →
      List.Forall₂ Reordered above above' →
      (follow here above steps).Corresponds Reordered (follow' here' above' steps))
    (hhere : here.Reordered here') (habove : List.Forall₂ Reordered above above')
    (steps : List String) :
    (walkWith top followLast follow here above steps).Corresponds Reordered
      (walkWith top' followLast follow' here' above' steps) := by
  induction steps generalizing here here' above above' with
  | nil =>
    cases hhere with
    | sealed refusal => exact .error _
    | file content => exact .ok (.file content)
    | link target => exact .ok (.link target)
    | directory access hnames hentries => exact .ok (.directory access hnames hentries)
  | cons name rest ih =>
    cases hhere with
    | file | link | sealed => exact .error _
    | @directory access entries entries' hnames hentries =>
      have hhere := Reordered.directory access hnames hentries
      by_cases hname : name = ""
      · simpa [walkWith, hname] using ih hhere habove
      cases hentering : access.entering with
      | some refusal => simpa [walkWith, hname, hentering] using .error _
      | none =>
      by_cases hdot : name = "."
      · simpa [walkWith, hdot, hentering] using ih hhere habove
      by_cases hup : name = ".."
      · cases habove with
        | nil => simpa [walkWith, hup, hentering] using ih hhere .nil
        | cons hparent habove => simpa [walkWith, hup, hentering] using ih hparent habove
      by_cases hlong : nameLimit < name.utf8ByteSize
      · simpa [walkWith, hname, hentering, hdot, hup, hlong] using .error _
      have hentry := hhere.entry? name
      simp only [walkWith, hname, hentering, hdot, hup, hlong, if_false]
      generalize entry? name entries = found, entry? name entries' = found' at hentry ⊢
      cases hentry with
      | none => exact .error _
      | some hnode =>
        cases hnode with
        | file content => exact ih (.file content) (.cons hhere habove)
        | sealed refusal => exact ih (.sealed refusal) (.cons hhere habove)
        | directory access hnames hentries =>
          exact ih (.directory access hnames hentries) (.cons hhere habove)
        | link target =>
          by_cases hlast : rest = [] ∧ followLast = false
          · simpa [hlast] using .ok (.link target)
          · by_cases habsolute : (Route.ofString target).absolute = true
            · simpa [hlast, habsolute] using hfollow _ _ _ _ _ htop .nil
            · simpa [hlast, habsolute] using hfollow _ _ _ _ _ hhere habove

theorem walk_reordered (htop : top.Reordered top') (links : Nat) (hhere : here.Reordered here')
    (habove : List.Forall₂ Reordered above above') (steps : List String) :
    (walk top followLast links here above steps).Corresponds Reordered
      (walk top' followLast links here' above' steps) := by
  induction links generalizing here here' above above' steps with
  | zero => exact walkWith_reordered htop (fun _ _ _ _ _ _ _ => .error _) hhere habove steps
  | succ links ih =>
    exact walkWith_reordered htop (fun _ _ _ _ steps h h' => ih h h' steps) hhere habove steps

theorem subdirectory_reordered (hhere : here.Reordered here') (c : Path.Component) :
    (here.subdirectory c).Reordered (here'.subdirectory c) := by
  cases hhere with
  | file | link | sealed => exact .refl _
  | @directory access entries entries' hnames hentries =>
    have hentry := Reordered.entry? (.directory access hnames hentries) c.text
    simp only [subdirectory]
    generalize entry? c.text entries = found, entry? c.text entries' = found' at hentry ⊢
    cases hentry with
    | none => exact .refl _
    | some hnode =>
      cases hnode with
      | directory access hnames hentries => exact .directory access hnames hentries
      | file | link | sealed => exact .refl _

/-- The same names lead down to reorderings, and so do the same numbers of steps up from there. -/
theorem descend_reordered (hhere : here.Reordered here') (habove : List.Forall₂ Reordered above above')
    (cs : List Path.Component) :
    (here.descend above cs).1.Reordered (here'.descend above' cs).1 ∧
      List.Forall₂ Reordered (here.descend above cs).2 (here'.descend above' cs).2 := by
  induction cs generalizing here here' above above' with
  | nil => exact ⟨hhere, habove⟩
  | cons c cs ih => exact ih (subdirectory_reordered hhere c) (.cons hhere habove)

end

end Node

/-! ## Worlds -/

namespace World

/-- Worlds that differ only in the order in which directories deliver their entries. -/
structure Reordered (w w' : World) : Prop where
  root : w.root.Reordered w'.root
  workingDirectory : w.workingDirectory = w'.workingDirectory
  places : w.places = w'.places
  environment : w.environment = w'.environment
  homes : w.homes = w'.homes
  helper : w.helper = w'.helper
  host : w.host = w'.host

namespace Reordered

variable {w w' : World} (h : w.Reordered w')
include h

theorem symm : w'.Reordered w :=
  ⟨h.root.symm, h.workingDirectory.symm, h.places.symm, h.environment.symm, h.homes.symm,
    h.helper.symm, h.host.symm⟩

theorem start (route : Route) : (w.start route).1.Reordered (w'.start route).1 ∧
    List.Forall₂ Node.Reordered (w.start route).2 (w'.start route).2 := by
  rw [World.start, World.start, h.workingDirectory]
  split
  · exact ⟨h.root, .nil⟩
  · exact Node.descend_reordered h.root .nil _

theorem find (followLast : Bool) (text : String) :
    (w.find followLast text).Corresponds Node.Reordered (w'.find followLast text) := by
  rw [World.find, World.find]
  split
  · exact .error _
  · split
    · exact .error _
    · split
      · exact .error _
      · obtain ⟨hhere, habove⟩ := h.start (Route.ofString text)
        exact Node.walk_reordered h.root _ hhere habove _

/-- A test does not look into directories, so their order does not count. -/
theorem test {accept : Node → Bool}
    (haccept : ∀ {node node' : Node}, node.Reordered node' → accept node = accept node')
    (followLast : Bool) (path : Path) :
    w.test followLast accept path = w'.test followLast accept path := by
  have hfind := h.find followLast path.toString
  rw [World.test, World.test]
  generalize w.find followLast path.toString = found, w'.find followLast path.toString = found' at *
  cases hfind with
  | ok hnode => simp [haccept hnode]
  | error obstacle => rfl

theorem pathExists (path : Path) : w.pathExists path = w'.pathExists path :=
  h.test (fun _ => rfl) true path

theorem isFile (path : Path) : w.isFile path = w'.isFile path :=
  h.test (fun hnode => by cases hnode <;> rfl) true path

theorem isSymlink (path : Path) : w.isSymlink path = w'.isSymlink path :=
  h.test (fun hnode => by cases hnode <;> rfl) false path

theorem read (text : String) : w.read text = w'.read text := by
  have hfind := h.find true text
  rw [World.read, World.read]
  generalize w.find true text = found, w'.find true text = found' at *
  cases hfind with
  | ok hnode => cases hnode <;> rfl
  | error obstacle => rfl

/-- A listing has the same entries, in some order. -/
theorem children (path : Path) : (w.children path).Corresponds List.Perm (w'.children path) := by
  have hfind := h.find true path.toString
  rw [World.children, World.children]
  generalize w.find true path.toString = found, w'.find true path.toString = found' at *
  cases hfind with
  | ok hnode =>
    cases hnode with
    | file | link | sealed => exact .error _
    | directory access hnames _ =>
      dsimp only
      cases access.listingRefusal? with
      | some refusal => exact .error _
      | none => exact .ok (hnames.map _)
  | error obstacle => exact .error _

theorem childrenIfPresent (path : Path) :
    (w.childrenIfPresent path).Corresponds List.Perm (w'.childrenIfPresent path) := by
  have hchildren := h.children path
  rw [World.childrenIfPresent, World.childrenIfPresent]
  generalize w.children path = listing, w'.children path = listing' at *
  cases hchildren with
  | ok hperm => exact .ok hperm
  | error failure => exact .refl .refl _

/-- What does not depend on the order of a listing is read off both listings alike. -/
theorem listed {f : List Path → α} (hf : ∀ cs cs', cs.Perm cs' → cs.Nodup → f cs = f cs')
    (path : Path) : (do return f (← w.childrenIfPresent path) : Except Failure α) =
      (do return f (← w'.childrenIfPresent path)) := by
  have hlisting := h.childrenIfPresent path
  cases hcs : w.childrenIfPresent path with
  | error failure =>
    rw [hcs] at hlisting
    rw [hlisting.eq_error]
  | ok cs =>
    rw [hcs] at hlisting
    obtain ⟨cs', hcs', hperm⟩ := hlisting.exists_of_ok
    rw [hcs']
    exact congrArg Except.ok (hf cs cs' hperm (childrenIfPresent_nodup hcs))

/-- Applications are put in order after the listing, so they come out the same. -/
theorem apps (directory : Path) : w.apps directory = w'.apps directory :=
  h.listed (fun _ _ hperm hnodup => appsInOrder_eq_of_perm (hperm.filter _) (hnodup.filter _))
    directory

theorem activeDeveloperDirectory : w.activeDeveloperDirectory = w'.activeDeveloperDirectory := by
  simp only [World.activeDeveloperDirectory, activeDeveloperDirectoryIn, h.environment, h.helper]

theorem existing? (path : Path) : w.existing? path = w'.existing? path :=
  existing?_congr (h.pathExists path)

theorem systemDeveloperDirectories :
    w.systemDeveloperDirectories = w'.systemDeveloperDirectories := by
  have hfound : w.developerDirectories = w'.developerDirectories :=
    funext fun _ => developerDirectories_congr fun app _ => h.pathExists (developerPath app)
  simp only [World.systemDeveloperDirectories, systemApps, h.places, h.apps, hfound]

theorem platformDirectories (developer : Path) :
    w.platformDirectories developer = w'.platformDirectories developer := by
  refine h.listed (fun cs cs' hperm hnodup => ?_) _
  refine Path.sortOn_eq_of_perm (hperm.filterMap _) (.sublist ?_ hnodup)
  exact List.map_filterMap_sublist (fun _ _ => PlatformDirectory.path_ofPath?) cs

end Reordered

end World

/-! ## SDKs -/

namespace Sdk

variable {w w' : World} (h : w.Reordered w')
include h

/-- One SDK is read alike, its settings included. -/
theorem ofDirectory_reordered (path : Path) (kind : SdkKind) :
    ofDirectory w path kind = ofDirectory w' path kind := by
  cases kind <;> simp only [ofDirectory, Settings.ofDirectory, h.isFile, h.read, h.isSymlink,
    h.host]

/-- An enumeration that succeeds does so in any order, and finds the same SDKs. -/
theorem inDirectory_reordered {kind : SdkKind} {directory : Path} {sdks : List Sdk}
    (hsdks : inDirectory w kind directory = .ok sdks) :
    ∃ sdks', inDirectory w' kind directory = .ok sdks' ∧ sdks.Perm sdks' := by
  obtain ⟨cs, hcs, hpasses, rfl⟩ := inDirectory_eq_ok_iff.mp hsdks
  have hlisting := h.childrenIfPresent directory
  rw [hcs] at hlisting
  obtain ⟨cs', hcs', hperm⟩ := hlisting.exists_of_ok
  refine ⟨_, inDirectory_eq_ok_iff.mpr ⟨cs', hcs', fun path hpath => ?_, rfl⟩, ?_⟩
  · rw [blocking?, ← ofDirectory_reordered h]
    exact hpasses path (hperm.mem_iff.mpr hpath)
  · simp only [ofDirectory_reordered h]
    exact hperm.filterMap _

end Sdk

end SdkScout
