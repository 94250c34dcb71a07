import SdkScout.Proofs.Outcome
import SdkScout.World

/-!
# Where paths lead

A walk along a path ends at a node or at an obstacle, and what is an obstacle on the way to a path is
one on the way to everything below it (`Node.walk_append`). Only a path that holds a NUL character
cannot be walked at all (`World.find_ne_unnameable`). A test of what a path leads to takes an obstacle
for an absence or fails with it: overlong names and refusals are its only failures
(`World.test_eq_error_iff`).
-/

namespace SdkScout

/-- A failure of a call to the system: it refuses, or it cannot be handed the path. -/
inductive Failure.IsOfSystem : Failure → Prop
  | system (error : SystemError) : IsOfSystem (.system error)
  | nulInPath : IsOfSystem .nulInPath

/-- An obstacle that is no absence is an error of the system at the path that it stands in the way of. -/
theorem Obstacle.exists_failure_eq {o : Obstacle} (h : o.isAbsence = false) (path : String) :
    ∃ code, o.failure path = .system ⟨code, path⟩ ∧ code ∉ SystemError.absenceCodes := by
  cases o with
  | nameTooLong => exact ⟨36, rfl, by decide⟩
  | refused refusal => exact ⟨refusal.code, rfl, refusal.notAbsence⟩
  | missing | notDirectory | tooManyLinks | unnameable => cases h

namespace Node

theorem exists_mem_of_entry? {name : String} {entries : List (Path.Component × Node)} {node : Node}
    (h : entry? name entries = some node) : ∃ c, c.text = name ∧ (c, node) ∈ entries := by
  obtain ⟨⟨c, n⟩, hfind, rfl⟩ := Option.map_eq_some_iff.mp h
  exact ⟨c, by simpa using List.find?_some hfind, List.mem_of_find?_eq_some hfind⟩

theorem walkWith_ne_unnameable {top : Node} {followLast : Bool}
    {follow : Node → List Node → List String → Except Obstacle Node}
    (hfollow : ∀ here above steps, follow here above steps ≠ .error .unnameable)
    (here : Node) (above : List Node) (steps : List String) :
    walkWith top followLast follow here above steps ≠ .error .unnameable := by
  fun_induction walkWith top followLast follow here above steps with
  | case1 | case2 | case4 | case8 | case9 | case10 | case14 | case15 => simp
  | case3 | case5 | case6 | case7 | case13 => assumption
  -- An absolute link starts over at the root, and a relative one where it is.
  | case11 | case12 => exact hfollow _ _ _

theorem walk_ne_unnameable {top : Node} {followLast : Bool} (links : Nat) (here : Node)
    (above : List Node) (steps : List String) :
    walk top followLast links here above steps ≠ .error .unnameable := by
  induction links generalizing here above steps with
  | zero => exact walkWith_ne_unnameable (by simp) here above steps
  | succ links ih => exact walkWith_ne_unnameable ih here above steps

/-- What stops a walk stops every longer one, whatever becomes of a link at the end. -/
theorem walkWith_append {top : Node} {followLast : Bool}
    {follow follow' : Node → List Node → List String → Except Obstacle Node} {more : List String}
    {o : Obstacle} (hfollow : ∀ here above steps, follow here above steps = .error o →
      follow' here above (steps ++ more) = .error o) {here : Node} {above : List Node}
    {steps : List String} (h : walkWith top followLast follow here above steps = .error o) :
    walkWith top true follow' here above (steps ++ more) = .error o := by
  fun_induction walkWith top followLast follow here above steps with
  | case1 => cases more <;> simpa [walkWith] using h
  | case2 | case10 => cases h
  | case3 _ _ _ _ ih => simpa [walkWith] using ih h
  | case4 _ _ _ _ _ hname _ hrefused => simpa [walkWith, hname, hrefused] using h
  | case5 _ _ _ _ hopen _ ih => simpa [walkWith, hopen] using ih h
  | case6 _ _ _ hopen _ _ ih => simpa [walkWith, hopen] using ih h
  | case7 _ _ _ hopen _ _ _ _ ih => simpa [walkWith, hopen] using ih h
  | case8 _ _ _ _ _ hname hopen hdot hup hlong =>
    simpa [walkWith, hname, hopen, hdot, hup, hlong] using h
  | case9 _ _ _ _ _ hname hopen hdot hup hlong hentry =>
    simpa [walkWith, hname, hopen, hdot, hup, hlong, hentry] using h
  -- The longer walk does not end at the link, so it follows it as well.
  | case11 above name rest access entries hname hopen hdot hup hlong target hentry _ route habsolute =>
    have habsolute : (Route.ofString target).absolute = true := habsolute
    simpa [walkWith, hname, hopen, hdot, hup, hlong, hentry, habsolute] using hfollow _ _ _ h
  | case12 above name rest access entries hname hopen hdot hup hlong target hentry _ route habsolute =>
    have habsolute : ¬ (Route.ofString target).absolute = true := habsolute
    simpa [walkWith, hname, hopen, hdot, hup, hlong, hentry, habsolute] using hfollow _ _ _ h
  | case13 above name rest access entries hname hopen hdot hup hlong node hlink hentry ih =>
    simpa [walkWith, hname, hopen, hdot, hup, hlong, hentry] using ih h
  | case14 => simpa [walkWith] using h
  | case15 => simp_all [walkWith]

/-- An obstacle on the way stays one, however the way goes on. -/
theorem walk_append {top : Node} {followLast : Bool} {links : Nat} {here : Node} {above : List Node}
    {steps more : List String} {o : Obstacle}
    (h : walk top followLast links here above steps = .error o) :
    walk top true links here above (steps ++ more) = .error o := by
  induction links generalizing here above steps with
  | zero => exact walkWith_append (fun _ _ _ hlink => hlink) h
  | succ links ih => exact walkWith_append (fun _ _ _ hlink => ih hlink) h

/-- A tree in which the system refuses nothing. -/
inductive Open : Node → Prop
  | file (content : List UInt8) : Open (.file (.ok content))
  | link (target : String) : Open (.link target)
  | directory {entries : List (Path.Component × Node)} :
    (∀ c node, (c, node) ∈ entries → Open node) → Open (.directory {} entries)

theorem Open.of_entry? {access : Access} {entries : List (Path.Component × Node)} {name : String}
    {node : Node} (h : (Node.directory access entries).Open)
    (hentry : Node.entry? name entries = some node) : node.Open := by
  obtain ⟨c, -, hmem⟩ := exists_mem_of_entry? hentry
  cases h with
  | directory hentries => exact hentries c node hmem

section
variable {top here : Node} {above : List Node} {followLast : Bool}

/-- A walk through what is open is not refused. -/
theorem walkWith_ne_refused {follow : Node → List Node → List String → Except Obstacle Node}
    (htop : top.Open) (hfollow : ∀ here above steps, here.Open → (∀ node ∈ above, node.Open) →
      ∀ refusal, follow here above steps ≠ .error (.refused refusal))
    (hhere : here.Open) (habove : ∀ node ∈ above, node.Open) (steps : List String)
    (refusal : Refusal) :
    walkWith top followLast follow here above steps ≠ .error (.refused refusal) := by
  fun_induction walkWith top followLast follow here above steps with
  | case1 | case14 => cases hhere
  | case2 | case8 | case9 | case10 | case15 => simp
  | case3 _ _ _ _ ih | case5 _ _ _ _ _ _ ih => exact ih hhere habove
  | case4 _ _ _ _ _ _ _ hrefused =>
    cases hhere
    cases hrefused
  | case6 _ _ _ _ _ _ ih => exact ih hhere (by simp)
  | case7 _ _ _ _ parent above _ _ ih =>
    obtain ⟨hparent, habove⟩ := List.forall_mem_cons.mp habove
    exact ih hparent habove
  | case11 => exact hfollow _ _ _ htop (by simp) refusal
  | case12 => exact hfollow _ _ _ hhere habove refusal
  | case13 above name rest access entries _ _ _ _ _ node _ hentry ih =>
    have hnode := hhere.of_entry? hentry
    exact ih hnode (List.forall_mem_cons.mpr ⟨hhere, habove⟩)

theorem walk_ne_refused (htop : top.Open) (links : Nat) (hhere : here.Open)
    (habove : ∀ node ∈ above, node.Open) (steps : List String) (refusal : Refusal) :
    walk top followLast links here above steps ≠ .error (.refused refusal) := by
  induction links generalizing here above steps refusal with
  | zero => exact walkWith_ne_refused htop (by simp) hhere habove steps refusal
  | succ links ih =>
    exact walkWith_ne_refused htop (fun _ _ steps h h' => ih h h' steps) hhere habove steps refusal

theorem Open.subdirectory (hhere : here.Open) (c : Path.Component) : (here.subdirectory c).Open := by
  have hempty : Open (.directory {} []) := .directory (by simp)
  cases hhere with
  | file | link => exact hempty
  | directory hentries =>
    simp only [Node.subdirectory]
    split
    · rename_i hentry
      exact Open.of_entry? (.directory hentries) hentry
    · exact hempty

theorem Open.descend (hhere : here.Open) (habove : ∀ node ∈ above, node.Open)
    (cs : List Path.Component) :
    (here.descend above cs).1.Open ∧ ∀ node ∈ (here.descend above cs).2, node.Open := by
  induction cs generalizing here above with
  | nil => exact ⟨hhere, habove⟩
  | cons c cs ih => exact ih (hhere.subdirectory c) (List.forall_mem_cons.mpr ⟨hhere, habove⟩)

end

end Node

namespace World

variable {w : World} {followLast : Bool} {accept : Node → Bool} {path : Path}

theorem find_ne_unnameable {text : String} (h : '\x00' ∉ text.toList) :
    w.find followLast text ≠ .error .unnameable := by
  have hnul : text.toList.contains '\x00' = false := by simpa using h
  rw [find, hnul]
  split
  · contradiction
  · split
    · simp
    · split
      · simp
      · exact fun hwalk => Node.walk_ne_unnameable _ _ _ _ hwalk

/-- Nothing in the world is refused. -/
theorem find_ne_refused (h : w.root.Open) (followLast : Bool) (text : String) (refusal : Refusal) :
    w.find followLast text ≠ .error (.refused refusal) := by
  have hstart : (w.start (Route.ofString text)).1.Open ∧
      ∀ node ∈ (w.start (Route.ofString text)).2, node.Open := by
    rw [start]
    split
    · exact ⟨h, by simp⟩
    · exact h.descend (by simp) _
  rw [find]
  split
  · simp
  · split
    · simp
    · split
      · simp
      · exact Node.walk_ne_refused h _ hstart.1 hstart.2 _ refusal

/-- A test fails with the obstacle on the way, if that is no absence. -/
theorem test_eq_error_iff {failure : Failure} :
    w.test followLast accept path = .error failure ↔
      ∃ o, w.find followLast path.toString = .error o ∧ o.isAbsence = false ∧
        failure = o.failure path.toString := by
  rw [test]
  cases w.find followLast path.toString with
  | ok node => simp
  | error o =>
    cases h : o.isAbsence with
    | true => simp [h]
    | false => simpa [h] using eq_comm

/-- A test fails with an error of the system that is no absence. -/
theorem exists_of_test_eq_error {failure : Failure}
    (h : w.test followLast accept path = .error failure) :
    ∃ code, failure = .system ⟨code, path.toString⟩ ∧ code ∉ SystemError.absenceCodes := by
  obtain ⟨o, -, ho, rfl⟩ := test_eq_error_iff.mp h
  exact Obstacle.exists_failure_eq ho _

/-- Where nothing is refused, a test fails only for an overlong name. -/
theorem test_eq_error_iff_of_open {failure : Failure} (h : w.root.Open) :
    w.test followLast accept path = .error failure ↔
      w.find followLast path.toString = .error .nameTooLong ∧
        failure = .system ⟨36, path.toString⟩ := by
  rw [test_eq_error_iff]
  constructor
  · rintro ⟨o, hfind, ho, rfl⟩
    cases o with
    | nameTooLong => exact ⟨hfind, rfl⟩
    | refused refusal => exact absurd hfind (find_ne_refused h _ _ _)
    | missing | notDirectory | tooManyLinks | unnameable => cases ho
  · rintro ⟨hfind, rfl⟩
    exact ⟨_, hfind, rfl, rfl⟩

theorem pathExists_eq_true_iff :
    w.pathExists path = .ok true ↔ ∃ node, w.find true path.toString = .ok node := by
  rw [pathExists, test]
  cases w.find true path.toString with
  | ok node => simp
  | error o => cases h : o.isAbsence <;> simp [h]

/-- What is absent counts as not there, for whatever reason. -/
theorem pathExists_eq_false_iff :
    w.pathExists path = .ok false ↔
      ∃ o, w.find true path.toString = .error o ∧ o.isAbsence = true := by
  rw [pathExists, test]
  cases w.find true path.toString with
  | ok node => simp
  | error o => cases h : o.isAbsence <;> simp [h]

/-- A file is one even if it cannot be read. -/
theorem isFile_eq_true_iff :
    w.isFile path = .ok true ↔ ∃ content, w.find true path.toString = .ok (.file content) := by
  rw [isFile, test]
  cases w.find true path.toString with
  | ok node => cases node <;> simp [Node.isFile]
  | error o => cases h : o.isAbsence <;> simp [h]

theorem read_eq_of_find {text : String} {content : Except Refusal (List UInt8)}
    (h : w.find true text = .ok (.file content)) :
    w.read text = content.mapError fun refusal => .system ⟨refusal.code, text⟩ := by
  rw [read, h]
  cases content <;> rfl

/-- A listing fails as the system does, or for a name that is none. -/
theorem childrenIfPresent_fails {failure : Failure} (h : w.childrenIfPresent path = .error failure) :
    (∃ e, failure = .system e) ∨
      failure = .nulInPath ∧ w.find true path.toString = .error .unnameable := by
  rw [childrenIfPresent] at h
  split at h
  · cases h
  · rw [children] at h
    split at h
    · split at h
      · cases h
        exact .inl ⟨_, rfl⟩
      · cases h
    · cases h
      exact .inl ⟨_, rfl⟩
    · rename_i obstacle hfind
      cases h
      cases obstacle with
      | unnameable => exact .inr ⟨rfl, hfind⟩
      | _ => exact .inl ⟨_, rfl⟩

theorem childrenIfPresent_eq_error {failure : Failure} (hnul : '\x00' ∉ path.toString.toList)
    (h : w.childrenIfPresent path = .error failure) : ∃ e, failure = .system e := by
  rcases childrenIfPresent_fails h with hsystem | ⟨-, hfind⟩
  · exact hsystem
  · exact absurd hfind (find_ne_unnameable hnul)

theorem isOfSystem_childrenIfPresent {failure : Failure}
    (h : w.childrenIfPresent path = .error failure) : failure.IsOfSystem := by
  rcases childrenIfPresent_fails h with ⟨e, rfl⟩ | ⟨rfl, -⟩
  · exact .system e
  · exact .nulInPath

end World

end SdkScout
