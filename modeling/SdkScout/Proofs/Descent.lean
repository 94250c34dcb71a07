import SdkScout.Proofs.PathText
import SdkScout.Proofs.Walk

/-!
# One step further down

The walk to a child of a path is the walk to the path and one step more (`Route.ofString_child`). So an
obstacle on the way to the path is one on the way to the child (`World.find_child_of_error`), and the
child of a directory that has no such entry is missing (`World.find_child_of_unlisted`), as long as the
system takes the text of the child at all (`Path.Fits`) and lets the walk go on from the directory.
-/

namespace SdkScout

namespace Path

theorem exists_intercalate_append (parts : List Component) (c : Component) :
    ∃ before, "/".intercalate ((parts ++ [c]).map (·.text)) = before ++ c.text := by
  rw [List.map_append, List.map_singleton]
  by_cases h : parts = []
  · exact ⟨"", by simp [h]⟩
  · exact ⟨_, String.intercalate_append_of_ne_nil (by simpa using h) (by simp)⟩

theorem toString_child (p : Path) (c : Component) :
    (p.child c).toString = p.root.text ++ "/".intercalate ((p.parts ++ [c]).map (·.text)) :=
  toString_of_parts_ne_nil (by simp [child])

/-- A text of two names behind a path ends in a slash and the last name. -/
theorem toString_child_child (p : Path) (c d : Component) :
    ((p.child c).child d).toString = (p.child c).toString ++ "/" ++ d.text := by
  rw [toString_child, toString_child, child, List.map_append, List.map_singleton,
    String.intercalate_append_of_ne_nil (by simp) (by simp), String.intercalate_singleton]
  simp [String.append_assoc]

/-- The text of a path with a name is not empty, and no slash is at its end. -/
theorem getLast?_toString_child (p : Path) (c : Component) :
    ∃ last, (p.child c).toString.toList.getLast? = some last ∧ last ≠ '/' := by
  obtain ⟨before, hbefore⟩ := exists_intercalate_append p.parts c
  have hc : c.text.toList ≠ [] := by simpa using c.valid.1
  have hlast : (p.child c).toString.toList.getLast? = c.text.toList.getLast? := by
    rw [toString_child, hbefore, String.toList_append, String.toList_append, ← List.append_assoc,
      List.getLast?_append_of_ne_nil _ hc]
  refine ⟨c.text.toList.getLast hc, by rw [hlast, List.getLast?_eq_some_getLast hc], fun h => ?_⟩
  exact c.valid.2.2 (h ▸ List.getLast_mem hc)

end Path

/-- A name behind a slash is one more step. -/
theorem Route.ofString_append {text : String} {last : Char} (c : Path.Component)
    (htext : text.toList.getLast? = some last) (hlast : last ≠ '/') :
    Route.ofString (text ++ "/" ++ c.text) =
      { Route.ofString text with steps := (Route.ofString text).steps ++ [c.text] } := by
  obtain ⟨name, hname, -, hslash⟩ := c
  have hchars : (text ++ "/" ++ name).toList = text.toList ++ '/' :: name.toList := by simp
  have hne : text.toList ≠ [] := by
    intro h
    rw [h] at htext
    cases htext
  have hnonempty : name.toList ≠ [] := by simpa using hname
  have hnameLast : name.toList.getLast? ≠ some '/' := fun h => hslash (List.mem_of_getLast? h)
  have hfirst : (text.toList ++ '/' :: name.toList).head? = text.toList.head? :=
    List.head?_append_of_ne_nil _ hne
  have hend : (text.toList ++ '/' :: name.toList).getLast? = name.toList.getLast? := by
    rw [List.append_cons, List.getLast?_append_of_ne_nil _ hnonempty]
  have hsplit : (text.toList ++ '/' :: name.toList).splitOn '/' =
      text.toList.splitOn '/' ++ [name.toList] := by
    have hname : name.toList.splitOn '/' = [name.toList] :=
      List.splitOnP_eq_singleton fun x hx => by simpa using fun h : x = '/' => hslash (h ▸ hx)
    rw [← hname]
    exact List.splitOnP_append_cons _ _ (by simp)
  simp only [ofString, hchars, hfirst, hend, hsplit, if_neg hnameLast, htext, Option.some.injEq,
    if_neg hlast]
  simp [hname]

theorem Route.ofString_child (p : Path) (c d : Path.Component) :
    Route.ofString ((p.child c).child d).toString =
      { Route.ofString (p.child c).toString with
        steps := (Route.ofString (p.child c).toString).steps ++ [d.text] } := by
  obtain ⟨last, htext, hlast⟩ := p.getLast?_toString_child c
  rw [p.toString_child_child, Route.ofString_append d htext hlast]

/-- The system takes the text of a path. -/
structure Path.Fits (p : Path) : Prop where
  nul : '\x00' ∉ p.toString.toList
  short : p.toString.utf8ByteSize ≤ Node.pathLimit

/-- What the system takes as a path it takes without the last name as well. -/
theorem Path.Fits.of_child {p : Path} {c d : Component} (h : ((p.child c).child d).Fits) :
    (p.child c).Fits := by
  obtain ⟨hnul, hshort⟩ := h
  rw [toString_child_child] at hnul hshort
  refine ⟨fun hmem => hnul ?_, ?_⟩
  · simp [hmem]
  · simp only [String.utf8ByteSize_append] at hshort
    omega

theorem Path.toString_ne_empty (p : Path) : p.toString ≠ "" := by
  rw [toString]
  split
  · decide
  · assumption

namespace Node

variable {top node : Node} {here : Node} {above : List Node} {steps : List String}

/-- A walk that gets somewhere goes on from there, with the links that it has left. -/
theorem walkWith_append_of_ok {follow : Node → List Node → List String → Except Obstacle Node}
    (links : Nat) (hself : walkWith top true follow = walk top true links)
    (hfollow : ∀ here above steps, follow here above steps = .ok node →
      ∃ left above', ∀ more, follow here above (steps ++ more) = walk top true left node above' more)
    (h : walkWith top true follow here above steps = .ok node) :
    ∃ left above', ∀ more,
      walkWith top true follow here above (steps ++ more) = walk top true left node above' more := by
  fun_induction walkWith top true follow here above steps with
  | case2 here above =>
    cases h
    exact ⟨links, above, fun more => by rw [List.nil_append, hself]⟩
  | case3 _ _ _ _ ih => simpa [walkWith] using ih h
  | case5 _ _ _ _ hopen _ ih => simpa [walkWith, hopen] using ih h
  | case6 _ _ _ hopen _ _ ih => simpa [walkWith, hopen] using ih h
  | case7 _ _ _ hopen _ _ _ _ ih => simpa [walkWith, hopen] using ih h
  | case1 | case4 | case8 | case9 | case14 | case15 => cases h
  | case10 above name rest access entries hname hopen hdot hup hlong target hentry hlast =>
    cases hlast.2
  -- Behind a link the walk is one with fewer links, even if the link comes last.
  | case11 above name rest access entries hname hopen hdot hup hlong target hentry _ route habsolute =>
    have habsolute : (Route.ofString target).absolute = true := habsolute
    simpa [walkWith, hname, hopen, hdot, hup, hlong, hentry, habsolute] using hfollow _ _ _ h
  | case12 above name rest access entries hname hopen hdot hup hlong target hentry _ route habsolute =>
    have habsolute : ¬ (Route.ofString target).absolute = true := habsolute
    simpa [walkWith, hname, hopen, hdot, hup, hlong, hentry, habsolute] using hfollow _ _ _ h
  | case13 above name rest access entries hname hopen hdot hup hlong node hlink hentry ih =>
    simpa [walkWith, hname, hopen, hdot, hup, hlong, hentry] using ih h

/-- A walk that arrives goes on from where it arrived, with the links that are left. -/
theorem walk_append_of_ok {links : Nat} (h : walk top true links here above steps = .ok node) :
    ∃ left above', ∀ more,
      walk top true links here above (steps ++ more) = walk top true left node above' more := by
  induction links generalizing here above steps with
  | zero => exact walkWith_append_of_ok 0 rfl (fun _ _ _ hlink => nomatch hlink) h
  | succ links ih => exact walkWith_append_of_ok (links + 1) rfl (fun _ _ _ hlink => ih hlink) h

section

variable {links : Nat} {name : String} {access : Access} {entries : List (Path.Component × Node)}

/-- A step from a directory that the system does not let the walk go on from. -/
theorem walk_of_refused {refusal : Refusal} (hname : name ≠ "")
    (hentering : access.entering = some refusal) :
    walk top true links (.directory access entries) above [name] = .error (.refused refusal) := by
  cases links <;> simp [walk, walkWith, hname, hentering]

/-- A step to an entry that is not there. -/
theorem walk_of_unlisted (hname : name ≠ "") (hdot : name ≠ ".") (hup : name ≠ "..")
    (hopen : access.entering = none) (hshort : name.utf8ByteSize ≤ nameLimit)
    (hentry : entry? name entries = none) :
    walk top true links (.directory access entries) above [name] = .error .missing := by
  cases links <;> simp [walk, walkWith, hname, hdot, hup, hopen, Nat.not_lt.mpr hshort, hentry]

/-- A step by a name that is too long for an entry. -/
theorem walk_of_overlong (hname : name ≠ "") (hdot : name ≠ ".") (hup : name ≠ "..")
    (hopen : access.entering = none) (hlong : nameLimit < name.utf8ByteSize) :
    walk top true links (.directory access entries) above [name] = .error .nameTooLong := by
  cases links <;> simp [walk, walkWith, hname, hdot, hup, hopen, hlong]

end

end Node

namespace World

variable {w : World} {followLast : Bool} {p : Path} {c d : Path.Component}

/-- A path that leads somewhere is one that the system takes. -/
theorem fits_of_find_eq_ok {node : Node} (h : w.find followLast p.toString = .ok node) : p.Fits := by
  rw [find] at h
  split at h
  · cases h
  · rename_i hnul
    split at h
    · cases h
    · split at h
      · cases h
      · exact ⟨by simpa using hnul, Nat.not_lt.mp ‹_›⟩

theorem find_eq_walk (h : p.Fits) : w.find followLast p.toString =
    Node.walk w.root followLast Node.linkLimit (w.start (Route.ofString p.toString)).1
      (w.start (Route.ofString p.toString)).2 (Route.ofString p.toString).steps := by
  have hnul : ¬ p.toString.toList.contains '\x00' = true := by simpa using h.nul
  rw [find, if_neg hnul, if_neg p.toString_ne_empty, if_neg (Nat.not_lt.mpr h.short)]

theorem find_child_eq_walk (h : ((p.child c).child d).Fits) :
    w.find followLast ((p.child c).child d).toString =
      Node.walk w.root followLast Node.linkLimit (w.start (Route.ofString (p.child c).toString)).1
        (w.start (Route.ofString (p.child c).toString)).2
        ((Route.ofString (p.child c).toString).steps ++ [d.text]) := by
  rw [find_eq_walk h, Route.ofString_child]
  rfl

/-- What is in the way to a path is in the way to all below it. -/
theorem find_child_of_error {o : Obstacle} (hfits : ((p.child c).child d).Fits)
    (h : w.find followLast (p.child c).toString = .error o) :
    w.find true ((p.child c).child d).toString = .error o := by
  rw [find_eq_walk hfits.of_child] at h
  rw [find_child_eq_walk hfits]
  exact Node.walk_append h

/-- What is on the way to a path and is no absence is on the way to all below it, unless the system
takes the text of that for too long. -/
theorem find_child_of_not_absence {o : Obstacle} (hnul : '\x00' ∉ d.text.toList)
    (h : w.find followLast (p.child c).toString = .error o) (ho : o.isAbsence = false) :
    w.find true ((p.child c).child d).toString = .error o ∨
      w.find true ((p.child c).child d).toString = .error .nameTooLong := by
  have hparent : '\x00' ∉ (p.child c).toString.toList := fun hmem => by
    obtain rfl : o = .unnameable := by simpa [find, hmem, eq_comm] using h
    cases ho
  have hchild : '\x00' ∉ ((p.child c).child d).toString.toList := by
    rw [Path.toString_child_child]
    simp [hparent, hnul]
  by_cases hshort : ((p.child c).child d).toString.utf8ByteSize ≤ Node.pathLimit
  · exact .inl (find_child_of_error ⟨hchild, hshort⟩ h)
  · refine .inr ?_
    rw [find, if_neg (by simpa using hchild), if_neg (Path.toString_ne_empty _),
      if_pos (Nat.not_le.mp hshort)]

/-- A name that is too long on the way to a path is too long on the way to all below it. -/
theorem find_child_nameTooLong (hnul : '\x00' ∉ d.text.toList)
    (h : w.find followLast (p.child c).toString = .error .nameTooLong) :
    w.find true ((p.child c).child d).toString = .error .nameTooLong :=
  or_self_iff.mp (find_child_of_not_absence hnul h rfl)

/-- Where a test of a path fails, every test of something below it fails. -/
theorem test_child_of_error {accept accept' : Node → Bool} {failure : Failure}
    (hnul : '\x00' ∉ d.text.toList)
    (h : w.test followLast accept (p.child c) = .error failure) :
    ∃ failure', w.test true accept' ((p.child c).child d) = .error failure' := by
  obtain ⟨o, hfind, ho, -⟩ := test_eq_error_iff.mp h
  rcases find_child_of_not_absence hnul hfind ho with hchild | hchild
  · exact ⟨_, test_eq_error_iff.mpr ⟨o, hchild, ho, rfl⟩⟩
  · exact ⟨_, test_eq_error_iff.mpr ⟨.nameTooLong, hchild, rfl, rfl⟩⟩

section

variable {access : Access} {entries : List (Path.Component × Node)}

/-- A walk that gets to a directory goes on from there by one step. -/
theorem find_child_of_directory (hfits : ((p.child c).child d).Fits)
    (h : w.find true (p.child c).toString = .ok (.directory access entries)) :
    ∃ left above, w.find true ((p.child c).child d).toString =
      Node.walk w.root true left (.directory access entries) above [d.text] := by
  rw [find_eq_walk hfits.of_child] at h
  obtain ⟨left, above, hwalk⟩ := Node.walk_append_of_ok h
  exact ⟨left, above, by rw [find_child_eq_walk hfits, hwalk]⟩

/-- Nothing can be reached below a directory that may not be entered. -/
theorem find_child_of_refused {refusal : Refusal} (hfits : ((p.child c).child d).Fits)
    (hentering : access.entering = some refusal)
    (h : w.find true (p.child c).toString = .ok (.directory access entries)) :
    w.find true ((p.child c).child d).toString = .error (.refused refusal) := by
  obtain ⟨left, above, hwalk⟩ := find_child_of_directory hfits h
  rw [hwalk, Node.walk_of_refused d.valid.1 hentering]

/-- A name that is not listed leads nowhere. -/
theorem find_child_of_unlisted (hfits : ((p.child c).child d).Fits) (hup : d.text ≠ "..")
    (hopen : access.entering = none) (hshort : d.text.utf8ByteSize ≤ Node.nameLimit)
    (h : w.find true (p.child c).toString = .ok (.directory access entries))
    (hentry : Node.entry? d.text entries = none) :
    w.find true ((p.child c).child d).toString = .error .missing := by
  obtain ⟨left, above, hwalk⟩ := find_child_of_directory hfits h
  rw [hwalk, Node.walk_of_unlisted d.valid.1 d.valid.2.1 hup hopen hshort hentry]

/-- A name that is too long is refused before it is looked up. -/
theorem find_child_of_overlong (hfits : ((p.child c).child d).Fits) (hup : d.text ≠ "..")
    (hopen : access.entering = none) (hlong : Node.nameLimit < d.text.utf8ByteSize)
    (h : w.find true (p.child c).toString = .ok (.directory access entries)) :
    w.find true ((p.child c).child d).toString = .error .nameTooLong := by
  obtain ⟨left, above, hwalk⟩ := find_child_of_directory hfits h
  rw [hwalk, Node.walk_of_overlong d.valid.1 d.valid.2.1 hup hopen hlong]

end

end World

end SdkScout
